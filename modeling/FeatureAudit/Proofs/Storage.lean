import FeatureAudit.Disk.Tree
import FeatureAudit.Proofs.Paths
import Mathlib.Tactic.SplitIfs

/-! A file that has been written is read back from the same path. -/
namespace FeatureAudit.Disk

variable {name k : String} {new n m : Node} {entries : List (String × Node)}
  {names place p q : List String} {t t' : Tree} {path : String} {bytes : List UInt8}

/-! Nodes. -/

namespace Node

theorem lookup_put : (put name new entries).lookup k =
    if k = name then some new else entries.lookup k := by
  induction entries with
  | nil =>
    by_cases h : k = name
    · simp [put, h]
    · simp [put, List.lookup_cons, beq_false_of_ne h, h]
  | cons e es ih =>
    obtain ⟨l, n⟩ := e
    by_cases hl : l = name
    · subst hl
      rw [put, if_pos rfl, List.lookup_cons, List.lookup_cons]
      by_cases h : k = l
      · simp [h]
      · simp [beq_false_of_ne h, h]
    · rw [put, if_neg hl, List.lookup_cons, List.lookup_cons, ih]
      by_cases h : k = l
      · simp [h, hl]
      · simp [beq_false_of_ne h]

theorem at?_cons : (folder entries).at? (k :: q) = (entries.lookup k).bind (·.at? q) := rfl

theorem at?_concat (h : n.at? p = some (folder entries)) (name : String) :
    n.at? (p ++ [name]) = entries.lookup name := by
  rw [at?] at h ⊢
  rw [List.foldlM_append, h]
  exact Option.bind_fun_some _

theorem exists_of_at?_cons (h : n.at? (k :: q) = some m) :
    ∃ entries inner, n = folder entries ∧ entries.lookup k = some inner ∧ inner.at? q = some m := by
  cases n with
  | file bytes => cases h
  | folder entries =>
    obtain ⟨inner, hinner, hm⟩ := Option.bind_eq_some_iff.1 h
    exact ⟨entries, inner, rfl, hinner, hm⟩

/-- Every folder stays a folder, and no name in it is lost. -/
def Grows (n n' : Node) : Prop :=
  ∀ q entries, n.at? q = some (folder entries) → ∃ entries', n'.at? q = some (folder entries') ∧
    ∀ k, (entries.lookup k).isSome → (entries'.lookup k).isSome

theorem grows_put (hname : ∀ inner, entries.lookup name = some inner → inner.Grows new) :
    (folder entries).Grows (folder (put name new entries)) := by
  intro q es h
  cases q with
  | nil =>
    cases h
    refine ⟨_, rfl, fun k hk => ?_⟩
    rw [lookup_put]
    split
    · rfl
    · exact hk
  | cons k q =>
    rw [at?_cons] at h ⊢
    rw [lookup_put]
    by_cases hk : k = name
    · subst hk
      obtain ⟨inner, hinner, hq⟩ := Option.bind_eq_some_iff.1 h
      rw [if_pos rfl]
      exact hname inner hinner q es hq
    · rw [if_neg hk]
      exact ⟨es, h, fun _ => id⟩

theorem grows_file : (file bytes).Grows n := by
  intro q es h
  cases q <;> cases h

/-- A new file is found where it is put, and the folders stay. -/
theorem putAt_file (hp : n.at? p = some (folder entries))
    (hfile : ∀ es, entries.lookup name ≠ some (folder es)) (bytes : List UInt8) :
    n.Grows (n.putAt (p ++ [name]) (file bytes)) ∧
      (n.putAt (p ++ [name]) (file bytes)).at? (p ++ [name]) = some (file bytes) := by
  induction p generalizing n with
  | nil =>
    cases hp
    refine ⟨grows_put fun inner hinner => ?_, ?_⟩
    · cases inner with
      | file bytes => exact grows_file
      | folder es => exact absurd hinner (hfile es)
    · simp [putAt, at?_cons, lookup_put]
      rfl
  | cons x p ih =>
    obtain ⟨es, inner, rfl, hinner, hp⟩ := exists_of_at?_cons hp
    obtain ⟨hgrows, hat⟩ := ih hp
    have hput : (folder es).putAt (x :: p ++ [name]) (file bytes) =
        folder (put x (inner.putAt (p ++ [name]) (file bytes)) es) := by
      rw [List.cons_append, putAt]
      · rw [hinner]
      · simp
    rw [hput]
    refine ⟨grows_put fun i hi => ?_, ?_⟩
    · cases hinner.symm.trans hi
      exact hgrows
    · rw [List.cons_append, at?_cons, lookup_put, if_pos rfl]
      exact hat

end Node

namespace Tree

/-- The place that one name leads to. -/
def enter (t : Tree) (place : List String) (name : String) : Except Error (List String) :=
  match t.root.at? place with
  | some (.folder entries) =>
    if name = "" ∨ name = "." then .ok place
    else if name = ".." then .ok place.dropLast
    else if maxNameBytes < name.utf8ByteSize then .error .nameTooLong
    else if (entries.lookup name).isSome then .ok (place ++ [name])
    else .error .missing
  | some (.file _) => .error .notFolder
  | none => .error .missing

theorem follow_cons : t.follow p (name :: names) = (t.enter p name).bind (t.follow · names) := by
  rw [follow, enter]
  cases t.root.at? p with
  | none => rfl
  | some n =>
    cases n with
    | file bytes => rfl
    | folder entries =>
      dsimp only
      split_ifs <;> rfl

theorem enter_of_grows (hg : t.root.Grows t'.root) (h : t.enter p name = .ok q) :
    t'.enter p name = .ok q := by
  unfold enter at h ⊢
  split at h
  · next entries hp =>
    obtain ⟨entries', hp', hkept⟩ := hg p entries hp
    rw [hp']
    dsimp only
    -- only the last condition depends on the tree
    split_ifs at h ⊢
    · exact h
    · exact h
    · exact h
    · next hgone hthere => exact absurd (hkept name hthere) hgone
  · cases h
  · cases h

theorem follow_of_grows (hg : t.root.Grows t'.root) (h : t.follow p names = .ok q) :
    t'.follow p names = .ok q := by
  induction names generalizing p with
  | nil => exact h
  | cons name names ih =>
    rw [follow_cons] at h ⊢
    cases he : t.enter p name with
    | error e => rw [he] at h; cases h
    | ok place =>
      rw [he] at h
      rw [enter_of_grows hg he]
      exact ih h

theorem follow_append (h : t.follow p names = .ok q) (more : List String) :
    t.follow p (names ++ more) = t.follow q more := by
  induction names generalizing p with
  | nil => cases h; rfl
  | cons name names ih =>
    rw [follow_cons] at h
    rw [List.cons_append, follow_cons]
    cases he : t.enter p name with
    | error e => rw [he] at h; cases h
    | ok place =>
      rw [he] at h
      exact ih h

theorem namesOf_ne_nil (path : String) : namesOf path ≠ [] := by
  simp [namesOf, Text.splitWhere_ne_nil]

/-- What has to be in place for a file to be written. -/
theorem target?_eq_some (h : t.target? path = some place) :
    path.toList.contains '\x00' = false ∧
    ∃ before name entries folder, namesOf path = before ++ [name] ∧
      (¬ (name = "" ∨ name = ".") ∧ name ≠ ".." ∧ name.utf8ByteSize ≤ maxNameBytes) ∧
      t.follow (t.start path) before = .ok folder ∧
      t.root.at? folder = some (.folder entries) ∧ (∀ es, entries.lookup name ≠ some (.folder es)) ∧
      place = folder ++ [name] := by
  obtain ⟨before, name, hnames⟩ : ∃ before name, namesOf path = before ++ [name] :=
    ⟨_, _, (List.dropLast_concat_getLast (namesOf_ne_nil path)).symm⟩
  unfold target? at h
  simp only [hnames, List.getLastD_concat, List.dropLast_concat] at h
  split at h
  · cases h
  · next hnul =>
    split at h
    · cases h
    · next hname =>
      split at h
      · cases h
      · next folder hfollow =>
        split at h
        · next entries hfolder =>
          split at h
          · cases h
          · next hfile =>
            cases h
            refine ⟨by simpa using hnul, before, name, entries, folder, hnames, ?_, hfollow,
              hfolder, hfile, rfl⟩
            simp only [not_or, Nat.not_lt] at hname ⊢
            exact ⟨⟨hname.1, hname.2.1⟩, hname.2.2⟩
        · cases h

theorem read_of_file {text : String} (hr : t.resolve path = .ok place)
    (hf : t.root.at? place = some (.file text.toUTF8.toList)) : t.read path = .ok text := by
  simp only [read, hr, hf, Text.fromUTF8?_toUTF8, bind, Except.bind]

theorem read_write {text : String} (h : t.write path text.toUTF8.toList = some t') :
    t'.read path = .ok text := by
  obtain ⟨place, htarget, rfl⟩ := Option.map_eq_some_iff.1 h
  obtain ⟨hnul, before, name, entries, folder, hnames, ⟨hstay, hup, hshort⟩, hfollow, hfolder,
    hfile, rfl⟩ := target?_eq_some htarget
  obtain ⟨hgrows, hat⟩ := Node.putAt_file hfolder hfile text.toUTF8.toList
  generalize hroot : t.root.putAt (folder ++ [name]) (.file text.toUTF8.toList) = root at hgrows hat
  have hpath : path.isEmpty = false := by
    cases he : path.isEmpty with
    | false => rfl
    | true =>
      have hempty : before ++ [name] = [] ++ [""] := by
        rw [← hnames, String.isEmpty_iff.1 he]
        rfl
      exact absurd (.inl (List.append_inj_right' hempty rfl |> List.singleton_inj.1)) hstay
  have henter : ({ t with root } : Tree).enter folder name = .ok (folder ++ [name]) := by
    obtain ⟨entries', hfolder', _⟩ := hgrows folder entries hfolder
    have hthere : (entries'.lookup name).isSome := by
      rw [← Node.at?_concat hfolder', hat]
      rfl
    simp only [enter, hfolder']
    rw [if_neg hstay, if_neg hup, if_neg (Nat.not_lt.2 hshort), if_pos hthere]
  have hresolve : ({ t with root } : Tree).resolve path = .ok (folder ++ [name]) := by
    have hbefore : ({ t with root } : Tree).follow (t.start path) before = .ok folder :=
      follow_of_grows hgrows hfollow
    have hlast : ({ t with root } : Tree).follow folder [name] = .ok (folder ++ [name]) := by
      rw [follow_cons, henter]
      rfl
    simp only [resolve, hnul, hpath, hnames, Bool.false_eq_true, if_false]
    exact (follow_append hbefore [name]).trans hlast
  exact read_of_file hresolve hat

end Tree

theorem asText_ofText (text : String) : asText (.ofText text) = .ok text := by
  rw [asText, Path.text?_ofText]

end FeatureAudit.Disk
