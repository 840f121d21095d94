import FeatureAudit.Page.Extract
import Mathlib.Data.List.Basic

/-! How the stretches of a text are made up of those of its parts. Each fact about a part is stated
with what follows it, since a construct may reach beyond the part in which it starts. -/
namespace FeatureAudit.Markup

variable {α β ι : Type} {k : Construct α} {c : Char} {s t r : List Char} {a : α}
  {f : List Char → Option β}

/-! Parts in which nothing starts. -/

/-- Nothing is read at any character of a text that stands in front of another. -/
def Unread (f : List Char → Option β) : List Char → List Char → Prop
  | [], _ => True
  | c :: s, r => f (c :: s ++ r) = none ∧ Unread f s r

theorem unread_append : Unread f (s ++ t) r ↔ Unread f s (t ++ r) ∧ Unread f t r := by
  induction s with
  | nil => simp [Unread]
  | cons c s ih => simp [Unread, ih, and_assoc]

theorem unread_of_forall {p : Char → Bool} (hf : ∀ c r, p c = true → f (c :: r) = none)
    (hs : ∀ c ∈ s, p c = true) : Unread f s r := by
  induction s with
  | nil => trivial
  | cons c s ih => exact ⟨hf _ _ (hs c (by simp)), ih fun d hd => hs d (by simp [hd])⟩

theorem unread_of_suffixes (h : ∀ t, t <:+ s → t ≠ [] → f (t ++ r) = none) : Unread f s r := by
  induction s with
  | nil => trivial
  | cons c s ih =>
    exact ⟨h _ List.suffix_rfl (by simp), ih fun t ht => h t (ht.trans (List.suffix_cons c s))⟩

theorem unread_flatMap_iff {render : ι → List Char} {p : ι → Prop} {is : List ι}
    (h : ∀ i ∈ is, ∀ r, Unread f (render i) r ↔ p i) :
    Unread f (is.flatMap render) r ↔ ∀ i ∈ is, p i := by
  induction is with
  | nil => simp [Unread]
  | cons i is ih =>
    rw [List.flatMap_cons, unread_append, h i (by simp), ih fun j hj => h j (by simp [hj]),
      List.forall_mem_cons]

theorem unread_flatMap {render : ι → List Char} {is : List ι}
    (h : ∀ i ∈ is, ∀ r, Unread f (render i) r) : Unread f (is.flatMap render) r :=
  (unread_flatMap_iff (p := fun _ => True) fun i hi r => iff_of_true (h i hi r) trivial).2
    fun _ _ => trivial

theorem Unread.of_suffix (h : Unread f s r) (ht : t <:+ s) (hne : t ≠ []) : f (t ++ r) = none := by
  obtain ⟨front, rfl⟩ := ht
  have hrest := (unread_append.1 h).2
  cases t with
  | nil => exact (hne rfl).elim
  | cons c t => exact hrest.1

theorem Unread.mono {g : List Char → Option α} (h : Unread f s r)
    (hfg : ∀ t, f t = none → g t = none) : Unread g s r := by
  induction s with
  | nil => trivial
  | cons c s ih => exact ⟨hfg _ h.1, ih h.2⟩

theorem unread_bind {g : β → Option α} (h : Unread f s r) : Unread (fun u => (f u).bind g) s r :=
  h.mono fun t ht => by rw [ht, Option.bind_none]

theorem firstRead_append_of_unread (h : Unread f s r) : firstRead f (s ++ r) = firstRead f r := by
  induction s with
  | nil => rfl
  | cons c s ih =>
    have hc : f (c :: (s ++ r)) = none := h.1
    rw [List.cons_append, firstRead, hc, ih h.2]

theorem firstRead_of_some {b : β} (h : f s = some b) (hs : s ≠ []) : firstRead f s = some b := by
  cases s with
  | nil => exact (hs rfl).elim
  | cons c s => rw [firstRead, h]

/-- A list that is drawn from the parts of a text, each in front of what is behind it; `ok` is what
the parts need to know of the text that follows them. -/
theorem flatMap_append_of_parts {γ : Type} {draw : List Char → List γ} (ok : List Char → Prop)
    {render : ι → List Char} {drawn : ι → List γ} {is : List ι} (hr : ok r)
    (hok : ∀ i ∈ is, ∀ r, ok r → ok (render i ++ r))
    (hdraw : ∀ i ∈ is, ∀ r, ok r → draw (render i ++ r) = drawn i ++ draw r) :
    draw (is.flatMap render ++ r) = is.flatMap drawn ++ draw r := by
  have hboth : ok (is.flatMap render ++ r) ∧
      draw (is.flatMap render ++ r) = is.flatMap drawn ++ draw r := by
    induction is with
    | nil => exact ⟨hr, rfl⟩
    | cons i is ih =>
      obtain ⟨ho, hp⟩ := ih (fun j hj => hok j (by simp [hj])) fun j hj => hdraw j (by simp [hj])
      simp only [List.flatMap_cons, List.append_assoc]
      exact ⟨hok i (by simp) _ ho, by rw [hdraw i (by simp) _ ho, hp]⟩
  exact hboth.2

theorem flatMap_of_parts {γ : Type} {draw : List Char → List γ} {render : ι → List Char}
    {drawn : ι → List γ} {is : List ι} (hnil : draw [] = [])
    (h : ∀ i ∈ is, ∀ r, draw (render i ++ r) = drawn i ++ draw r) :
    draw (is.flatMap render) = is.flatMap drawn := by
  have happend := flatMap_append_of_parts (fun _ => True) (r := []) trivial
    (fun _ _ _ _ => trivial) fun i hi r _ => h i hi r
  simpa [hnil] using happend

/-! Stretches. -/

namespace Construct

theorem pieces_nil (k : Construct α) : k.pieces [] = [] := by rw [pieces]

theorem pieces_cons_of_none (h : k.read (c :: r) = none) :
    k.pieces (c :: r) = .plain c :: k.pieces r := by
  rw [pieces]
  split
  · simp_all
  · rfl

theorem pieces_of_read (h : k.read (s ++ r) = some (a, r)) :
    k.pieces (s ++ r) = .found a s :: k.pieces r := by
  cases s with
  | nil => exact ((k.suffix h).2 rfl).elim
  | cons c s =>
    rw [List.cons_append, pieces]
    split
    · next b t hb =>
      obtain ⟨rfl, rfl⟩ := Prod.mk.inj (Option.some.inj (hb.symm.trans h))
      have hlen : (c :: (s ++ t)).length - t.length = (c :: s).length := by simp; omega
      have htake : (c :: (s ++ t)).take ((c :: (s ++ t)).length - t.length) = c :: s := by
        rw [hlen, ← List.cons_append, List.take_left]
      simp only [htake]
    · next hn => exact absurd (hn.symm.trans h) (by simp)

theorem pieces_cases (k : Construct α) (c : Char) (s : List Char) :
    (k.read (c :: s) = none ∧ k.pieces (c :: s) = .plain c :: k.pieces s) ∨
      ∃ a t u, k.read (c :: s) = some (a, t) ∧ c :: s = u ++ t ∧
        k.pieces (c :: s) = .found a u :: k.pieces t := by
  cases hc : k.read (c :: s) with
  | none => exact .inl ⟨rfl, pieces_cons_of_none hc⟩
  | some x =>
    obtain ⟨⟨u, hu⟩, -⟩ := k.suffix hc
    refine .inr ⟨x.1, x.2, u, rfl, hu.symm, ?_⟩
    rw [← hu] at hc ⊢
    exact pieces_of_read hc

theorem pieces_of_unread (h : Unread k.read s r) :
    k.pieces (s ++ r) = s.map .plain ++ k.pieces r := by
  induction s with
  | nil => rfl
  | cons c s ih =>
    have hc : k.pieces (c :: (s ++ r)) = .plain c :: k.pieces (s ++ r) := pieces_cons_of_none h.1
    rw [List.cons_append, hc, ih h.2]
    rfl

theorem all_nil (k : Construct α) : k.all [] = [] := by rw [all, pieces_nil, List.filterMap_nil]

theorem all_of_read (h : k.read (s ++ r) = some (a, r)) : k.all (s ++ r) = a :: k.all r := by
  simp only [all, pieces_of_read h, List.filterMap_cons]

theorem all_of_unread (h : Unread k.read s r) : k.all (s ++ r) = k.all r := by
  simp [all, pieces_of_unread h, List.filterMap_map]

theorem all_cons_of_none (h : k.read (c :: r) = none) : k.all (c :: r) = k.all r := by
  simp only [all, pieces_cons_of_none h, List.filterMap_cons]

theorem all_eq_nil_iff : k.all s = [] ↔ Unread k.read s [] := by
  induction s with
  | nil => simp [all_nil, Unread]
  | cons c s ih =>
    rw [Unread, List.append_nil]
    rcases k.pieces_cases c s with ⟨hc, -⟩ | ⟨a, t, u, hc, hu, -⟩
    · rw [all_cons_of_none hc, ih, and_iff_right hc]
    · have hread : k.read (u ++ t) = some (a, t) := hu ▸ hc
      simp [hu, hread, all_of_read hread]

theorem map_snd_locate (n : Nat) : (locate n (k.pieces s)).map Prod.snd = k.all s := by
  -- a construct takes many characters off at once, so the induction is on the length
  induction hm : s.length using Nat.strongRecOn generalizing s n with
  | ind m ih =>
    cases s with
    | nil => rw [pieces_nil, all_nil, locate, List.map_nil]
    | cons c s =>
      rcases k.pieces_cases c s with ⟨hc, hp⟩ | ⟨a, t, u, hc, hu, hp⟩
      · rw [hp, locate, all_cons_of_none hc, ih s.length (by simp [← hm]) _ rfl]
      · have hread : k.read (u ++ t) = some (a, t) := hu ▸ hc
        have hlt : t.length < m := hm ▸ length_lt hc
        rw [hp, locate, List.map_cons, hu, all_of_read hread, ih t.length hlt _ rfl]

/-- The constructs that are located are those of the text. -/
theorem map_snd_located : (k.located s).map Prod.snd = k.all s := map_snd_locate 0

variable {new : List Char}

theorem replace_nil (k : Construct α) : k.replace new [] = [] := by
  rw [replace, pieces_nil, List.flatMap_nil]

theorem replace_cons_of_none (h : k.read (c :: r) = none) :
    k.replace new (c :: r) = c :: k.replace new r := by
  simp only [replace, pieces_cons_of_none h, List.flatMap_cons, List.singleton_append]

theorem replace_of_read (h : k.read (s ++ r) = some (a, r)) :
    k.replace new (s ++ r) = new ++ k.replace new r := by
  simp only [replace, pieces_of_read h, List.flatMap_cons]

theorem replace_of_unread (h : Unread k.read s r) :
    k.replace new (s ++ r) = s ++ k.replace new r := by
  simp [replace, pieces_of_unread h, List.flatMap_map]

theorem replace_eq_self (h : Unread k.read s []) : k.replace new s = s := by
  have hreplace : k.replace new (s ++ []) = s ++ k.replace new [] := replace_of_unread h
  simpa [replace_nil] using hreplace

/-! Stretches behind a part of a text. -/

/-- The stretches behind any of them are those of the text behind. -/
theorem pieces_of_append {ps qs : List (Piece α)} (h : k.pieces s = ps ++ qs) :
    ∃ t, s = ps.flatMap Piece.text ++ t ∧ qs = k.pieces t := by
  induction ps generalizing s with
  | nil => exact ⟨s, rfl, h.symm⟩
  | cons p ps ih =>
    cases s with
    | nil => simp [pieces_nil] at h
    | cons c s =>
      rcases k.pieces_cases c s with ⟨-, hp⟩ | ⟨a, t, u, -, hu, hp⟩
      · obtain ⟨rfl, hrest⟩ := List.cons.inj (hp.symm.trans h)
        obtain ⟨t, rfl, hq⟩ := ih hrest
        exact ⟨t, rfl, hq⟩
      · obtain ⟨rfl, hrest⟩ := List.cons.inj (hp.symm.trans h)
        obtain ⟨t, rfl, hq⟩ := ih hrest
        exact ⟨t, by simpa [Piece.text] using hu, hq⟩

theorem exists_read_of_pieces {ps : List (Piece α)} (h : k.pieces s = .found a r :: ps) :
    ∃ t, k.read s = some (a, t) := by
  cases s with
  | nil => simp [pieces_nil] at h
  | cons c s =>
    rcases k.pieces_cases c s with ⟨-, hp⟩ | ⟨b, t, u, hb, -, hp⟩
    · cases hp.symm.trans h
    · cases hp.symm.trans h
      exact ⟨t, hb⟩

theorem exists_suffix_of_mem_all (h : a ∈ k.all s) :
    ∃ t, t <:+ s ∧ ∃ r, k.read t = some (a, r) := by
  obtain ⟨p, hp, ha⟩ := List.mem_filterMap.1 h
  obtain ⟨cs, rfl⟩ : ∃ cs, p = .found a cs := by
    cases p with
    | plain c => cases ha
    | found b cs => exact ⟨cs, by cases ha; rfl⟩
  obtain ⟨before, later, hsplit⟩ := List.append_of_mem hp
  obtain ⟨t, rfl, ht⟩ := pieces_of_append hsplit
  exact ⟨t, List.suffix_append _ _, exists_read_of_pieces ht.symm⟩

/-- The text in front of another is read by itself: no construct starts in it and ends behind it. -/
def ComesTo (k : Construct α) (front s : List Char) : Prop :=
  ∃ m, ((k.pieces (front ++ s)).take m).flatMap Piece.text = front

theorem mem_locate_iff {x : Nat × α} {n : Nat} {ps : List (Piece α)} :
    x ∈ locate n ps ↔ ∃ before cs later, ps = before ++ .found x.2 cs :: later ∧
      x.1 = n + (before.flatMap Piece.text).length := by
  induction ps generalizing n with
  | nil => simp [locate]
  | cons p ps ih =>
    constructor
    · intro h
      cases p with
      | plain c =>
        obtain ⟨before, cs, later, rfl, hx⟩ := ih.1 h
        refine ⟨.plain c :: before, cs, later, rfl, ?_⟩
        simp [Piece.text, hx]
        omega
      | found b t =>
        rcases List.mem_cons.1 h with rfl | h
        · exact ⟨[], t, ps, rfl, rfl⟩
        · obtain ⟨before, cs, later, rfl, hx⟩ := ih.1 h
          refine ⟨.found b t :: before, cs, later, rfl, ?_⟩
          simp [Piece.text, hx]
          omega
    · rintro ⟨before, cs, later, he, hx⟩
      cases before with
      | nil =>
        obtain ⟨rfl, rfl⟩ := List.cons.inj he
        exact List.mem_cons.2 (.inl (Prod.ext hx rfl))
      | cons q before =>
        obtain ⟨rfl, rfl⟩ := List.cons.inj he
        rw [List.flatMap_cons, List.length_append, ← Nat.add_assoc] at hx
        have hrest := ih.2 ⟨before, cs, later, rfl, hx⟩
        cases p with
        | plain c => exact hrest
        | found b t => exact List.mem_cons_of_mem _ hrest

/-- A construct is located where the reading of the text comes to it. -/
theorem mem_located_iff {front : List Char} :
    (front.length, a) ∈ k.located (front ++ s) ↔
      k.ComesTo front s ∧ ∃ t, k.read s = some (a, t) := by
  rw [located, mem_locate_iff]
  constructor
  · rintro ⟨before, cs, later, hp, hlen⟩
    obtain ⟨t, ht, hq⟩ := pieces_of_append hp
    obtain ⟨hfront, rfl⟩ := List.append_inj ht (by simpa using hlen)
    exact ⟨⟨before.length, by rw [hp, List.take_left, hfront]⟩, exists_read_of_pieces hq.symm⟩
  · rintro ⟨⟨m, hm⟩, t, ht⟩
    obtain ⟨t', he, hq⟩ := pieces_of_append (List.take_append_drop m (k.pieces (front ++ s))).symm
    rw [hm] at he
    obtain rfl := List.append_cancel_left he
    obtain ⟨⟨u, rfl⟩, -⟩ := k.suffix ht
    refine ⟨_, u, k.pieces t, ?_, by rw [hm, Nat.zero_add]⟩
    rw [← pieces_of_read ht, ← hq, List.take_append_drop]

/-! Parts that are constructs or hold none. -/

/-- The stretches of a text that is a construct as a whole, or else holds none. -/
def whole (a : Option α) (s : List Char) : List (Piece α) :=
  match a with
  | some a => [.found a s]
  | none => s.map .plain

theorem whole_some : whole (some a) s = [.found a s] := rfl

theorem whole_none : whole (none : Option α) s = s.map .plain := rfl

variable {render : ι → List Char} {what : ι → Option α} {is : List ι}

theorem pieces_flatMap_whole
    (h : ∀ i ∈ is, ∀ r, k.pieces (render i ++ r) = whole (what i) (render i) ++ k.pieces r) :
    k.pieces (is.flatMap render) = is.flatMap fun i => whole (what i) (render i) :=
  flatMap_of_parts k.pieces_nil h

theorem all_flatMap
    (h : k.pieces (is.flatMap render) = is.flatMap fun i => whole (what i) (render i)) :
    k.all (is.flatMap render) = is.filterMap what := by
  rw [all, h, List.filterMap_flatMap, List.filterMap_eq_flatMap_toList]
  refine congrArg (List.flatMap · is) (funext fun i => ?_)
  cases what i <;> simp [whole, List.filterMap_map]

theorem replace_flatMap
    (h : k.pieces (is.flatMap render) = is.flatMap fun i => whole (what i) (render i)) :
    k.replace new (is.flatMap render) =
      is.flatMap fun i => if (what i).isSome then new else render i := by
  rw [replace, h, List.flatMap_assoc]
  refine congrArg (List.flatMap · is) (funext fun i => ?_)
  cases what i <;> simp [whole, List.flatMap_map]

/-! Places of constructs. -/

/-- The constructs that parts are, each with the offset of its part. -/
def placed (render : ι → List Char) (what : ι → Option α) : Nat → List ι → List (Nat × α)
  | _, [] => []
  | n, i :: is =>
    let later := placed render what (n + (render i).length) is
    match what i with
    | some a => (n, a) :: later
    | none => later

theorem locate_plain (n : Nat) (ps : List (Piece α)) :
    locate n (s.map .plain ++ ps) = locate (n + s.length) ps := by
  induction s generalizing n with
  | nil => rfl
  | cons c s ih => simp [locate, ih, Nat.add_assoc, Nat.add_comm 1]

theorem located_flatMap
    (h : k.pieces (is.flatMap render) = is.flatMap fun i => whole (what i) (render i)) :
    k.located (is.flatMap render) = placed render what 0 is := by
  have hlocate : ∀ n, locate n (is.flatMap fun i => whole (what i) (render i)) =
      placed render what n is := by
    clear h
    induction is with
    | nil => exact fun _ => rfl
    | cons i is ih =>
      intro n
      rw [List.flatMap_cons]
      cases hw : what i with
      | none => simp only [whole_none, placed, hw, locate_plain, ih]
      | some a => simp only [whole_some, placed, hw, List.singleton_append, locate, ih]
  rw [located, h, hlocate]

end Construct

variable {render : ι → List Char} {f : ι → Option α} {g : ι → Option α} {is : List ι} {n : Nat}

theorem le_of_mem_placed {x : Nat × α} (h : x ∈ Construct.placed render f n is) : n ≤ x.1 := by
  induction is generalizing n with
  | nil => simp [Construct.placed] at h
  | cons i is ih =>
    simp only [Construct.placed] at h
    split at h
    · rcases List.mem_cons.1 h with rfl | h
      · exact Nat.le_refl _
      · exact Nat.le_trans (Nat.le_add_right ..) (ih h)
    · exact Nat.le_trans (Nat.le_add_right ..) (ih h)

theorem map_placed {h : α → β} :
    (Construct.placed render f n is).map (fun x => (x.1, h x.2)) =
      Construct.placed render (fun i => (f i).map h) n is := by
  induction is generalizing n with
  | nil => rfl
  | cons i is ih => cases hf : f i <;> simp [Construct.placed, hf, ih]

theorem filter_placed {p : α → Bool} :
    (Construct.placed render f n is).filter (fun x => p x.2) =
      Construct.placed render (fun i => (f i).filter p) n is := by
  induction is generalizing n with
  | nil => rfl
  | cons i is ih =>
    cases hf : f i with
    | none => simp [Construct.placed, hf, ih]
    | some a => cases hp : p a <;> simp [Construct.placed, Option.filter, hf, hp, ih]

theorem map_snd_placed : (Construct.placed render f n is).map Prod.snd = is.filterMap f := by
  induction is generalizing n with
  | nil => rfl
  | cons i is ih => cases hf : f i <;> simp [Construct.placed, hf, ih]

theorem merge_cons_left {x : Nat × α} {xs ys : List (Nat × α)} (h : ∀ y ∈ ys, x.1 ≤ y.1) :
    (x :: xs).merge ys (fun a b => a.1 ≤ b.1) = x :: xs.merge ys fun a b => a.1 ≤ b.1 := by
  cases ys with
  | nil => simp
  | cons y ys => exact List.cons_merge_cons_pos _ _ _ (by simpa using h y (by simp))

theorem merge_cons_right {y : Nat × α} {xs ys : List (Nat × α)} (h : ∀ x ∈ xs, y.1 < x.1) :
    xs.merge (y :: ys) (fun a b => a.1 ≤ b.1) = y :: xs.merge ys fun a b => a.1 ≤ b.1 := by
  cases xs with
  | nil => simp
  | cons x xs => exact List.cons_merge_cons_neg _ _ _ (by simpa using h x (by simp))

/-- Two kinds of constructs, neither of which is empty, merge in the order of the text. -/
theorem merge_placed (hfg : ∀ i ∈ is, f i = none ∨ g i = none)
    (hg : ∀ i ∈ is, g i ≠ none → render i ≠ []) :
    (Construct.placed render f n is).merge (Construct.placed render g n is)
        (fun a b => a.1 ≤ b.1) =
      Construct.placed render (fun i => (f i).or (g i)) n is := by
  induction is generalizing n with
  | nil => simp [Construct.placed]
  | cons i is ih =>
    have hrest := @ih (n + (render i).length) (fun j hj => hfg j (by simp [hj]))
      fun j hj => hg j (by simp [hj])
    cases hf : f i with
    | some a =>
      have hgi : g i = none := by simpa [hf] using hfg i (by simp)
      simp only [Construct.placed, hf, hgi, Option.some_or]
      rw [merge_cons_left fun y hy => ?_, hrest]
      exact Nat.le_trans (Nat.le_add_right ..) (le_of_mem_placed hy)
    | none =>
      cases hgi : g i with
      | none => simpa [Construct.placed, hf, hgi] using hrest
      | some b =>
        have hpos := List.length_pos_iff.2 (hg i (by simp) (by simp [hgi]))
        simp only [Construct.placed, hf, hgi, Option.none_or]
        rw [merge_cons_right fun x hx => ?_, hrest]
        exact Nat.lt_of_lt_of_le (by omega) (le_of_mem_placed hx)

end FeatureAudit.Markup
