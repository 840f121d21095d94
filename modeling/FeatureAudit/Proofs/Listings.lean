import FeatureAudit.Disk.Tree
import FeatureAudit.Proofs.Batches
import FeatureAudit.Proofs.Paths
import Mathlib

/-! The pages of a folder: the files directly in it whose names are those of pages, in the order of
the bytes of their names, whatever the order in which the folder is listed. -/
namespace FeatureAudit

namespace Text

variable {c d : Char} {word cs : List Char}

/-- A text that spells a word of small letters, each of them small or large. -/
def Spells (word cs : List Char) : Prop := List.Forall₂ (fun c d => c = d ∨ c = d.toUpper) cs word

theorem toLower_eq_iff (hd : d.isLower = true) : c.toLower = d ↔ c = d ∨ c = d.toUpper := by
  have hsmall : d.toLower = d := Char.toLower_eq_of_not_isUpper (Char.not_isUpper_of_isLower hd)
  constructor
  · rintro rfl
    by_cases hc : c.isUpper = true
    · rw [Char.toUpper_toLower_eq_toUpper,
        Char.toUpper_eq_of_not_isLower (Char.not_isLower_of_isUpper hc)]
      exact .inr rfl
    · exact .inl (Char.toLower_eq_of_not_isUpper hc).symm
  · rintro (rfl | rfl)
    · exact hsmall
    · rw [Char.toLower_toUpper_eq_toLower, hsmall]

theorem sameAscii_iff (h : ∀ d ∈ word, d.isLower = true) :
    sameAscii cs word = true ↔ Spells word cs := by
  rw [sameAscii, beq_iff_eq, Spells]
  induction word generalizing cs with
  | nil => simp [asciiLower]
  | cons d word ih =>
    rw [List.forall_mem_cons] at h
    have hsmall : d.toLower = d := (toLower_eq_iff h.1).2 (.inl rfl)
    cases cs with
    | nil => simp [asciiLower]
    | cons c cs =>
      change c.toLower :: asciiLower cs = d.toLower :: asciiLower word ↔ _
      rw [hsmall, List.cons.injEq, List.forall₂_cons, toLower_eq_iff h.1, ih h.2]

end Text

namespace Batch

variable {b : UInt8} {bs front ending : List UInt8} {name folder : Disk.Path}
  {entries listing : List (Disk.Path × Disk.Entry)}

/-! Names. -/

theorem passes_reverse (h : b ∉ bs) : ∀ d ∈ bs.reverse, (d != b) = true := by
  intro d hd
  rw [bne_iff_ne]
  rintro rfl
  exact h (List.mem_reverse.1 hd)

theorem cutEnding_append (hf : front ≠ []) (he : dot ∉ ending) :
    cutEnding (front ++ dot :: ending) = some (front, ending) := by
  obtain ⟨b, r, hr⟩ := List.exists_cons_of_ne_nil (mt List.reverse_eq_nil_iff.1 hf)
  have hfront : (b :: r).reverse = front := by rw [← hr, List.reverse_reverse]
  have hreverse : (front ++ dot :: ending).reverse = ending.reverse ++ dot :: b :: r := by
    simp [← hr]
  have hdrop : (dot :: b :: r).dropWhile (· != dot) = dot :: b :: r := rfl
  have htake : (dot :: b :: r).takeWhile (· != dot) = [] := rfl
  rw [cutEnding, hreverse, List.dropWhile_append_of_pos (passes_reverse he),
    List.takeWhile_append_of_pos (passes_reverse he), hdrop, htake]
  simp only [hfront, List.append_nil, List.reverse_reverse]

theorem cutEnding_eq_some_iff : cutEnding bs = some (front, ending) ↔
    front ≠ [] ∧ dot ∉ ending ∧ bs = front ++ dot :: ending := by
  refine ⟨fun h => ?_, ?_⟩
  · have hsplit := List.takeWhile_append_dropWhile (p := (· != dot)) (l := bs.reverse)
    unfold cutEnding at h
    split at h
    · cases h
    · cases h
    · next d r hne hdrop =>
      cases h
      have hdot : d = dot := by
        have hhead := List.head?_dropWhile_not (· != dot) bs.reverse
        simpa [hdrop] using hhead
      rw [hdrop, hdot] at hsplit
      refine ⟨mt List.reverse_eq_nil_iff.1 hne, fun hm => ?_, ?_⟩
      · simpa using List.mem_takeWhile_imp (List.mem_reverse.1 hm)
      · simpa using (congrArg List.reverse hsplit).symm
  · rintro ⟨hf, he, rfl⟩
    exact cutEnding_append hf he

/-- The names of pages: `.html` or `.htm`, in small or large letters, behind something else, which
need not be text. -/
def NamesPage (name : Disk.Path) : Prop :=
  ∃ front, ∃ ending : String, front ≠ [] ∧ dot ∉ (Disk.Path.ofText ending).bytes ∧
    name.bytes = front ++ dot :: (Disk.Path.ofText ending).bytes ∧
    (Text.Spells "html".toList ending.toList ∨ Text.Spells "htm".toList ending.toList)

theorem spells_iff (cs : List Char) : (Text.sameAscii cs "html".toList ||
    Text.sameAscii cs "htm".toList) = true ↔
      Text.Spells "html".toList cs ∨ Text.Spells "htm".toList cs := by
  have hlong : ∀ d ∈ "html".toList, d.isLower = true := by simp
  have hshort : ∀ d ∈ "htm".toList, d.isLower = true := by simp
  rw [Bool.or_eq_true, Text.sameAscii_iff hlong, Text.sameAscii_iff hshort]

theorem isPageName_iff : isPageName name = true ↔ NamesPage name := by
  constructor
  · intro h
    unfold isPageName at h
    split at h
    · next front bytes hc =>
      obtain ⟨hf, he, hn⟩ := cutEnding_eq_some_iff.1 hc
      obtain ⟨ending, htext, hspells⟩ := (Option.any_eq_true ..).1 h
      obtain rfl : bytes = (Disk.Path.ofText ending).bytes :=
        congrArg Disk.Path.bytes (Disk.Path.text?_eq_some_iff.1 htext)
      exact ⟨front, ending, hf, he, hn, (spells_iff _).1 hspells⟩
    · cases h
  · rintro ⟨front, ending, hf, he, hn, hspells⟩
    have htext : (Disk.Path.mk (Disk.Path.ofText ending).bytes).text? = some ending :=
      Disk.Path.text?_ofText ending
    rw [isPageName, cutEnding_eq_some_iff.2 ⟨hf, he, hn⟩]
    simp only [htext, Option.any_some]
    exact (spells_iff ending.toList).2 hspells

/-- The path of a name in a folder ends with that name, behind a slash. -/
theorem exists_inFolder (folder name : Disk.Path) :
    ∃ before, (inFolder folder name).bytes = before ++ Disk.Path.slash :: name.bytes := by
  unfold inFolder
  split
  · next hslash =>
    obtain ⟨before, hbefore⟩ := List.getLast?_eq_some_iff.1 hslash
    exact ⟨before, by simp [hbefore]⟩
  · exact ⟨folder.bytes, rfl⟩

theorem lastName_inFolder (h : Disk.Path.slash ∉ name.bytes) :
    lastName (inFolder folder name) = name := by
  obtain ⟨before, hbefore⟩ := exists_inFolder folder name
  have hreverse : (before ++ Disk.Path.slash :: name.bytes).reverse =
      name.bytes.reverse ++ Disk.Path.slash :: before.reverse := by simp
  rw [lastName, hbefore, hreverse, List.takeWhile_append_of_pos (passes_reverse h)]
  simp

/-! Folders. -/

/-- The pages among the entries of a folder, by their names. -/
structure Collected (entries : List (Disk.Path × Disk.Entry)) (names : List Disk.Path) : Prop where
  mem_iff : ∀ name, name ∈ names ↔ (name, .file) ∈ entries ∧ NamesPage name
  /-- None is there twice, and their bytes are in order. -/
  ascending : names.Pairwise fun a b => a.bytes < b.bytes
  /-- It makes no difference in which order the folder is listed, nor what else is on the disk. -/
  run : ∀ {σ : Type} (disk : Disk (StateM σ)) (folder : Disk.Path) (s s₁ s₂ : σ)
    (listing : List (Disk.Path × Disk.Entry)), (disk.entry folder).run s = (some .folder, s₁) →
    (disk.list folder).run s₁ = (listing, s₂) → listing.Perm entries →
      (pages disk folder).run s = (some (names.map (inFolder folder)), s₂)
  /-- The names are those that the paths of the pages end with. -/
  targets : (∀ e ∈ entries, Disk.Path.slash ∉ e.1.bytes) → ∀ folder,
    (names.map (inFolder folder)).map lastName = names

theorem mem_pageNames_iff : name ∈ pageNames entries ↔ (name, .file) ∈ entries ∧ NamesPage name := by
  rw [pageNames_perm.mem_iff]
  simp [isPage, ← isPageName_iff]

theorem pageNames_of_perm (h : listing.Perm entries) : pageNames listing = pageNames entries :=
  eq_pageNames (pageNames_perm.trans ((h.filter isPage).map Prod.fst)) pairwise_pageNames

theorem pairwise_bytes_pageNames (h : (entries.map Prod.fst).Nodup) :
    (pageNames entries).Pairwise fun a b => a.bytes < b.bytes := by
  have hnodup : (pageNames entries).Nodup :=
    pageNames_perm.nodup_iff.2 ((List.filter_sublist.map _).nodup h)
  refine pairwise_pageNames.imp₂ (fun a b hle hne => ?_) hnodup
  have hbytes : a.bytes ≠ b.bytes := fun he => hne (congrArg Disk.Path.mk he)
  exact List.not_le.1 fun hge => hbytes (List.le_antisymm hle hge)

/-- The pages of a folder are exactly the files in it that have the names of pages, each once, in the
order of the bytes of their names. -/
theorem collected_pageNames (h : (entries.map Prod.fst).Nodup) :
    Collected entries (pageNames entries) where
  mem_iff _ := mem_pageNames_iff
  ascending := pairwise_bytes_pageNames h
  run disk folder s s₁ s₂ listing he hl hp := by
    have hlisted : (pages disk folder).run s =
        (disk.list folder >>= fun l => pure (some ((pageNames l).map (inFolder folder)))).run s₁ := by
      rw [pages, StateT.run_bind, he]
      rfl
    rw [hlisted, StateT.run_bind, hl, ← pageNames_of_perm hp]
    rfl
  targets hslash folder := by
    have hlast : ∀ name ∈ pageNames entries, lastName (inFolder folder name) = name :=
      fun name hname => lastName_inFolder (hslash _ (mem_pageNames_iff.1 hname).1)
    rw [List.map_map]
    exact (List.map_congr_left hlast).trans (List.map_id' _)

/-- A folder that is listed in no order, with a folder of its own that is named like a page and has
one in it. Of the names that end like those of pages one has nothing in front. -/
theorem collected_pageNames_nested :
    let site : List (String × Disk.Node) := [("é.htm", .file []), ("b.html", .file []),
      ("c.html", .folder [("a.html", .file [])]), (".html", .file []), ("html", .file []),
      ("a.b.HTM", .file []), ("B.html", .file [])]
    let entries := site.map fun e => (Disk.Path.ofText e.1, e.2.entry)
    let names : List Disk.Path := ["B.html", "a.b.HTM", "b.html", "é.htm"]
    let t : Disk.Tree := ⟨.folder [("site", .folder site.reverse)], []⟩
    (entries.map Prod.fst).Nodup ∧ Collected entries names ∧
      (pages Disk.ofTree "site").run t = (some (names.map (inFolder "site")), t) := by
  intro site entries names t
  have hnodup : (entries.map Prod.fst).Nodup := by decide +kernel
  have hnames : names = pageNames entries := eq_pageNames (by decide +kernel) (by decide +kernel)
  have hcollected : Collected entries names := hnames ▸ collected_pageNames hnodup
  have hfolder : (t.node? "site").map Disk.Node.entry = some .folder := by decide +kernel
  have hlist : (t.list "site").map (fun e => (Disk.Path.ofText e.1, e.2)) = entries.reverse := by
    decide +kernel
  exact ⟨hnodup, hcollected, hcollected.run Disk.ofTree "site" t t t entries.reverse
    (congrArg (·, t) hfolder) (congrArg (·, t) hlist) (List.reverse_perm _)⟩

end Batch
end FeatureAudit
