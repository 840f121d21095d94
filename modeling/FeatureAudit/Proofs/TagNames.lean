import FeatureAudit.Proofs.Growth
import Mathlib.Data.List.TakeWhile

/-! What a scan of tags reports, said of the names of the tags as they stand on a page: of a name in
other letters, between blanks or repeated, nothing but the tag matters. -/
namespace FeatureAudit

variable {ε α : Type} {e : ε} {es before after : List ε} {xs : List α} {name : String}
  {f : Feature} {fs : List Feature} {a : Artifacts}

namespace Text

variable {cs : List Char}

theorem trim_eq_nil_iff : trim cs = [] ↔ ∀ c ∈ cs, isBlank c := by
  rw [trim, List.reverse_eq_nil_iff, List.dropWhile_eq_nil_iff]
  simp only [List.mem_reverse]
  constructor
  · intro h c hc
    rw [← List.takeWhile_append_dropWhile (p := isBlank) (l := cs)] at hc
    rcases List.mem_append.1 hc with hc | hc
    · exact List.mem_takeWhile_imp hc
    · exact h c hc
  · exact fun h c hc => h c ((List.dropWhile_sublist _).subset hc)

theorem lowercase_eq_nil_iff : lowercase cs = [] ↔ cs = [] := by
  cases cs with
  | nil => simp [lowercase, lowercaseAfter]
  | cons c cs =>
    simp only [lowercase, lowercaseAfter]
    split
    · simp
    · split <;> simp

end Text

/-! Evidence that shows nothing new. -/

section FirstShown

variable {shows : ε → α → Prop} [∀ e x, Decidable (shows e x)]

theorem firstShown_cons_of_forall_not (h : ∀ x ∈ xs, ¬ shows e x) :
    firstShown shows (e :: es) xs = firstShown shows es xs := by
  have hnone : xs.filter (fun x => shows e x) = [] := by simpa using h
  have hall : xs.filter (fun x => ¬ shows e x) = xs := by simpa using h
  rw [firstShown, hnone, hall, List.nil_append]

theorem firstShown_append_cons (h : ∀ x ∈ xs, shows e x → ∃ e' ∈ before, shows e' x) :
    firstShown shows (before ++ e :: after) xs = firstShown shows (before ++ after) xs := by
  induction before generalizing xs with
  | nil => exact firstShown_cons_of_forall_not (by simpa using h)
  | cons e' before ih =>
    simp only [List.cons_append, firstShown]
    rw [ih]
    intro x hx he
    obtain ⟨hx, hne⟩ := List.mem_filter.1 hx
    simpa [of_decide_eq_true hne] using h x hx he

/-- Pieces seen before have shown what they show. -/
theorem firstShown_firsts [DecidableEq ε] {seen : List ε}
    (h : ∀ e ∈ seen, ∀ x ∈ xs, ¬ shows e x) :
    firstShown shows (Artifacts.firsts seen es) xs = firstShown shows es xs := by
  induction es generalizing seen xs with
  | nil => rfl
  | cons e es ih =>
    rw [Artifacts.firsts]
    split
    · next he => rw [ih h, firstShown_cons_of_forall_not (h e he)]
    · rw [firstShown, firstShown, ih]
      intro e' he' x hx
      obtain ⟨hx, hne⟩ := List.mem_filter.1 hx
      rcases List.mem_cons.1 he' with rfl | he'
      · exact of_decide_eq_true hne
      · exact h e' he' x hx

end FirstShown

/-- What is first shown is in order. -/
theorem inOrder_firstShown {shows : ε → Feature → Prop} [∀ e f, Decidable (shows e f)] :
    InOrder shows es fs ((firstShown shows es fs).map .ofFeature) := by
  let s : Section := ⟨.html, fs, [], []⟩
  let shown (e : ε) : List (Fin fs.length) :=
    (List.finRange fs.length).filter fun i => shows e (fs.get i)
  have hpieces : ∀ e, (shown e).Pairwise (· < ·) := fun _ => (List.pairwise_lt_finRange _).filter _
  have hshown : ∀ e i, i ∈ shown e ↔ shows e (s.features.get i) := by simp [shown, s]
  have horder : InOrder shows es s.features (s.detect (fun _ => false) shown es) :=
    inOrder_detect hpieces hshown (by simp)
  exact horder.eq_map_firstShown ▸ horder

/-! Names of tags. -/

/-- The tag that a name stands for. -/
def tagOf (name : String) : String := String.ofList (Text.lowercase (Text.trim name.toList))

/-- A name that is not blank shows a feature whose id is the tag, the tag behind `html-`, or the tag
behind any other words and a hyphen. -/
def ShownByTagName (name : String) (f : Feature) : Prop :=
  (∃ c ∈ name.toList, ¬ Text.isBlank c) ∧
    (f.id = tagOf name ∨ f.id = "html-" ++ tagOf name ∨ ∃ front, f.id = front ++ "-" ++ tagOf name)

theorem tagOf_isEmpty_iff : (tagOf name).isEmpty ↔ ∀ c ∈ name.toList, Text.isBlank c := by
  rw [String.isEmpty_iff, ← String.toList_inj, tagOf, String.toList_ofList]
  exact Text.lowercase_eq_nil_iff.trans Text.trim_eq_nil_iff

theorem shownByTagName_iff :
    ShownByTagName name f ↔ ¬ (tagOf name).isEmpty ∧ ShownByTag (tagOf name) f := by
  have hblank : (∃ c ∈ name.toList, ¬ Text.isBlank c) ↔ ¬ (tagOf name).isEmpty := by
    rw [tagOf_isEmpty_iff]
    simp
  have hbehind : (∃ front, f.id = front ++ "-" ++ tagOf name) ↔
      ∃ front, f.id.toList = front ++ '-' :: (tagOf name).toList := by
    constructor
    · rintro ⟨front, h⟩
      exact ⟨front.toList, by simp [h]⟩
    · rintro ⟨front, h⟩
      exact ⟨String.ofList front, by simp [← String.toList_inj, h]⟩
  have hhtml : f.id = "html-" ++ tagOf name → ∃ front, f.id = front ++ "-" ++ tagOf name :=
    fun h => ⟨"html", h⟩
  rw [ShownByTagName, ShownByTag, hblank, or_iff_right_of_imp hhtml, hbehind, String.toList_inj]

instance (name : String) (f : Feature) : Decidable (ShownByTagName name f) :=
  decidable_of_iff _ shownByTagName_iff.symm

theorem firstShown_distinctTags :
    firstShown ShownByTag a.distinctTags fs = firstShown ShownByTagName a.tagNames fs := by
  change firstShown _ (Artifacts.firsts [] ((a.tagNames.map tagOf).filter (!·.isEmpty))) _ = _
  rw [firstShown_firsts (by simp)]
  induction a.tagNames generalizing fs with
  | nil => rfl
  | cons name names ih =>
    by_cases hname : (tagOf name).isEmpty
    · rw [List.map_cons, List.filter_cons_of_neg (by simp [hname]), ih]
      refine (firstShown_cons_of_forall_not fun f _ hf => ?_).symm
      exact (shownByTagName_iff.1 hf).1 hname
    · have hshows : ∀ f, ShownByTagName name f ↔ ShownByTag (tagOf name) f := fun f =>
        shownByTagName_iff.trans (and_iff_right hname)
      rw [List.map_cons, List.filter_cons_of_pos (by simp [hname])]
      simp only [firstShown, ih, hshows]

/-- What a scan of a page's tags reports, in terms of their names as they are written. -/
structure ScansTagNames (s : Section) (a : Artifacts) : Prop where
  inOrder : InOrder ShownByTagName a.tagNames s.features (detectInTags s a.distinctTags)
  /-- Stopping once all features have been found makes no difference: this looks at every name. -/
  unstopped : detectInTags s a.distinctTags =
    (firstShown ShownByTagName a.tagNames s.features).map .ofFeature
  /-- A name that is blank, or stands for the tag of a name before it, may as well not be there. -/
  redundant : ∀ before name after, a.tagNames = before ++ name :: after →
    (∀ c ∈ name.toList, Text.isBlank c) ∨ (∃ earlier ∈ before, tagOf earlier = tagOf name) →
      detectInTags s a.distinctTags =
        detectInTags s ({ a with tagNames := before ++ after } : Artifacts).distinctTags

theorem detectInTags_distinctTags (s : Section) : detectInTags s a.distinctTags =
    (firstShown ShownByTagName a.tagNames s.features).map .ofFeature := by
  rw [detectInTags_eq_map_firstShown, firstShown_distinctTags]

theorem scansTagNames (s : Section) (a : Artifacts) : ScansTagNames s a where
  inOrder := by
    rw [detectInTags_distinctTags]
    exact inOrder_firstShown
  unstopped := detectInTags_distinctTags s
  redundant before name after ha h := by
    rw [detectInTags_distinctTags, detectInTags_distinctTags, ha]
    refine congrArg _ (firstShown_append_cons fun f _ hf => ?_)
    obtain ⟨hne, hf⟩ := shownByTagName_iff.1 hf
    rcases h with hblank | ⟨earlier, hm, he⟩
    · exact (hne (tagOf_isEmpty_iff.2 hblank)).elim
    · exact ⟨earlier, hm, shownByTagName_iff.2 (he ▸ ⟨hne, hf⟩)⟩

end FeatureAudit
