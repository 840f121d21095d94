import FeatureAudit.Proofs.Descriptions
import FeatureAudit.Proofs.Entries
import FeatureAudit.Proofs.Stripping

/-! Which features are without a description. The name of a feature stands in for a description that
is missing or empty, but not for one of which nothing is left without its markup. -/
namespace FeatureAudit

variable {s : List Char} {data entry : Json} {id html : String} {f : Feature} {fs : List Feature}
  {members : Json.Members} {tally : Dataset.Tally}

namespace Description

/-- Markup and nothing else: the text begins with a `<`, and what follows on a `>` is another one.
The last stretch of markup may be left open. -/
structure OnlyMarkup (s : List Char) : Prop where
  opens : s.head? = some '<'
  reopens : s.IsChain fun c d => c = '>' → d = '<'

theorem strip_inside_eq_nil_iff (s : List Char) :
    strip true s = [] ↔ s.IsChain fun c d => c = '>' → d = '<' := by
  induction s with
  | nil => simp [strip]
  | cons c r ih =>
    cases r with
    | nil => simp [strip]
    | cons d r =>
      rw [List.isChain_cons_cons, ← ih]
      by_cases hc : c = '>'
      · subst hc
        by_cases hd : d = '<'
        · subst hd
          simp [strip]
        · simp [strip, hd]
      · have hpass : (c != '>') = true := bne_iff_ne.2 hc
        simp [strip, hpass, hc]

theorem strip_eq_nil_iff (s : List Char) : strip false s = [] ↔ s = [] ∨ OnlyMarkup s := by
  cases s with
  | nil => simp [strip]
  | cons c r =>
    by_cases hc : c = '<'
    · subst hc
      -- within markup another `<` is passed over
      have hopen : strip false ('<' :: r) = strip true ('<' :: r) := by simp [strip]
      rw [hopen, strip_inside_eq_nil_iff]
      exact ⟨fun h => .inr ⟨rfl, h⟩, fun h => (h.resolve_left (List.cons_ne_nil _ _)).reopens⟩
    · have hfirst : ¬ OnlyMarkup (c :: r) := fun h => hc (by simpa using h.opens)
      simp [strip, hc, hfirst]

theorem strips_nil_iff : Strips s [] ↔ s = [] ∨ OnlyMarkup s := by
  rw [strips_iff, eq_comm, strip_eq_nil_iff]

theorem OnlyMarkup.ne_nil (h : OnlyMarkup s) : s ≠ [] := by
  rintro rfl
  cases h.opens

theorem OnlyMarkup.strips (h : OnlyMarkup s) : Strips s [] := strips_nil_iff.2 (.inr h)

theorem cut_eq_nil_iff : cut s = [] ↔ s = [] := by
  rw [cut_eq]
  split
  · rfl
  · next hlong =>
    have hs : s ≠ [] := fun he => hlong (by simp [he])
    simp [ellipsis, hs]

theorem clean_eq_empty_iff : clean html = "" ↔ Strips html.toList [] := by
  rw [strips_iff, ← String.toList_eq_nil_iff, toList_clean, cut_eq_nil_iff, eq_comm]

end Description

namespace Dataset

open Description

/-- The entry has a description in which there is something besides markup. -/
def OffersText (entry : Json) : Prop :=
  ∃ html, entry.get? "description_html" = some (.text html) ∧ ¬ Strips html.toList []

/-- The entry has a description that is markup and nothing else. -/
def OffersOnlyMarkup (entry : Json) : Prop :=
  ∃ html, entry.get? "description_html" = some (.text html) ∧ OnlyMarkup html.toList

/-- What a feature has for a description, told from the entry that it is made of. -/
structure Captioned (id : String) (entry : Json) (f : Feature) : Prop extends
    Describes id entry f where
  offered : OffersText entry → f.description ≠ ""
  /-- Where the entry has no text to show, the name stands in, unless there is markup. -/
  standsIn : ¬ OffersText entry → ¬ OffersOnlyMarkup entry → f.description = f.name
  /-- So a feature with a name is without a description in this case only. -/
  missing : f.name ≠ "" → (f.description = "" ↔ OffersOnlyMarkup entry)

theorem offered?_eq_some_iff : offered? members = some html ↔
    (Json.object members).get? "description_html" = some (.text html) ∧ html.toList ≠ [] := by
  simp [offered?, Option.filter_eq_some_iff, Option.bind_eq_some_iff, Json.asText?_eq_some_iff,
    Json.get?]

theorem captioned_of_built (h : readEntry id entry = .built f) : Captioned id entry f := by
  have hdescribes := describes_of_built h
  obtain ⟨members, name, status, rfl, rfl⟩ := exists_of_built h
  have hd : (buildFeature id name members status).description =
      ((offered? members).map clean).getD name := description_buildFeature
  cases ho : offered? members with
  | none =>
    rw [ho] at hd
    have hempty : ∀ html, (Json.object members).get? "description_html" = some (.text html) →
        html.toList = [] := by
      intro html hl
      by_contra hne
      simp [offered?_eq_some_iff.2 ⟨hl, hne⟩] at ho
    refine ⟨hdescribes, ?_, fun _ _ => hd, fun hname => iff_of_false ?_ ?_⟩
    · rintro ⟨html, hl, hs⟩
      exact (hs (strips_nil_iff.2 (.inl (hempty html hl)))).elim
    · exact fun he => hname (hd.symm.trans he)
    · rintro ⟨html, hl, hm⟩
      exact hm.ne_nil (hempty html hl)
  | some html =>
    rw [ho] at hd
    obtain ⟨hl, hne⟩ := offered?_eq_some_iff.1 ho
    have hempty : (buildFeature id name members status).description = "" ↔ Strips html.toList [] := by
      rw [hd]
      exact clean_eq_empty_iff
    have htext : OffersText (.object members) ↔ ¬ Strips html.toList [] := by
      simp [OffersText, hl]
    have hmarkup : OffersOnlyMarkup (.object members) ↔ Strips html.toList [] := by
      rw [strips_nil_iff, or_iff_right hne]
      simp [OffersOnlyMarkup, hl]
    refine ⟨hdescribes, fun ht he => htext.1 ht (hempty.1 he), fun hno hm => ?_,
      fun _ => hempty.trans hmarkup.symm⟩
    exact (hno (htext.2 fun hs => hm (hmarkup.2 hs))).elim

/-- A feature with a name is without a description only if its entry has one that is markup and
nothing else. In all other cases the name stands in where the entry has no text to show. -/
theorem captioned_of_normalize (h : normalize data = .ok (fs, tally)) :
    ∃ es, HasEntries data es ∧
      List.Forall₂ (fun kv f => Captioned kv.1 kv.2 f) (es.filter (Usable ·.2)) fs := by
  obtain ⟨es, hes, -, hfs⟩ := normalize_eq_ok h
  obtain rfl : fs = featuresOf es := hfs
  exact ⟨es, entries_eq_ok_iff.1 hes, forall₂_built.imp fun _ _ => captioned_of_built⟩

/-- Of four names, two stand in; the third is not needed, and the fourth is kept from it by markup
that is not even closed. -/
theorem captioned_of_normalize_four :
    let data : Json := .object [("features", .object [
      ("a", .object [("name", .text "A"), ("status", .object []), ("description_html", .null)]),
      ("b", .object [("name", .text "B"), ("status", .object []), ("description_html", .text "")]),
      ("c", .object [("name", .text "C"), ("status", .object []),
        ("description_html", .text "<p>></p>")]),
      ("d", .object [("name", .text "D"), ("status", .object []),
        ("description_html", .text "<p></p><d")])])]
    let fs : List Feature := [⟨"a", "A", "A", none, .js, .limited, []⟩,
      ⟨"b", "B", "B", none, .js, .limited, []⟩, ⟨"c", "C", ">", none, .js, .limited, []⟩,
      ⟨"d", "D", "", none, .js, .limited, []⟩]
    normalize data = .ok (fs, ⟨4, 4, 0, 0⟩) ∧ ∃ es, HasEntries data es ∧
      List.Forall₂ (fun kv f => Captioned kv.1 kv.2 f) (es.filter (Usable ·.2)) fs := by
  intro data fs
  have hnormal : normalize data = .ok (fs, ⟨4, 4, 0, 0⟩) := by decide +kernel
  exact ⟨hnormal, captioned_of_normalize hnormal⟩

/-- A description without visible text leaves a feature that has a name without a description. -/
theorem no_description_of_markup :
    let entry : Json := .object [("name", .text "dialog"), ("status", .object []),
      ("description_html", .text "<p></p>")]
    ∃ fs tally, normalize (.object [("dialog", entry)]) = .ok (fs, tally) ∧
      ∃ f ∈ fs, f.name = "dialog" ∧ f.description = "" ∧ ¬ OffersText entry := by
  intro entry
  have hmarkup : OnlyMarkup "<p></p>".toList := ⟨by decide, by decide⟩
  refine ⟨[⟨"dialog", "dialog", "", none, .js, .limited, []⟩], ⟨1, 1, 0, 0⟩, by decide +kernel,
    _, List.mem_singleton_self _, rfl, rfl, ?_⟩
  rintro ⟨html, hl, hs⟩
  have hl : some (Json.text "<p></p>") = some (.text html) := hl
  cases hl
  exact hs hmarkup.strips

end Dataset
end FeatureAudit
