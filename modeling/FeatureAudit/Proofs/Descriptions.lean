import FeatureAudit.Proofs.Datasets
import Mathlib.Tactic.Common

/-! Which descriptions are plain text of bounded length: those that are made from markup, and names
that are plain themselves. -/
namespace FeatureAudit

variable {s : List Char} {f : Feature} {id name : String} {members status : Json.Members} {data : Json}
  {fs : List Feature} {tally : Dataset.Tally}

namespace Description

/-- Text without markup, of at most `maxLength` characters apart from the mark of a cut. -/
@[mk_iff] structure Plain (s : List Char) : Prop where
  markup : '<' ∉ s
  length : s.length ≤ maxLength ∨ ellipsis <:+ s ∧ s.length ≤ maxLength + ellipsis.length

instance (s : List Char) : Decidable (Plain s) := decidable_of_iff _ (plain_iff s).symm

theorem plain_cut (h : '<' ∉ s) : Plain (cut s) := by
  unfold cut
  split
  · next hlong =>
    have htake : '<' ∉ s.take maxLength := fun hm => h (List.mem_of_mem_take hm)
    refine ⟨?_, .inr ⟨List.suffix_append _ _, ?_⟩⟩
    · rw [List.mem_append]
      exact fun hm => hm.elim htake (by decide)
    · rw [List.length_append]
      exact Nat.add_le_add_right (List.length_take_le _ _) _
  · next hshort => exact ⟨h, .inl (by omega)⟩

theorem plain_clean (html : String) : Plain (clean html).toList := by
  rw [clean, String.toList_ofList]
  exact plain_cut (lt_notMem_strip _ _)

end Description

namespace Dataset

open Description

/-- The text that an entry offers for a description. -/
def offered? (members : Json.Members) : Option String :=
  ((members.lookup "description_html").bind Json.asText?).filter (!·.isEmpty)

/-- The description is made from what the entry offers, or else it is the name as it stands. -/
theorem description_buildFeature :
    (buildFeature id name members status).description =
      ((offered? members).map clean).getD name := by
  rw [buildFeature, offered?]
  cases (members.lookup "description_html").bind Json.asText? with
  | none => rfl
  | some html => cases hempty : html.isEmpty <;> simp [Option.filter, hempty]

theorem exists_of_built {entry : Json} (h : readEntry id entry = .built f) :
    ∃ members name status, entry = .object members ∧ f = buildFeature id name members status := by
  obtain ⟨members, status, name, he, -, -, hf⟩ := readEntry_eq_built_iff.1 h
  exact ⟨members, name, status, he, hf⟩

/-- The description of a feature is plain if its entry offers one, and otherwise only if the name
is. -/
theorem plain_description_iff (h : normalize data = .ok (fs, tally)) :
    ∃ es, entries data = .ok es ∧ ∀ f ∈ fs, ∃ id members, (id, .object members) ∈ es ∧
      readEntry id (.object members) = .built f ∧
      (Plain f.description.toList ↔ (offered? members).isSome ∨ Plain f.name.toList) := by
  obtain ⟨es, hes, -, rfl⟩ := normalize_eq_ok h
  refine ⟨es, hes, fun f hf => ?_⟩
  obtain ⟨⟨id, entry⟩, he, hbuilt⟩ := List.mem_filterMap.1 hf
  have hread : readEntry id entry = .built f := by
    cases hr : readEntry id entry <;> simp_all [Outcome.feature?]
  obtain ⟨members, name, status, rfl, rfl⟩ := exists_of_built hread
  refine ⟨id, members, he, hread, ?_⟩
  rw [description_buildFeature, show (buildFeature id name members status).name = name from rfl]
  cases offered? members with
  | none => simp
  | some html => simp [plain_clean]

/-- Of two names that are not plain, one is not needed. -/
theorem plain_description_iff_offered :
    let data : Json := .object [
      ("grid", .object [("name", .text "<i>"), ("status", .object []),
        ("description_html", .text "Two <i>axes</i>")]),
      ("fetch", .object [("name", .text "<i>"), ("status", .object []),
        ("description_html", .text "")])]
    let fs : List Feature := [⟨"grid", "<i>", "Two axes", none, .css, .limited, []⟩,
      ⟨"fetch", "<i>", "<i>", none, .js, .limited, []⟩]
    normalize data = .ok (fs, ⟨2, 2, 0, 0⟩) ∧
      ∃ es, entries data = .ok es ∧ ∀ f ∈ fs, ∃ id members, (id, .object members) ∈ es ∧
        readEntry id (.object members) = .built f ∧
        (Plain f.description.toList ↔ (offered? members).isSome ∨ Plain f.name.toList) := by
  intro data fs
  have hnormal : normalize data = .ok (fs, ⟨2, 2, 0, 0⟩) := by decide +kernel
  exact ⟨hnormal, plain_description_iff hnormal⟩

/-- A name with markup, longer than any description may be, becomes one as it stands. -/
theorem description_of_name :
    let name := String.ofList ("<b>".toList ++ List.replicate 160 'a')
    let data : Json :=
      .object [("dialog", .object [("name", .text name), ("status", .object [])])]
    normalize data = .ok ([⟨"dialog", name, name, none, .js, .limited, []⟩], ⟨1, 1, 0, 0⟩) ∧
      '<' ∈ name.toList ∧ maxLength + ellipsis.length < name.toList.length := by
  decide +kernel

end Dataset
end FeatureAudit
