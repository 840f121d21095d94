import FeatureAudit.Audit.Section
import Mathlib.Data.List.Infix

/-! What matchers give, for every search that reports each occurrence of each pattern. -/
namespace FeatureAudit

variable {n : Nat} {p q : Fin n} {ps : List (Fin n)} {loose : Bool} {build : Search.Builder}
  {pattern text : List Char} {patterns : List (List Char)} {entries : List (List Char × Fin n)}

theorem mem_addPlace : q ∈ addPlace p ps ↔ q = p ∨ q ∈ ps := by
  induction ps with
  | nil => simp [addPlace]
  | cons r ps ih =>
    simp only [addPlace]
    split
    · simp
    · split
      · next he => subst he; simp
      · simp only [List.mem_cons, ih]
        exact or_left_comm

theorem sorted_addPlace (h : ps.Pairwise (· < ·)) : (addPlace p ps).Pairwise (· < ·) := by
  induction ps with
  | nil => simp [addPlace]
  | cons r ps ih =>
    obtain ⟨hr, hp⟩ := List.pairwise_cons.1 h
    simp only [addPlace]
    split
    · next hlt =>
      refine List.pairwise_cons.2 ⟨fun q hq => ?_, h⟩
      rcases List.mem_cons.1 hq with rfl | hq
      · exact hlt
      · exact Fin.lt_trans hlt (hr q hq)
    · next hlt =>
      split
      · exact h
      · next hne =>
        refine List.pairwise_cons.2 ⟨fun q hq => ?_, ih hp⟩
        rcases mem_addPlace.1 hq with rfl | hq
        · omega
        · exact hr q hq

namespace Search

/-- A piece of the text is the pattern, if the search is loose in letters A to Z of any case. -/
def Finds (loose : Bool) (pattern text : List Char) : Prop :=
  ∃ piece, piece <:+: text ∧ reduce loose piece = reduce loose pattern

/-- A search reports each occurrence of each pattern, and nothing else. -/
def Complete (loose : Bool) (patterns : List (List Char)) (search : Search) : Prop :=
  ∀ text i, i ∈ search text ↔ ∃ p, patterns[i]? = some p ∧ Finds loose p text

/-- All searches that are built are complete. -/
def Builder.Complete (build : Builder) : Prop :=
  ∀ loose patterns search, build loose patterns = some search →
    Search.Complete loose patterns search

theorem infix_map_iff {f : Char → Char} {s t : List Char} :
    s <:+: t.map f ↔ ∃ piece, piece <:+: t ∧ piece.map f = s := by
  constructor
  · rintro ⟨a, b, h⟩
    obtain ⟨u, v, rfl, hu, rfl⟩ := List.map_eq_append_iff.1 h.symm
    obtain ⟨w, piece, rfl, rfl, rfl⟩ := List.map_eq_append_iff.1 hu
    exact ⟨piece, ⟨w, v, rfl⟩, rfl⟩
  · rintro ⟨piece, h, rfl⟩
    exact h.map f

theorem finds_iff : Finds loose pattern text ↔ reduce loose pattern <:+: reduce loose text := by
  cases loose with
  | false => simp [Finds, reduce]
  | true => simpa [Finds, reduce, Text.asciiLower] using infix_map_iff.symm

theorem not_finds_nil (h : pattern ≠ []) : ¬ Finds loose pattern [] := by
  rintro ⟨piece, hp, he⟩
  obtain rfl := List.infix_nil.1 hp
  cases loose <;> simp_all [reduce, Text.asciiLower]

/-- Patterns are numbered alike before and after they are reduced. -/
theorem exists_reduced_iff {i : Nat} :
    (∃ q, (patterns.map (reduce loose))[i]? = some q ∧ q <:+: reduce loose text) ↔
      ∃ p, patterns[i]? = some p ∧ Finds loose p text := by
  simp only [List.getElem?_map, Option.map_eq_some_iff, finds_iff]
  constructor
  · rintro ⟨_, ⟨p, hp, rfl⟩, h⟩
    exact ⟨p, hp, h⟩
  · rintro ⟨p, hp, h⟩
    exact ⟨_, ⟨p, hp, rfl⟩, h⟩

theorem complete_eachOf : Complete loose patterns (eachOf loose patterns) := by
  intro text i
  rw [← exists_reduced_iff]
  simp [eachOf, List.mk_mem_zipIdx_iff_getElem?, Text.occurs_iff]

theorem mem_startsIn {entries : List (List Char × Nat)} {i : Nat} :
    i ∈ startsIn entries text ↔ ∃ p, (p, i) ∈ entries ∧ p <:+: text := by
  induction text with
  | nil => simp [startsIn]
  | cons c r ih =>
    simp only [startsIn, List.mem_append, ih, List.infix_cons_iff]
    simp [and_or_left, exists_or]

theorem complete_overlapping : Builder.Complete overlapping := by
  intro loose patterns search h text i
  obtain rfl := Option.some.inj h
  rw [← exists_reduced_iff, mem_startsIn]
  simp only [List.mk_mem_zipIdx_iff_getElem?]

end Search

namespace Matcher

open Search

variable {m : Matcher n}

theorem places_ofPatterns : (ofPatterns build loose entries).places =
    (entries.filter (!·.1.isEmpty)).map Prod.snd := rfl

theorem complete_ofPatterns (h : build.Complete) :
    Search.Complete loose ((entries.filter (!·.1.isEmpty)).map Prod.fst)
      (ofPatterns build loose entries).search := by
  simp only [ofPatterns]
  cases hb : build loose ((entries.filter (!·.1.isEmpty)).map Prod.fst) with
  | none => exact complete_eachOf
  | some search => exact h _ _ _ hb

theorem mem_foldl_addPlace {is : List Nat} {place : Nat → Option (Fin n)} :
    p ∈ is.foldl (fun ps i => ((place i).map (addPlace · ps)).getD ps) ps ↔
      p ∈ ps ∨ ∃ i ∈ is, place i = some p := by
  induction is generalizing ps with
  | nil => simp
  | cons i is ih =>
    rw [List.foldl_cons, ih]
    cases hi : place i with
    | none => simp [hi]
    | some q => simp [hi, mem_addPlace, or_assoc, or_left_comm, eq_comm]

theorem sorted_foldl_addPlace {is : List Nat} {place : Nat → Option (Fin n)}
    (h : ps.Pairwise (· < ·)) :
    (is.foldl (fun ps i => ((place i).map (addPlace · ps)).getD ps) ps).Pairwise (· < ·) := by
  induction is generalizing ps with
  | nil => exact h
  | cons i is ih =>
    rw [List.foldl_cons]
    apply ih
    cases place i with
    | none => simpa using h
    | some q => simpa using sorted_addPlace h

theorem sorted_collect (h : ps.Pairwise (· < ·)) : (m.collect text ps).Pairwise (· < ·) := by
  simp only [collect]
  split
  · exact h
  · exact sorted_foldl_addPlace h

theorem collect_nil : m.collect [] ps = ps := by simp [collect]

/-- The numbers of patterns lead to the places of their entries, although entries with an empty
pattern have dropped out. -/
theorem mem_collect_ofPatterns (h : build.Complete) :
    p ∈ (ofPatterns build loose entries).collect text ps ↔
      p ∈ ps ∨ ∃ pattern, (pattern, p) ∈ entries ∧ pattern ≠ [] ∧ Finds loose pattern text := by
  have hfound : (∃ i ∈ (ofPatterns build loose entries).search text,
      (ofPatterns build loose entries).places[i]? = some p) ↔
      ∃ pattern, (pattern, p) ∈ entries ∧ pattern ≠ [] ∧ Finds loose pattern text := by
    simp only [complete_ofPatterns h text _, places_ofPatterns, List.getElem?_map,
      Option.map_eq_some_iff]
    constructor
    · rintro ⟨i, ⟨_, ⟨e, he, rfl⟩, hf⟩, e', he', rfl⟩
      obtain rfl : e = e' := Option.some.inj (he.symm.trans he')
      obtain ⟨hm, hn⟩ := List.mem_filter.1 (List.mem_of_getElem? he)
      exact ⟨e.1, hm, by simpa using hn, hf⟩
    · rintro ⟨pattern, hm, hn, hf⟩
      have hk : (pattern, p) ∈ entries.filter (!·.1.isEmpty) := by simp [hm, hn]
      obtain ⟨i, hi⟩ := List.mem_iff_getElem?.1 hk
      exact ⟨i, ⟨_, ⟨_, hi, rfl⟩, hf⟩, _, hi, rfl⟩
  simp only [collect]
  split
  · next hz =>
    -- either no entry is kept, or the text is empty
    refine ⟨Or.inl, ?_⟩
    rintro (hp | ⟨pattern, hm, hn, hf⟩)
    · exact hp
    · rcases Bool.or_eq_true_iff.1 hz with hz | hz
      · have hk : (pattern, p) ∈ entries.filter (!·.1.isEmpty) := by simp [hm, hn]
        rw [places_ofPatterns, List.isEmpty_iff, List.map_eq_nil_iff] at hz
        simp [hz] at hk
      · rw [List.isEmpty_iff.1 hz] at hf
        exact (not_finds_nil hn hf).elim
  · rw [mem_foldl_addPlace, hfound]

end Matcher
end FeatureAudit
