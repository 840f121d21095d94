import FeatureAudit.Dataset.Description
import Mathlib.Data.List.Basic

/-! What is left of a piece of markup as a description, and that a description is one of itself. -/
namespace FeatureAudit.Description

/-- The second text is the first without its stretches of markup, from left to right: each goes from
a `<` up to the next `>` and takes that along, or to the end if there is none. -/
inductive Strips : List Char → List Char → Prop
  | plain {s : List Char} (h : '<' ∉ s) : Strips s s
  | closed {front inside r t : List Char} (hfront : '<' ∉ front) (hinside : '>' ∉ inside)
      (hrest : Strips r t) : Strips (front ++ '<' :: (inside ++ '>' :: r)) (front ++ t)
  | unclosed {front inside : List Char} (hfront : '<' ∉ front) (hinside : '>' ∉ inside) :
      Strips (front ++ '<' :: inside) front

variable {front inside r s t : List Char}

/-! Stretches. -/

theorem strip_append (h : '<' ∉ front) :
    strip false (front ++ '<' :: r) = front ++ strip true r := by
  induction front with
  | nil => simp [strip]
  | cons c front ih =>
    simp only [List.mem_cons, not_or] at h
    simp [strip, Ne.symm h.1, ih h.2]

theorem strip_inside_append (h : '>' ∉ inside) :
    strip true (inside ++ '>' :: r) = strip false r := by
  induction inside with
  | nil => simp [strip]
  | cons c inside ih =>
    simp only [List.mem_cons, not_or] at h
    have hpass : (c != '>') = true := bne_iff_ne.2 (Ne.symm h.1)
    simp [strip, hpass, ih h.2]

theorem strip_inside_of_notMem (h : '>' ∉ inside) : strip true inside = [] := by
  induction inside with
  | nil => rfl
  | cons c inside ih =>
    simp only [List.mem_cons, not_or] at h
    have hpass : (c != '>') = true := bne_iff_ne.2 (Ne.symm h.1)
    simp [strip, hpass, ih h.2]

theorem Strips.eq_strip (h : Strips s t) : t = strip false s := by
  induction h with
  | plain h => exact (strip_of_notMem h).symm
  | closed hfront hinside _ ih => rw [strip_append hfront, strip_inside_append hinside, ih]
  | unclosed hfront hinside =>
    rw [strip_append hfront, strip_inside_of_notMem hinside, List.append_nil]

theorem strips_strip (s : List Char) : Strips s (strip false s) := by
  -- a stretch takes many characters off at once, so the induction is on the length
  induction hlen : s.length using Nat.strongRecOn generalizing s with
  | ind n ih =>
    by_cases hopen : '<' ∈ s
    · obtain ⟨front, r, rfl, hfront⟩ := List.eq_append_cons_of_mem hopen
      rw [strip_append hfront]
      by_cases hclose : '>' ∈ r
      · obtain ⟨inside, r, rfl, hinside⟩ := List.eq_append_cons_of_mem hclose
        rw [strip_inside_append hinside]
        refine .closed hfront hinside (ih r.length ?_ r rfl)
        simp only [← hlen, List.length_append, List.length_cons]
        omega
      · rw [strip_inside_of_notMem hclose, List.append_nil]
        exact .unclosed hfront hclose
    · rw [strip_of_notMem hopen]
      exact .plain hopen

theorem strips_iff : Strips s t ↔ t = strip false s :=
  ⟨Strips.eq_strip, fun h => h ▸ strips_strip s⟩

/-! Cuts. -/

theorem cut_eq (s : List Char) :
    cut s = if s.length ≤ maxLength then s else s.take maxLength ++ ellipsis := by
  simp only [cut, ← Nat.not_lt, ite_not]

theorem lt_notMem_cut (h : '<' ∉ s) : '<' ∉ cut s := by
  unfold cut
  split
  · rw [List.mem_append, not_or]
    exact ⟨fun hm => h (List.mem_of_mem_take hm), by decide⟩
  · exact h

/-- A text that has been cut is too long still, but it loses only the mark that it gets again. -/
theorem cut_cut (s : List Char) : cut (cut s) = cut s := by
  by_cases hlong : maxLength < s.length
  · have hcut : cut s = s.take maxLength ++ ellipsis := if_pos hlong
    have htake : (s.take maxLength).length = maxLength :=
      List.length_take_of_le (Nat.le_of_lt hlong)
    have hagain : maxLength < (s.take maxLength ++ ellipsis).length := by
      rw [List.length_append, htake]
      decide
    rw [hcut, cut, if_pos hagain, List.take_append_of_le_length (Nat.le_of_eq htake.symm),
      List.take_of_length_le (Nat.le_of_eq htake)]
  · have hcut : cut s = s := if_neg hlong
    rw [hcut, hcut]

/-! Descriptions. -/

theorem toList_clean (html : String) : (clean html).toList = cut (strip false html.toList) :=
  String.toList_ofList

theorem clean_clean (html : String) : clean (clean html) = clean html := by
  have hplain : '<' ∉ cut (strip false html.toList) := lt_notMem_cut (lt_notMem_strip _ _)
  rw [clean, toList_clean, strip_of_notMem hplain, cut_cut]
  rfl

/-- The description that a piece of markup gives is what is left of it without its stretches of
markup, or the start of that and a mark; and it is the description that it gives itself. -/
theorem exists_strips_clean (html : String) : ∃ plain, (∀ t, Strips html.toList t ↔ t = plain) ∧
    (clean html).toList = (if plain.length ≤ 150 then plain else plain.take 150 ++ "...".toList) ∧
    '<' ∉ (clean html).toList ∧ (clean html).length ≤ 153 ∧ clean (clean html) = clean html := by
  refine ⟨strip false html.toList, fun _ => strips_iff, ?_, ?_, ?_, clean_clean html⟩
  · rw [toList_clean, cut_eq]
    rfl
  · rw [toList_clean]
    exact lt_notMem_cut (lt_notMem_strip _ _)
  · rw [← String.length_toList, toList_clean]
    exact length_cut_le _

/-- Signs that open nothing stay, and those inside of markup count for nothing. -/
example : clean "a > b <i <b>c</b> d <e" = "a > b c d " := by decide

end FeatureAudit.Description
