import FeatureAudit.Text.Occurrence
import FeatureAudit.Text.Blank
import Mathlib

/-! The words of a text do not depend on the blanks around it, nor on the case of its letters. -/
namespace FeatureAudit.Text

variable {p : Char → Bool} {c : Char} {cs : List Char}

theorem words_cons_of_blank (h : isBlank c = true) : words (c :: cs) = words cs := by
  simp [words, splitWhere, h]

theorem splitWhere_concat (h : p c = true) :
    splitWhere p (cs ++ [c]) = splitWhere p cs ++ [[]] := by
  induction cs with
  | nil => simp [splitWhere, h]
  | cons d cs ih =>
    by_cases hd : p d = true
    · simp [splitWhere, hd, ih]
    · rw [List.cons_append, splitWhere, if_neg hd, ih, splitWhere, if_neg hd]
      cases hs : splitWhere p cs with
      | nil => exact (splitWhere_ne_nil p cs hs).elim
      | cons w ws => rfl

theorem words_concat_of_blank (h : isBlank c = true) : words (cs ++ [c]) = words cs := by
  simp [words, splitWhere_concat h]

theorem words_dropWhile : words (cs.dropWhile isBlank) = words cs := by
  induction cs with
  | nil => rfl
  | cons c cs ih =>
    by_cases hc : isBlank c = true
    · rw [List.dropWhile_cons_of_pos hc, ih, words_cons_of_blank hc]
    · rw [List.dropWhile_cons_of_neg hc]

theorem words_rdropWhile : words (cs.rdropWhile isBlank) = words cs := by
  induction cs using List.reverseRecOn with
  | nil => rfl
  | append_singleton cs c ih =>
    by_cases hc : isBlank c = true
    · rw [List.rdropWhile_concat_pos _ _ _ hc, ih, words_concat_of_blank hc]
    · rw [List.rdropWhile_concat_neg _ _ _ hc]

theorem words_trim : words (trim cs) = words cs := words_rdropWhile.trans words_dropWhile

/-! Letters. -/

theorem isLower_iff : c.isLower = true ↔ 97 ≤ c.toNat ∧ c.toNat ≤ 122 := by
  simp only [Char.isLower, ge_iff_le, Bool.and_eq_true, decide_eq_true_eq, UInt32.le_iff_toNat_le]
  rfl

theorem isUpper_iff : c.isUpper = true ↔ 65 ≤ c.toNat ∧ c.toNat ≤ 90 := by
  simp only [Char.isUpper, ge_iff_le, decide_eq_true_eq, UInt32.le_iff_toNat_le]
  rfl

theorem isAlphanum_iff : c.isAlphanum = true ↔ (48 ≤ c.toNat ∧ c.toNat ≤ 57) ∨
    (65 ≤ c.toNat ∧ c.toNat ≤ 90) ∨ (97 ≤ c.toNat ∧ c.toNat ≤ 122) := by
  have hdigit : c.isDigit = true ↔ 48 ≤ c.toNat ∧ c.toNat ≤ 57 := by
    simp only [Char.isDigit, ge_iff_le, Bool.and_eq_true, decide_eq_true_eq,
      UInt32.le_iff_toNat_le]
    rfl
  rw [Char.isAlphanum, Char.isAlpha, Bool.or_eq_true, Bool.or_eq_true, isUpper_iff, isLower_iff,
    hdigit, or_comm]

theorem isBlank_of_isAlphanum (h : c.isAlphanum = true) : isBlank c = false := by
  rw [isAlphanum_iff] at h
  simp [isBlank]
  omega

theorem isBlank_toLower : isBlank c.toLower = isBlank c := by
  by_cases hu : c.isUpper = true
  · have hc : c.isAlpha = true := by simp [Char.isAlpha, hu]
    rw [isBlank_of_isAlphanum (by simp [Char.isAlphanum, hc]),
      isBlank_of_isAlphanum (by simp [Char.isAlphanum, hc])]
  · rw [Char.toLower_eq_of_not_isUpper hu]

theorem words_asciiLower : words (asciiLower cs) = (words cs).map asciiLower := by
  have hsplit : splitWhere isBlank (asciiLower cs) = (splitWhere isBlank cs).map asciiLower := by
    induction cs with
    | nil => rfl
    | cons c cs ih =>
      change splitWhere isBlank (c.toLower :: asciiLower cs) = _
      rw [splitWhere, isBlank_toLower, splitWhere, ih]
      by_cases hc : isBlank c = true
      · simp [hc, asciiLower]
      · cases hs : splitWhere isBlank cs with
        | nil => exact (splitWhere_ne_nil _ cs hs).elim
        | cons w ws => simp [hc, asciiLower]
  rw [words, hsplit, List.filter_map, words]
  refine congrArg _ (List.filter_congr fun w _ => ?_)
  simp [asciiLower]

end FeatureAudit.Text
