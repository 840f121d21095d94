import FeatureAudit.Proofs.Rounding

/-! The shortest decimal of a number: it has few digits, and it does not lie beyond what is rounded to
the number. -/
namespace FeatureAudit.Binary64

variable {m k n fuel places : Nat} {e i top : Int} {c : Decimal} {x : Binary64}

namespace Decimal

def value (c : Decimal) : ℚ := c.digits * 10 ^ c.exponent

theorem trimmed_of_dvd (h : c.digits ≠ 0 ∧ c.digits % 10 = 0) :
    c.trimmed (fuel + 1) = trimmed ⟨c.digits / 10, c.exponent + 1⟩ fuel := by
  simp [trimmed, h]

/-- Zeros that are left out are made up for by the exponent. -/
theorem value_trimmed : (c.trimmed fuel).value = c.value := by
  induction fuel generalizing c with
  | zero => rfl
  | succ fuel ih =>
    by_cases h : c.digits ≠ 0 ∧ c.digits % 10 = 0
    · have hten : ((c.digits / 10 : Nat) : ℚ) * 10 = c.digits := by
        exact_mod_cast Nat.div_mul_cancel (Nat.dvd_of_mod_eq_zero h.2)
      rw [trimmed_of_dvd h, ih, value, value, zpow_add_one₀ (by norm_num), ← hten]
      ring
    · rw [trimmed, if_neg (by simpa using h)]

theorem digits_trimmed_le : (c.trimmed fuel).digits ≤ c.digits := by
  induction fuel generalizing c with
  | zero => exact Nat.le_refl _
  | succ fuel ih =>
    rw [trimmed]
    split
    · exact ih.trans (Nat.div_le_self _ _)
    · exact Nat.le_refl _

theorem exponent_le_trimmed : c.exponent ≤ (c.trimmed fuel).exponent := by
  induction fuel generalizing c with
  | zero => exact Int.le_refl _
  | succ fuel ih =>
    rw [trimmed]
    split
    · exact (Int.le_of_lt (Int.lt_succ _)).trans ih
    · exact Int.le_refl _

theorem digits_trimmed_pos (h : 0 < c.digits) : 0 < (c.trimmed fuel).digits := by
  refine Nat.pos_of_ne_zero fun hzero => ?_
  have hvalue : (c.trimmed fuel).value = c.value := value_trimmed
  have hpos : (0 : ℚ) < c.digits * 10 ^ c.exponent := by positivity
  rw [value, hzero, Nat.cast_zero, zero_mul] at hvalue
  exact hpos.ne hvalue

end Decimal

/-! The search. -/

theorem pow_toNat_eq {b : ℚ} (hb : b ≠ 0) (e : Int) : b ^ e.toNat = b ^ e * b ^ (-e).toNat := by
  rw [← zpow_natCast, ← zpow_natCast, ← zpow_add₀ hb]
  congr 1
  omega

/-- A decimal that is rounded to a number is at most half a step larger. -/
theorem value_le_of_readsBack (h : readsBack m e c = true) : c.value ≤ (m + 1 / 2) * 2 ^ e := by
  have hnat : c.digits * 10 ^ c.exponent.toNat * 2 ^ (2 - e).toNat ≤
      (4 * m + 2) * (2 ^ (e - 2).toNat * 10 ^ (-c.exponent).toNat) := by
    simp only [readsBack] at h
    by_cases heven : m % 2 = 0
    · rw [if_pos heven, Bool.and_eq_true, decide_eq_true_eq, decide_eq_true_eq] at h
      exact h.2
    · rw [if_neg heven, Bool.and_eq_true, decide_eq_true_eq, decide_eq_true_eq] at h
      exact h.2.le
  have hcast : (c.digits : ℚ) * 10 ^ c.exponent.toNat * 2 ^ (2 - e).toNat ≤
      (4 * m + 2) * (2 ^ (e - 2).toNat * 10 ^ (-c.exponent).toNat) := by exact_mod_cast hnat
  rw [pow_toNat_eq (by norm_num) c.exponent, pow_toNat_eq two_ne_zero (e - 2), neg_sub] at hcast
  have hquarter : (2 : ℚ) ^ e = 2 ^ (e - 2) * 4 := by
    rw [zpow_sub₀ two_ne_zero]
    norm_num
  have hcommon : (0 : ℚ) < 10 ^ (-c.exponent).toNat * 2 ^ (2 - e).toNat := by positivity
  refine le_of_mul_le_mul_right ?_ hcommon
  rw [Decimal.value, hquarter]
  linarith

theorem lt_ten_pow_digitCount (n : Nat) : n < 10 ^ digitCount n :=
  (Nat.length_toDigits_le_iff (by decide) Nat.length_toDigits_pos).1 (Nat.le_refl _)

theorem lt_ten_pow_leadingPosition (m : Nat) (e : Int) :
    (m : ℚ) * 2 ^ e < 10 ^ (leadingPosition m e + 1) := by
  unfold leadingPosition
  split
  · next he =>
    have hnat := lt_ten_pow_digitCount (m * 2 ^ e.toNat)
    have hcast : (m : ℚ) * 2 ^ e.toNat < 10 ^ digitCount (m * 2 ^ e.toNat) := by
      exact_mod_cast hnat
    rw [sub_add_cancel, zpow_natCast, ← two_pow_toNat he]
    exact hcast
  · next he =>
    obtain ⟨shift, rfl⟩ : ∃ shift : Nat, e = -shift := ⟨(-e).toNat, by omega⟩
    simp only [neg_neg, Int.toNat_natCast, Nat.pow_eq]
    have hnat := lt_ten_pow_digitCount (m * 10 ^ shift / 2 ^ shift)
    rw [Nat.div_lt_iff_lt_mul (Nat.pow_pos (by decide))] at hnat
    generalize digitCount (m * 10 ^ shift / 2 ^ shift) = count at hnat ⊢
    have hcast : (m : ℚ) * 10 ^ shift < 10 ^ count * 2 ^ shift := by exact_mod_cast hnat
    have hexponent : (count : Int) - 1 - shift + 1 = count - shift := by omega
    rw [hexponent, zpow_neg, zpow_natCast, zpow_sub₀ (by norm_num), zpow_natCast, zpow_natCast,
      ← div_eq_mul_inv, div_lt_div_iff₀ (by positivity) (by positivity)]
    exact hcast

/-- Neither neighbour of a number has more digits than the number has in front of its place `i`. -/
theorem digits_neighbours_le (h : (m : ℚ) * 2 ^ e < 10 ^ (i + k)) :
    (neighbours m e i).1.digits ≤ 10 ^ k ∧ (neighbours m e i).2.digits ≤ 10 ^ k := by
  have hbelow : m * 2 ^ e.toNat * 10 ^ (-i).toNat / (2 ^ (-e).toNat * 10 ^ i.toNat) < 10 ^ k := by
    rw [Nat.div_lt_iff_lt_mul (by positivity)]
    have hcast : (m : ℚ) * 2 ^ e.toNat * 10 ^ (-i).toNat <
        10 ^ k * (2 ^ (-e).toNat * 10 ^ i.toNat) := by
      rw [pow_toNat_eq two_ne_zero e, pow_toNat_eq (by norm_num) i]
      rw [zpow_add₀ (by norm_num), zpow_natCast] at h
      have hcommon : (0 : ℚ) < 2 ^ (-e).toNat * 10 ^ (-i).toNat := by positivity
      have := mul_lt_mul_of_pos_right h hcommon
      linarith
    exact_mod_cast hcast
  simp only [neighbours, Nat.pow_eq]
  split
  · exact ⟨hbelow.le, hbelow⟩
  · exact ⟨hbelow, hbelow.le⟩

theorem exponent_neighbours : (neighbours m e i).1.exponent = i ∧
    (neighbours m e i).2.exponent = i := by
  simp only [neighbours]
  split <;> exact ⟨rfl, rfl⟩

/-- A decimal that the search may end with. -/
structure Found (m : Nat) (e top : Int) (c : Decimal) : Prop where
  readsBack : readsBack m e c = true
  pos : 0 < c.digits
  le : c.digits ≤ 10 ^ 18
  exponent : top - 18 ≤ c.exponent

theorem searchShortest_cases (htop : (m : ℚ) * 2 ^ e < 10 ^ (top + 1)) (h : fuel + places ≤ 18) :
    searchShortest m e top fuel places = ⟨m, 0⟩ ∨
      Found m e top (searchShortest m e top fuel places) := by
  induction fuel generalizing places with
  | zero => exact .inl rfl
  | succ fuel ih =>
    have hplace : top - places + (places + 1 : Nat) = top + 1 := by omega
    obtain ⟨hnear, hfar⟩ := digits_neighbours_le (i := top - places) (k := places + 1)
      (by rw [hplace]; exact htop)
    have hdigits : 10 ^ (places + 1) ≤ 10 ^ 18 := Nat.pow_le_pow_right (by decide) (by omega)
    obtain ⟨enear, efar⟩ := exponent_neighbours (m := m) (e := e) (i := top - places)
    simp only [searchShortest]
    split
    · next hfound =>
      simp only [Bool.and_eq_true, bne_iff_ne, ne_eq] at hfound
      exact .inr ⟨hfound.1, Nat.pos_of_ne_zero hfound.2, hnear.trans hdigits, by omega⟩
    · split
      · next hfound =>
        simp only [Bool.and_eq_true, bne_iff_ne, ne_eq] at hfound
        exact .inr ⟨hfound.1, Nat.pos_of_ne_zero hfound.2, hfar.trans hdigits, by omega⟩
      · exact ih (by omega)

/-! The shortest decimal. -/

/-- A number within range. -/
structure Finite (x : Binary64) : Prop where
  mantissa_lt : x.mantissa < 2 ^ 53
  le_exponent : minExponent ≤ x.exponent
  exponent_le : x.exponent ≤ maxExponent

/-- What the shortest decimal of a number is like. -/
structure Decimal.Short (x : Binary64) (c : Decimal) : Prop where
  pos : 0 < c.digits
  le : c.digits ≤ Json.maxWord
  exponent : -1092 ≤ c.exponent
  value_le : c.value ≤ max (((x.mantissa : ℚ) + 1 / 2) * 2 ^ x.exponent) x.mantissa

theorem minExponent_le_leadingPosition (h : minExponent ≤ e) :
    minExponent ≤ leadingPosition m e := by
  have hcount (n : Nat) : 1 ≤ digitCount n := Nat.length_toDigits_pos
  unfold leadingPosition
  split
  · next he =>
    have := hcount (m * 2 ^ e.toNat)
    have hmin : minExponent ≤ 0 := by decide
    simp only [Nat.pow_eq]
    omega
  · next he =>
    have := hcount (m * 10 ^ (-e).toNat / 2 ^ (-e).toNat)
    simp only [Nat.pow_eq]
    omega

theorem Found.short (hx : x.Finite)
    (h : Found x.mantissa x.exponent (leadingPosition x.mantissa x.exponent) c) : c.Short x where
  pos := h.pos
  le := h.le.trans (by decide)
  exponent := by
    have htop := minExponent_le_leadingPosition (m := x.mantissa) hx.le_exponent
    have hmin : minExponent = -1074 := rfl
    have := h.exponent
    omega
  value_le := le_max_of_le_left (value_le_of_readsBack h.readsBack)

theorem short_mantissa (hx : x.Finite) (hpos : 0 < x.mantissa) :
    Decimal.Short x ⟨x.mantissa, 0⟩ where
  pos := hpos
  le := hx.mantissa_lt.le.trans (by decide)
  exponent := show (-1092 : Int) ≤ 0 by decide
  value_le := le_max_of_le_right (by simp [Decimal.value])

theorem Decimal.Short.trimmed (h : c.Short x) : (c.trimmed fuel).Short x where
  pos := digits_trimmed_pos h.pos
  le := digits_trimmed_le.trans h.le
  exponent := h.exponent.trans exponent_le_trimmed
  value_le := by
    rw [value_trimmed]
    exact h.value_le

theorem short_shortest (hx : x.Finite) (hpos : 0 < x.mantissa) : x.shortest.Short x := by
  have htop := lt_ten_pow_leadingPosition x.mantissa x.exponent
  rw [shortest]
  apply Decimal.Short.trimmed
  rcases searchShortest_cases htop (show 18 + 0 ≤ 18 by decide) with he | hfound
  · rw [he]
    exact short_mantissa hx hpos
  · exact hfound.short hx

/-- Unless a number is one of the three largest, there is room above its decimal for what rounding
adds. -/
theorem value_lt_limit (hx : x.Finite) (h : c.Short x)
    (hroom : x.exponent = maxExponent → x.mantissa + 4 ≤ 2 ^ 53) :
    c.value * (1 + 1 / 2 ^ 53) ^ 2 < limit := by
  have hm : (x.mantissa : ℚ) + 1 ≤ 2 ^ 53 := by exact_mod_cast hx.mantissa_lt
  have hstep : (0 : ℚ) < 2 ^ maxExponent := by positivity
  rcases le_max_iff.1 h.value_le with hle | hle
  · rw [limit]
    by_cases htop : x.exponent = maxExponent
    · have hm : (x.mantissa : ℚ) + 4 ≤ 2 ^ 53 := by exact_mod_cast hroom htop
      rw [htop] at hle
      generalize (2 : ℚ) ^ maxExponent = step at hle hstep ⊢
      have hvalue : c.value ≤ (2 ^ 53 - 7 / 2) * step :=
        hle.trans (mul_le_mul_of_nonneg_right (by linarith) hstep.le)
      have hconst : ((2 : ℚ) ^ 53 - 7 / 2) * (1 + 1 / 2 ^ 53) ^ 2 < 2 ^ 53 - 1 / 2 := by norm_num
      nlinarith
    · have hnext : x.exponent + 1 ≤ maxExponent := by
        have := hx.exponent_le
        omega
      have hpow : (2 : ℚ) ^ x.exponent * 2 ≤ 2 ^ maxExponent := by
        rw [← zpow_add_one₀ two_ne_zero]
        exact zpow_le_zpow_right₀ one_le_two hnext
      generalize (2 : ℚ) ^ maxExponent = step at hpow hstep ⊢
      have hvalue : c.value ≤ 2 ^ 53 * (step / 2) :=
        hle.trans (mul_le_mul (by linarith) (by linarith) (by positivity) (by positivity))
      have hconst : ((2 : ℚ) ^ 53 / 2) * (1 + 1 / 2 ^ 53) ^ 2 < 2 ^ 53 - 1 / 2 := by norm_num
      nlinarith
  · refine lt_trans ?_ two_pow_lt_limit
    have hvalue : c.value ≤ 2 ^ 53 := by linarith
    refine lt_of_le_of_lt (mul_le_mul_of_nonneg_right hvalue (by positivity)) ?_
    norm_num

/-- The decimals of the three largest numbers are within range as well. -/
theorem exists_float_of_large (negative : Bool) (h : k < 3)
    (hx : x = ⟨x.negative, 2 ^ 53 - 1 - k, maxExponent⟩) :
    ∃ y, ∀ rest, Json.float negative x.shortest.digits x.shortest.exponent rest =
      .ok (.float y, rest) := by
  have hdecimal : ∀ negative, ∀ k < 3, shortest ⟨negative, 2 ^ 53 - 1 - k, maxExponent⟩ =
      ⟨17976931348623157 - 2 * k, 292⟩ := by decide +kernel
  have hproduct : ∀ k < 3,
      ((ofNat (17976931348623157 - 2 * k)).bind fun y => y.mul (pow10 292)).isSome := by
    decide +kernel
  have hscale (y : Binary64) : Json.scale y 292 = y.mul (pow10 292) := by
    rw [Json.scale, if_pos (by decide), if_pos (by decide)]
    rfl
  obtain ⟨z, hz⟩ := Option.isSome_iff_exists.1 (hproduct k h)
  rw [hx, hdecimal _ k h]
  refine ⟨if negative then z.negate else z, fun rest => ?_⟩
  simp only [Json.float, hscale, hz]

/-- The decimal of a number is never out of range where it is read. -/
theorem exists_float_shortest (negative : Bool) (hx : x.Finite) (hpos : 0 < x.mantissa) :
    ∃ y, ∀ rest, Json.float negative x.shortest.digits x.shortest.exponent rest =
      .ok (.float y, rest) := by
  have hshort := short_shortest hx hpos
  by_cases he : x.shortest.exponent ≤ 0
  · exact Json.exists_float_of_nonpos negative hshort.le he
  by_cases hroom : x.exponent = maxExponent → x.mantissa + 4 ≤ 2 ^ 53
  · exact Json.exists_float_of_pos negative hshort.le hshort.pos (by omega)
      (value_lt_limit hx hshort hroom)
  · obtain ⟨htop, hm⟩ := Classical.not_imp.1 hroom
    have hlt := hx.mantissa_lt
    have hmantissa : x.mantissa = 2 ^ 53 - 1 - (2 ^ 53 - 1 - x.mantissa) := by omega
    refine exists_float_of_large (k := 2 ^ 53 - 1 - x.mantissa) negative (by omega) ?_
    rw [← hmantissa, ← htop]

end FeatureAudit.Binary64
