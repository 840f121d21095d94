import FeatureAudit.Json.Lexeme
import Mathlib.Algebra.Order.Field.Power
import Mathlib.Algebra.Order.Field.Rat
import Mathlib.Data.Nat.Cast.Order.Field
import Mathlib.Tactic.FieldSimp
import Mathlib.Tactic.GCongr
import Mathlib.Tactic.Linarith
import Mathlib.Tactic.NormNum
import Mathlib.Tactic.Positivity
import Mathlib.Tactic.Ring

/-! How far rounded quotients are from the exact ones, and that no result is out of range unless the
exact one is as good as out of range. -/
namespace FeatureAudit

variable {n d k : Nat} {e : Int} {negative : Bool} {x y : Binary64}

namespace Binary64

def magnitude (x : Binary64) : ℚ := x.mantissa * 2 ^ x.exponent

/-- Half a step beyond the largest number. Quotients below this are within range. -/
def limit : ℚ := (2 ^ 53 - 1 / 2) * 2 ^ maxExponent

theorem magnitude_nonneg : 0 ≤ x.magnitude := by
  unfold magnitude
  positivity

/-! Rounding. -/

theorem two_pow_toNat (h : 0 ≤ e) : (2 : ℚ) ^ e.toNat = 2 ^ e := by
  rw [← zpow_natCast, Int.toNat_of_nonneg h]

theorem abs_nearest_sub_le (hd : 0 < d) : |(nearest n d : ℚ) - n / d| ≤ 1 / 2 := by
  have hbounds : 2 * n ≤ 2 * (nearest n d * d) + d ∧ 2 * (nearest n d * d) ≤ 2 * n + d := by
    have hn : n / d * d + n % d = n := by rw [Nat.mul_comm]; exact Nat.div_add_mod n d
    have hr : n % d < d := Nat.mod_lt n hd
    simp only [nearest]
    split
    · rw [Nat.add_mul]
      omega
    · omega
  have hlow : (2 : ℚ) * n ≤ 2 * (nearest n d * d) + d := by exact_mod_cast hbounds.1
  have hhigh : (2 : ℚ) * (nearest n d * d) ≤ 2 * n + d := by exact_mod_cast hbounds.2
  have hd' : (0 : ℚ) < d := by exact_mod_cast hd
  have hn : (n : ℚ) / d * d = n := div_mul_cancel₀ _ hd'.ne'
  rw [abs_le]
  constructor
  · refine le_of_mul_le_mul_right ?_ hd'
    rw [sub_mul, hn]
    linarith
  · refine le_of_mul_le_mul_right ?_ hd'
    rw [sub_mul, hn]
    linarith

theorem ratio_scaled : ((scaled n d e).1 : ℚ) / (scaled n d e).2 = n / d / 2 ^ e := by
  unfold scaled
  split
  · next he =>
    push_cast [Nat.pow_eq]
    rw [two_pow_toNat he, div_div]
  · next he =>
    push_cast [Nat.pow_eq]
    rw [two_pow_toNat (by omega), zpow_neg]
    field_simp

theorem scaled_pos (hd : 0 < d) : 0 < (scaled n d e).2 := by
  unfold scaled
  split
  · exact Nat.mul_pos hd (Nat.pow_pos (by decide))
  · exact hd

/-- A quotient has 53 bits before the point, unless its exponent is the smallest. -/
theorem le_ratio_of_exponentOf (hn : 0 < n) (hd : 0 < d) (h : minExponent < exponentOf n d) :
    (2 : ℚ) ^ 52 ≤ n / d / 2 ^ exponentOf n d := by
  let e : Int := (n.log2 : Int) - d.log2 - 52
  have hpos (i : Int) : (0 : ℚ) < 2 ^ i := by positivity
  have hexponent : exponentOf n d =
      if (scaled n d e).1 / (scaled n d e).2 < Nat.pow 2 52 then e - 1 else e := by
    simp only [exponentOf] at h ⊢
    exact max_eq_right (by omega)
  rw [hexponent]
  split
  · -- the numerator has at least so many bits more than the denominator
    have hlow : (2 : ℚ) ^ n.log2 ≤ n := by exact_mod_cast Nat.log2_self_le hn.ne'
    have hhigh : (d : ℚ) ≤ 2 ^ (d.log2 + 1) := by exact_mod_cast Nat.lt_log2_self.le
    have hd' : (0 : ℚ) < d := by exact_mod_cast hd
    rw [le_div_iff₀ (hpos _), le_div_iff₀ hd']
    calc (2 : ℚ) ^ 52 * 2 ^ (e - 1) * d ≤ 2 ^ 52 * 2 ^ (e - 1) * 2 ^ (d.log2 + 1) := by gcongr
      _ = 2 ^ n.log2 := by
        rw [← zpow_natCast 2 52, ← zpow_natCast 2 (d.log2 + 1), ← zpow_natCast 2 n.log2,
          ← zpow_add₀ two_ne_zero, ← zpow_add₀ two_ne_zero]
        congr 1
        simp only [e]
        omega
      _ ≤ n := hlow
  · next hq =>
    have hfloor : ((Nat.pow 2 52 : Nat) : ℚ) ≤ (scaled n d e).1 / (scaled n d e).2 :=
      le_trans (by exact_mod_cast Nat.le_of_not_lt hq) Nat.cast_div_le
    rw [ratio_scaled] at hfloor
    exact_mod_cast hfloor

theorem minExponent_le_exponentOf (n d : Nat) : minExponent ≤ exponentOf n d := le_max_left _ _

/-- No quotient has more than 53 bits before the point. -/
theorem ratio_lt_of_exponentOf (hd : 0 < d) : (n : ℚ) / d / 2 ^ exponentOf n d < 2 ^ 53 := by
  let e : Int := (n.log2 : Int) - d.log2 - 52
  obtain ⟨i, hi, hratio⟩ : ∃ i ≤ exponentOf n d, (n : ℚ) / d < 2 ^ (i + 53) := by
    have hexponent : (if (scaled n d e).1 / (scaled n d e).2 < Nat.pow 2 52 then e - 1 else e) ≤
        exponentOf n d := le_max_right _ _
    split at hexponent
    · next hq =>
      refine ⟨e - 1, hexponent, ?_⟩
      rw [Nat.div_lt_iff_lt_mul (scaled_pos hd)] at hq
      have hden : (0 : ℚ) < (scaled n d e).2 := by exact_mod_cast scaled_pos hd
      have hscaled : ((scaled n d e).1 : ℚ) / (scaled n d e).2 < 2 ^ 52 := by
        rw [div_lt_iff₀ hden]
        exact_mod_cast hq
      have hplaces : e - 1 + 53 = (52 : Nat) + e := by omega
      rw [ratio_scaled, div_lt_iff₀ (by positivity), ← zpow_natCast 2 52,
        ← zpow_add₀ two_ne_zero] at hscaled
      rwa [hplaces]
    · -- the numerator has at most so many bits more than the denominator
      refine ⟨e, hexponent, ?_⟩
      have hhigh : (n : ℚ) < 2 ^ (n.log2 + 1) := by exact_mod_cast Nat.lt_log2_self
      have hlow : (2 : ℚ) ^ d.log2 ≤ d := by exact_mod_cast Nat.log2_self_le hd.ne'
      have hd' : (0 : ℚ) < d := by exact_mod_cast hd
      rw [div_lt_iff₀ hd']
      calc (n : ℚ) < 2 ^ (n.log2 + 1) := hhigh
        _ = 2 ^ (e + 53) * 2 ^ d.log2 := by
          rw [← zpow_natCast 2 (n.log2 + 1), ← zpow_natCast 2 d.log2, ← zpow_add₀ two_ne_zero]
          congr 1
          simp only [e]
          omega
        _ ≤ 2 ^ (e + 53) * d := by gcongr
  rw [div_lt_iff₀ (by positivity)]
  calc (n : ℚ) / d < 2 ^ (i + 53) := hratio
    _ = 2 ^ 53 * 2 ^ i := by
      rw [zpow_add₀ two_ne_zero, mul_comm, ← zpow_natCast 2 53]
      norm_cast
    _ ≤ 2 ^ 53 * 2 ^ exponentOf n d := by
      have := zpow_le_zpow_right₀ (one_le_two (α := ℚ)) hi
      gcongr

/-- The integer that a quotient is rounded to, before it is brought to 53 bits again. -/
def steps (n d : Nat) : Nat :=
  nearest (scaled n d (exponentOf n d)).1 (scaled n d (exponentOf n d)).2

theorem round_of_ne_zero (hn : n ≠ 0) : round negative n d =
    if steps n d = 2 ^ 53 then
      if maxExponent < exponentOf n d + 1 then none
      else some ⟨negative, 2 ^ 52, exponentOf n d + 1⟩
    else if maxExponent < exponentOf n d then none
    else some ⟨negative, steps n d, exponentOf n d⟩ := by
  by_cases hs : steps n d = 2 ^ 53
  · have hm : nearest (scaled n d (exponentOf n d)).1 (scaled n d (exponentOf n d)).2 = 2 ^ 53 := hs
    rw [round, if_neg hn, if_pos hs]
    simp only [hm, Nat.pow_eq, if_true]
  · have hm : nearest (scaled n d (exponentOf n d)).1 (scaled n d (exponentOf n d)).2 ≠ 2 ^ 53 := hs
    rw [round, if_neg hn, if_neg hs]
    simp only [Nat.pow_eq, if_neg hm]
    rfl

theorem abs_steps_sub_le (hd : 0 < d) :
    |(steps n d : ℚ) - n / d / 2 ^ exponentOf n d| ≤ 1 / 2 := by
  have h := abs_nearest_sub_le (n := (scaled n d (exponentOf n d)).1)
    (scaled_pos (n := n) (e := exponentOf n d) hd)
  rwa [ratio_scaled] at h

theorem steps_le (hd : 0 < d) : steps n d ≤ 2 ^ 53 := by
  have hsteps := (abs_le.1 (abs_steps_sub_le (n := n) hd)).2
  have hratio : (n : ℚ) / d / 2 ^ exponentOf n d < 2 ^ 53 := ratio_lt_of_exponentOf hd
  have hlt : (steps n d : ℚ) < 2 ^ 53 + 1 := by linarith
  exact Nat.lt_succ_iff.1 (by exact_mod_cast hlt)

/-- A rounded quotient is at most half a step away. -/
theorem abs_magnitude_sub_le_of_round (hd : 0 < d) (h : round negative n d = some y) :
    |y.magnitude - n / d| ≤ 2 ^ exponentOf n d / 2 := by
  have hpos : (0 : ℚ) < 2 ^ exponentOf n d := by positivity
  by_cases hn : n = 0
  · subst hn
    cases h
    have hzero : (zero negative).magnitude - ((0 : Nat) : ℚ) / d = 0 := by simp [magnitude, zero]
    rw [hzero, abs_zero]
    positivity
  have hy : y.magnitude = steps n d * 2 ^ exponentOf n d := by
    rw [round_of_ne_zero hn] at h
    split at h
    · next hs =>
      split at h
      · cases h
      · cases h
        have htwice : (2 : ℚ) ^ (exponentOf n d + 1) = 2 ^ exponentOf n d * 2 :=
          zpow_add_one₀ two_ne_zero _
        simp only [magnitude, hs, htwice]
        push_cast
        ring
    · split at h
      · cases h
      · cases h
        rfl
  have hsub : y.magnitude - n / d =
      (steps n d - n / d / 2 ^ exponentOf n d) * 2 ^ exponentOf n d := by
    rw [hy, sub_mul, div_mul_cancel₀ _ hpos.ne']
  rw [hsub, abs_mul, abs_of_pos hpos]
  have hsteps := abs_steps_sub_le (n := n) hd
  nlinarith

theorem exists_round (negative : Bool) (hd : 0 < d) (h : (n : ℚ) / d < limit) :
    ∃ y, round negative n d = some y := by
  by_cases hn : n = 0
  · exact ⟨zero negative, by simp [round, hn]⟩
  rw [round_of_ne_zero hn]
  have hmore {b : ℚ} {i : Int} (hb : b ≤ n / d / 2 ^ exponentOf n d) (hi : i ≤ exponentOf n d)
      (h0 : 0 ≤ b) : b * 2 ^ i ≤ n / d := by
    have hpow : (2 : ℚ) ^ i ≤ 2 ^ exponentOf n d := zpow_le_zpow_right₀ one_le_two hi
    rw [le_div_iff₀ (by positivity)] at hb
    exact (mul_le_mul_of_nonneg_left hpow h0).trans hb
  split
  · next hs =>
    refine ⟨_, if_neg fun hgt => ?_⟩
    have hsteps := (abs_le.1 (abs_steps_sub_le (n := n) hd)).2
    rw [hs] at hsteps
    push_cast at hsteps
    have hratio : (2 : ℚ) ^ 53 - 1 / 2 ≤ n / d / 2 ^ exponentOf n d := by linarith
    exact (hmore hratio (Int.lt_add_one_iff.1 hgt) (by norm_num)).not_gt h
  · refine ⟨_, if_neg fun hgt => ?_⟩
    have hratio := le_ratio_of_exponentOf (Nat.pos_of_ne_zero hn) hd (lt_trans (by decide) hgt)
    have hlarge := hmore hratio (Int.add_one_le_of_lt hgt) (by norm_num)
    refine (lt_of_lt_of_le ?_ hlarge).not_gt h
    rw [limit, zpow_add_one₀ two_ne_zero]
    have hpos : (0 : ℚ) < 2 ^ maxExponent := by positivity
    nlinarith

theorem two_pow_exponentOf_le (hn : 0 < n) (hd : 0 < d) :
    (2 : ℚ) ^ exponentOf n d ≤ max ((n : ℚ) / d / 2 ^ 52) (2 ^ minExponent) := by
  by_cases h : minExponent < exponentOf n d
  · have hratio := le_ratio_of_exponentOf hn hd h
    have hpos : (0 : ℚ) < 2 ^ exponentOf n d := by positivity
    rw [le_div_iff₀ hpos] at hratio
    refine le_max_of_le_left ?_
    rw [le_div_iff₀ (by positivity)]
    linarith
  · exact le_max_of_le_right (zpow_le_zpow_right₀ one_le_two (Int.not_lt.1 h))

/-- Small quotients are rounded by a small amount, and large ones by a small part. -/
theorem magnitude_le_of_round (hd : 0 < d) (h : round negative n d = some y) :
    y.magnitude ≤ 2 * ((n : ℚ) / d) + 1 := by
  have hratio : (0 : ℚ) ≤ n / d := by positivity
  rcases Nat.eq_zero_or_pos n with rfl | hn
  · cases h
    simp [magnitude, zero]
  · have hclose := (abs_le.1 (abs_magnitude_sub_le_of_round hd h)).2
    have htiny : (2 : ℚ) ^ minExponent ≤ 1 := zpow_le_one_of_nonpos₀ one_le_two (by decide)
    rcases le_max_iff.1 (two_pow_exponentOf_le hn hd) with hle | hle <;> linarith

theorem abs_magnitude_sub_le_of_one_le (hd : 0 < d) (h : round negative n d = some y)
    (hone : (1 : ℚ) ≤ n / d) : |y.magnitude - n / d| ≤ n / d / 2 ^ 53 := by
  have hn : 0 < n := Nat.pos_of_ne_zero fun hn => by simp [hn] at hone; linarith
  have hclose := abs_magnitude_sub_le_of_round hd h
  have htiny : (2 : ℚ) ^ minExponent ≤ 1 / 2 ^ 52 := by
    rw [one_div, ← zpow_natCast, ← zpow_neg]
    exact zpow_le_zpow_right₀ one_le_two (by decide)
  rcases le_max_iff.1 (two_pow_exponentOf_le hn hd) with hle | hle <;> linarith

/-! Products and quotients. -/

theorem ratio_quotient (m : Nat) (e : Int) :
    ((quotient m e).1 : ℚ) / (quotient m e).2 = m * 2 ^ e := by
  unfold quotient
  split
  · next he =>
    push_cast [Nat.pow_eq]
    rw [two_pow_toNat he, div_one]
  · next he =>
    push_cast [Nat.pow_eq]
    rw [two_pow_toNat (by omega), zpow_neg, div_inv_eq_mul]

theorem quotient_pos (m : Nat) (e : Int) : 0 < (quotient m e).2 := by
  unfold quotient
  split
  · exact Nat.one_pos
  · exact Nat.pow_pos (by decide)

theorem mul_eq : x.mul y =
    round (x.negative != y.negative) (quotient (x.mantissa * y.mantissa) (x.exponent + y.exponent)).1
      (quotient (x.mantissa * y.mantissa) (x.exponent + y.exponent)).2 := rfl

theorem div_eq : x.div y =
    round (x.negative != y.negative) (quotient x.mantissa (x.exponent - y.exponent)).1
      ((quotient x.mantissa (x.exponent - y.exponent)).2 * y.mantissa) := rfl

theorem exists_mul (h : x.magnitude * y.magnitude < limit) : ∃ z, x.mul y = some z := by
  rw [mul_eq]
  refine exists_round _ (quotient_pos _ _) (lt_of_eq_of_lt ?_ h)
  rw [ratio_quotient, zpow_add₀ two_ne_zero]
  simp only [magnitude]
  push_cast
  ring

/-- A quotient is no larger than the exact one, apart from what rounding adds. -/
theorem exists_div (hy : 0 < y.mantissa) (h : x.magnitude / y.magnitude < limit) :
    ∃ z, x.div y = some z ∧ z.magnitude ≤ 2 * (x.magnitude / y.magnitude) + 1 := by
  have hd : 0 < (quotient x.mantissa (x.exponent - y.exponent)).2 * y.mantissa :=
    Nat.mul_pos (quotient_pos _ _) hy
  have hexact : ((quotient x.mantissa (x.exponent - y.exponent)).1 : ℚ) /
      ((quotient x.mantissa (x.exponent - y.exponent)).2 * y.mantissa : Nat) =
        x.magnitude / y.magnitude := by
    rw [Nat.cast_mul, ← div_div, ratio_quotient, zpow_sub₀ two_ne_zero]
    simp only [magnitude]
    field_simp
  rw [div_eq]
  obtain ⟨z, hz⟩ := exists_round (x.negative != y.negative) hd (hexact ▸ h)
  exact ⟨z, hz, hexact ▸ magnitude_le_of_round hd hz⟩

/-! Whole numbers. -/

theorem exists_ofNat (h : (n : ℚ) < limit) :
    ∃ y, ofNat n = some y ∧ |y.magnitude - n| ≤ n / 2 ^ 53 := by
  obtain ⟨y, hy⟩ := exists_round (n := n) false Nat.one_pos (by simpa using h)
  refine ⟨y, hy, ?_⟩
  rcases Nat.eq_zero_or_pos n with rfl | hn
  · cases hy
    simp [magnitude, zero]
  · have hone : (1 : ℚ) ≤ n := by exact_mod_cast hn
    simpa using abs_magnitude_sub_le_of_one_le Nat.one_pos hy (by simpa using hone)

theorem limit_eq : limit = (2 ^ 53 - 1 / 2) * 2 ^ 971 := by
  rw [limit, ← zpow_natCast]
  rfl

theorem ten_pow_lt_limit (hk : k ≤ 308) : (10 : ℚ) ^ k < limit := by
  refine lt_of_le_of_lt (pow_le_pow_right₀ (by norm_num) hk) ?_
  have hnat : 2 * 10 ^ 308 + 2 ^ 971 < 2 ^ 54 * 2 ^ 971 := by decide +kernel
  have hcast : (2 : ℚ) * 10 ^ 308 + 2 ^ 971 < 2 ^ 54 * 2 ^ 971 := by exact_mod_cast hnat
  rw [limit_eq]
  generalize (2 : ℚ) ^ 971 = p, (10 : ℚ) ^ 308 = t at hcast ⊢
  linarith

theorem limit_lt_ten_pow : limit < 10 ^ 309 := by
  have hnat : 2 ^ 54 * 2 ^ 971 < 2 * 10 ^ 309 := by decide +kernel
  have hcast : (2 : ℚ) ^ 54 * 2 ^ 971 < 2 * 10 ^ 309 := by exact_mod_cast hnat
  have hpos : (0 : ℚ) < 2 ^ 971 := by positivity
  rw [limit_eq]
  generalize (2 : ℚ) ^ 971 = p, (10 : ℚ) ^ 309 = t at hcast hpos ⊢
  linarith

theorem limit_lt_of_large (he : 308 < e) : limit < 10 ^ e := by
  refine limit_lt_ten_pow.trans_le ?_
  rw [← zpow_natCast]
  exact zpow_le_zpow_right₀ (by norm_num) (by omega)

theorem two_pow_lt_limit : (2 : ℚ) ^ 66 < limit :=
  lt_of_le_of_lt (by norm_num) (ten_pow_lt_limit (k := 20) (by decide))

theorem abs_magnitude_pow10_sub_le (hk : k ≤ 308) :
    |(pow10 k).magnitude - 10 ^ k| ≤ 10 ^ k / 2 ^ 53 := by
  obtain ⟨y, hy, hclose⟩ := exists_ofNat (n := 10 ^ k) (by exact_mod_cast ten_pow_lt_limit hk)
  have hpow : pow10 k = y := by rw [pow10, Nat.pow_eq, hy, Option.getD_some]
  rw [hpow]
  exact_mod_cast hclose

theorem half_le_magnitude_pow10 (hk : k ≤ 308) : 10 ^ k / 2 ≤ (pow10 k).magnitude := by
  have hclose := (abs_le.1 (abs_magnitude_pow10_sub_le hk)).1
  have hpos : (0 : ℚ) < 10 ^ k := by positivity
  linarith

theorem mantissa_pow10_pos (hk : k ≤ 308) : 0 < (pow10 k).mantissa := by
  refine Nat.pos_of_ne_zero fun hzero => ?_
  have hhalf := half_le_magnitude_pow10 hk
  have hpos : (0 : ℚ) < 10 ^ k := by positivity
  simp only [magnitude, hzero, Nat.cast_zero, zero_mul] at hhalf
  linarith

/-- A number that a word may be rounded to stays small when it is divided by a power of ten. -/
theorem exists_div_pow10 (hk : k ≤ 308) (hx : x.magnitude ≤ 2 ^ 65) :
    ∃ z, x.div (pow10 k) = some z ∧ (1 ≤ k → z.magnitude ≤ 2 ^ 65) := by
  have hpow := half_le_magnitude_pow10 hk
  have hone : (1 : ℚ) ≤ 10 ^ k := one_le_pow₀ (by norm_num)
  have hratio : x.magnitude / (pow10 k).magnitude ≤ 2 ^ 66 := by
    rw [div_le_iff₀ (by linarith)]
    linarith
  obtain ⟨z, hz, hle⟩ := exists_div (mantissa_pow10_pos hk)
    (lt_of_le_of_lt hratio two_pow_lt_limit)
  refine ⟨z, hz, fun h1 => hle.trans ?_⟩
  have hten : (10 : ℚ) ≤ 10 ^ k := by
    simpa using pow_le_pow_right₀ (by norm_num : (1 : ℚ) ≤ 10) h1
  have hfifth : x.magnitude / (pow10 k).magnitude ≤ 2 ^ 65 / 5 := by
    rw [div_le_iff₀ (by linarith)]
    linarith
  linarith

end Binary64

namespace Json

open Binary64

/-- Without a positive exponent nothing is out of range. -/
theorem exists_scale_of_nonpos (hx : x.magnitude ≤ 2 ^ 65) (he : e ≤ 0) :
    ∃ y, scale x e = some y := by
  fun_induction scale x e with
  | case1 x e hsmall hnonneg =>
    obtain rfl : e = 0 := le_antisymm he hnonneg
    have hone := (abs_le.1 (abs_magnitude_pow10_sub_le (k := 0) (by decide))).2
    have htwo : (pow10 0).magnitude ≤ 2 := by norm_num at hone ⊢; linarith
    refine exists_mul (lt_of_le_of_lt ?_ two_pow_lt_limit)
    calc x.magnitude * (pow10 0).magnitude ≤ 2 ^ 65 * 2 :=
          mul_le_mul hx htwo magnitude_nonneg (by norm_num)
      _ = 2 ^ 66 := by norm_num
  | case2 x e hsmall hneg =>
    obtain ⟨y, hy, -⟩ := exists_div_pow10 hsmall hx
    exact ⟨y, hy⟩
  | case3 x e hlarge hzero => exact ⟨x, rfl⟩
  | case4 x e hlarge hzero hpos => omega
  | case5 x e hlarge hzero hpos hnone =>
    obtain ⟨y, hy, -⟩ := exists_div_pow10 (k := 308) (by decide) hx
    cases hy.symm.trans hnone
  | case6 x e hlarge hzero hpos y hsome ih =>
    obtain ⟨z, hz, hle⟩ := exists_div_pow10 (k := 308) (by decide) hx
    cases hz.symm.trans hsome
    exact ih (hle (by decide)) (by omega)

theorem exists_scale_of_pos (he : 0 < e) (hk : e ≤ 308)
    (h : x.magnitude * (10 ^ e * (1 + 1 / 2 ^ 53)) < limit) : ∃ y, scale x e = some y := by
  have hpow := (abs_le.1 (abs_magnitude_pow10_sub_le (k := e.toNat) (by omega))).2
  rw [← zpow_natCast, Int.toNat_of_nonneg he.le] at hpow
  rw [scale, if_pos (by omega), if_pos he.le]
  refine exists_mul (lt_of_le_of_lt ?_ h)
  refine mul_le_mul_of_nonneg_left ?_ magnitude_nonneg
  rw [mul_add, mul_one_div, mul_one]
  linarith

/-! Decimals. -/

theorem cast_lt_limit (hn : n ≤ maxWord) : (n : ℚ) < limit := by
  have hnat : n ≤ 2 ^ 66 := hn.trans (by decide)
  exact lt_of_le_of_lt (by exact_mod_cast hnat) two_pow_lt_limit

theorem exists_float_of_nonpos (negative : Bool) (hn : n ≤ maxWord) (he : e ≤ 0) :
    ∃ y, ∀ rest, float negative n e rest = .ok (.float y, rest) := by
  obtain ⟨x, hx, hclose⟩ := exists_ofNat (cast_lt_limit hn)
  have hword : (n : ℚ) ≤ 2 ^ 64 := by exact_mod_cast hn.trans (by decide)
  have hsmall : x.magnitude ≤ 2 ^ 65 := by
    have := (abs_le.1 hclose).2
    linarith
  obtain ⟨y, hy⟩ := exists_scale_of_nonpos hsmall he
  exact ⟨_, fun rest => by rw [float, hx, Option.bind_some, hy]⟩

/-- With a positive exponent a decimal is within range if that holds of it when both its digits and
the power of ten are rounded upwards. -/
theorem exists_float_of_pos (negative : Bool) (hn : n ≤ maxWord) (hpos : 0 < n) (he : 0 < e)
    (h : n * 10 ^ e * (1 + 1 / 2 ^ 53) ^ 2 < limit) :
    ∃ y, ∀ rest, float negative n e rest = .ok (.float y, rest) := by
  obtain ⟨x, hx, hclose⟩ := exists_ofNat (cast_lt_limit hn)
  have hten : (0 : ℚ) < 10 ^ e := by positivity
  have hone : (1 : ℚ) ≤ n := by exact_mod_cast hpos
  have hk : e ≤ 308 := by
    by_contra hlarge
    have hle : (10 : ℚ) ^ e ≤ n * 10 ^ e * (1 + 1 / 2 ^ 53) ^ 2 := by
      rw [mul_comm (n : ℚ), mul_assoc]
      exact le_mul_of_one_le_right hten.le (one_le_mul_of_one_le_of_one_le hone (by norm_num))
    exact (hle.trans_lt h).not_gt (limit_lt_of_large (Int.not_le.1 hlarge))
  have hmagnitude : x.magnitude ≤ n * (1 + 1 / 2 ^ 53) := by
    have := (abs_le.1 hclose).2
    linarith
  have hproduct : x.magnitude * (10 ^ e * (1 + 1 / 2 ^ 53)) < limit := by
    refine lt_of_le_of_lt (mul_le_mul_of_nonneg_right hmagnitude (by positivity)) ?_
    refine lt_of_eq_of_lt ?_ h
    ring
  obtain ⟨y, hy⟩ := exists_scale_of_pos he hk hproduct
  exact ⟨_, fun rest => by rw [float, hx, Option.bind_some, hy]⟩

end Json
end FeatureAudit
