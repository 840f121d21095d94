import FeatureAudit.Proofs.Nesting
import FeatureAudit.Proofs.Numerals

/-! Numbers that are read are within range, and so are those of a catalog that is read. -/
namespace FeatureAudit

variable {n d : Nat} {e : Int} {negative : Bool} {s t : List Char}

namespace Binary64

variable {x y z : Binary64}

theorem finite_zero (negative : Bool) : (zero negative).Finite :=
  ⟨show 0 < 2 ^ 53 by decide, Int.le_refl _, show minExponent ≤ maxExponent by decide⟩

theorem finite_of_round (hd : 0 < d) (h : round negative n d = some y) : y.Finite := by
  by_cases hn : n = 0
  · subst hn
    cases h
    exact finite_zero negative
  have hsteps : steps n d ≤ 2 ^ 53 := steps_le hd
  have hlow := minExponent_le_exponentOf n d
  rw [round_of_ne_zero hn] at h
  split at h
  · split at h
    · cases h
    · next hhigh =>
      cases h
      exact ⟨show 2 ^ 52 < 2 ^ 53 by decide, hlow.trans (Int.le_of_lt (Int.lt_succ _)),
        Int.not_lt.1 hhigh⟩
  · next hne =>
    split at h
    · cases h
    · next hhigh =>
      cases h
      exact ⟨Nat.lt_of_le_of_ne hsteps hne, hlow, Int.not_lt.1 hhigh⟩

theorem finite_of_ofNat (h : ofNat n = some y) : y.Finite := finite_of_round Nat.one_pos h

theorem finite_of_mul (h : x.mul y = some z) : z.Finite := by
  rw [mul_eq] at h
  exact finite_of_round (quotient_pos _ _) h

theorem finite_of_div (hy : 0 < y.mantissa) (h : x.div y = some z) : z.Finite := by
  rw [div_eq] at h
  exact finite_of_round (Nat.mul_pos (quotient_pos _ _) hy) h

theorem Finite.negate (h : x.Finite) : x.negate.Finite :=
  ⟨h.mantissa_lt, h.le_exponent, h.exponent_le⟩

end Binary64

namespace Json

variable {x y : Binary64} {v : Number}

theorem finite_of_scale (hx : x.Finite) (h : scale x e = some y) : y.Finite := by
  fun_induction scale x e with
  | case1 x e hsmall hnonneg => exact Binary64.finite_of_mul h
  | case2 x e hsmall hneg =>
    exact Binary64.finite_of_div (Binary64.mantissa_pow10_pos hsmall) h
  | case3 x e hlarge hzero =>
    cases h
    exact hx
  | case4 x e hlarge hzero hpos => cases h
  | case5 x e hlarge hzero hpos hnone => cases h
  | case6 x e hlarge hzero hpos z hsome ih =>
    exact ih (Binary64.finite_of_div (Binary64.mantissa_pow10_pos (by decide)) hsome) h

theorem inRange_of_float (h : float negative n e s = .ok (v, t)) : v.InRange := by
  unfold float at h
  split at h
  · cases h
  · next x hx =>
    obtain ⟨y, hy, hscale⟩ := Option.bind_eq_some_iff.1 hx
    have hfinite : x.Finite := finite_of_scale (Binary64.finite_of_ofNat hy) hscale
    cases h
    cases negative with
    | false => exact hfinite
    | true => exact hfinite.negate

theorem inRange_of_exponentPart (h : exponentPart negative n e s = .ok (v, t)) : v.InRange := by
  unfold exponentPart at h
  dsimp only at h
  split at h
  · cases h
  split at h
  · cases h
  split at h
  · exact inRange_of_float h
  · rcases ite_eq_iff.1 h with ⟨-, h⟩ | ⟨-, h⟩
    · cases h
    · cases h
      exact Binary64.finite_zero negative

theorem gather_le {cs : List Char} (hn : n ≤ maxWord) : (gather n cs).1 ≤ maxWord := by
  fun_induction gather n cs with
  | case1 => exact hn
  | case2 => exact hn
  | case3 n d ds m hle ih => exact ih (Nat.not_lt.1 hle)

theorem inRange_of_ending {left : List Char} (hn : n ≤ maxWord)
    (h : numberTail.ending negative n left s = .ok (v, t)) : v.InRange := by
  unfold numberTail.ending at h
  split at h
  · exact inRange_of_float h
  split at h
  · cases h
    exact ⟨by omega, by exact_mod_cast hn⟩
  split at h
  · exact inRange_of_float h
  · next hsmall =>
    cases h
    have hfits : n ≤ Nat.pow 2 63 := by omega
    have hword : Nat.pow 2 63 ≤ maxWord := by decide
    constructor <;> omega

theorem inRange_of_numberTail {whole : List Char}
    (h : numberTail negative whole s = .ok (v, t)) : v.InRange := by
  have hwhole : (gather 0 whole).1 ≤ maxWord := gather_le (by decide)
  unfold numberTail at h
  dsimp only at h
  split at h
  · split at h
    · split at h
      · cases h
      · cases h
    · split at h
      · split at h
        · exact inRange_of_exponentPart h
        · exact inRange_of_float h
      · exact inRange_of_float h
  · split at h
    · exact inRange_of_exponentPart h
    · exact inRange_of_ending hwhole h
  · exact inRange_of_ending hwhole h

theorem inRange_of_readNumber (h : readNumber negative s = .ok (v, t)) : v.InRange := by
  unfold readNumber at h
  split at h
  · cases h
  · split at h
    · split at h
      · cases h
      · exact inRange_of_numberTail h
    · exact inRange_of_numberTail h
  · split at h
    · exact inRange_of_numberTail h
    · cases h

theorem inRange_of_readValue {depth : Nat} {j : Json}
    (h : readValue ofWritten depth s = .ok (j, t)) : ∀ n ∈ j.numbers, n.InRange := by
  induction depth using Nat.strongRecOn generalizing s j t with
  | ind depth ih =>
    rcases readValue_cases h with ⟨-, hread⟩ | ⟨d, rfl, ⟨xs, rfl, hxs⟩ | ⟨ms, rfl, hms⟩⟩
    · intro n hn
      obtain ⟨negative, s, t, hn⟩ := hread n hn
      exact inRange_of_readNumber hn
    · intro n hn
      rw [numbers_list] at hn
      obtain ⟨x, hx, hn⟩ := List.mem_flatMap.1 hn
      obtain ⟨s, t, hread⟩ := hxs x hx
      exact ih d (Nat.lt_succ_self d) hread n hn
    · intro n hn
      rw [numbers_object] at hn
      obtain ⟨m, hm, hn⟩ := List.mem_flatMap.1 hn
      obtain ⟨s, t, hread⟩ := hms m (mem_of_mem_ofWritten hm)
      exact ih d (Nat.lt_succ_self d) hread n hn

theorem ensured_inRange : Ensured fun _ j => ∀ n ∈ j.numbers, n.InRange where
  read := inRange_of_readValue
  member h m hm n hn := by
    refine h n ?_
    rw [numbers_object]
    exact List.mem_flatMap.2 ⟨m, hm, hn⟩
  succ := id
  empty := by simp [numbers_object]

end Json
end FeatureAudit
