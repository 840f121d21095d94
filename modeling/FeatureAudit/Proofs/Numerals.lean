import FeatureAudit.Proofs.Lexemes
import FeatureAudit.Proofs.Decimals

/-! The texts of floating-point numbers: whatever number within range is written, a number is
read. -/
namespace FeatureAudit

variable {cs whole fraction power s rest : List Char} {n : Nat} {e start : Int}
  {negative : Bool} {c : Binary64.Decimal} {x : Binary64}

namespace Json

/-! Fractions. -/

theorem gather_fraction (hn : Nat.ofDigitChars 10 (whole ++ fraction) 0 = n) (hle : n ≤ maxWord) :
    gather 0 whole = (Nat.ofDigitChars 10 whole 0, []) ∧
      gather (Nat.ofDigitChars 10 whole 0) fraction = (n, []) := by
  rw [Nat.ofDigitChars_append] at hn
  constructor
  · exact gather_of_le (le_ofDigitChars.trans (hn.trans_le hle))
  · rw [gather_of_le (hn.trans_le hle), hn]

theorem readNumber_fraction (negative : Bool) (hw : IsWhole whole) (hf : fraction ≠ [])
    (hd : ∀ c ∈ fraction, c.isDigit = true)
    (hn : Nat.ofDigitChars 10 (whole ++ fraction) 0 = n) (hle : n ≤ maxWord) (hs : Stops rest) :
    readNumber negative (whole ++ '.' :: (fraction ++ rest)) =
      float negative n (-fraction.length) rest := by
  obtain ⟨hwhole, hfraction⟩ := gather_fraction hn hle
  have hempty : fraction.isEmpty = false := by simpa using hf
  rw [readNumber_whole hw (digitless_cons (by decide)), numberTail, hwhole]
  simp only [digits_append hd hs.digitless, hempty, hfraction]
  cases rest with
  | nil => simp
  | cons c r => simp [hs.head]

/-! Exponents. -/

theorem exponentDigits_append (hd : ∀ c ∈ cs, c.isDigit = true) (hs : Digitless rest)
    (h : Nat.ofDigitChars 10 cs n ≤ 2 ^ 31 - 1) :
    exponentDigits n (cs ++ rest) = (some (Nat.ofDigitChars 10 cs n), rest) := by
  induction cs generalizing n with
  | nil =>
    cases rest with
    | nil => rfl
    | cons c r => simp [exponentDigits, hs c rfl]
  | cons c cs ih =>
    rw [Nat.ofDigitChars_cons] at h ⊢
    have hn : n * 10 + (c.toNat - 48) = 10 * n + (c.toNat - '0'.toNat) := by
      rw [Nat.mul_comm]; rfl
    have hfits : ¬ Nat.pow 2 31 - 1 < 10 * n + (c.toNat - '0'.toNat) :=
      Nat.not_lt.2 (le_ofDigitChars.trans h)
    rw [List.cons_append, exponentDigits, if_pos (hd c (by simp)), hn, if_neg hfits,
      ih (fun d hm => hd d (by simp [hm])) h]

/-- An exponent as it is written: a sign and at least two digits. -/
def powerText (e : Int) : List Char :=
  let power := Nat.toDigits 10 e.natAbs
  (if e < 0 then '-' else '+') :: if power.length < 2 then '0' :: power else power

theorem exponentPart_powerText (he : e.natAbs ≤ 2 ^ 31 - 1) (hs : Digitless rest) :
    exponentPart negative n start (powerText e ++ rest) = float negative n (start + e) rest := by
  obtain ⟨power, htext, hne, hdigits, hvalue⟩ : ∃ power, powerText e =
      (if e < 0 then '-' else '+') :: power ∧ power ≠ [] ∧ (∀ c ∈ power, c.isDigit = true) ∧
        Nat.ofDigitChars 10 power 0 = e.natAbs := by
    refine ⟨_, rfl, ?_, ?_, ?_⟩
    · split
      · simp
      · exact Nat.toDigits_ne_nil
    · split
      · simpa using isDigit_toDigits _
      · exact isDigit_toDigits _
    · split
      · rw [Nat.ofDigitChars_cons]
        exact Nat.ofDigitChars_ten_toDigits
      · exact Nat.ofDigitChars_ten_toDigits
  obtain ⟨d, ds, rfl⟩ := List.exists_cons_of_ne_nil hne
  rw [Nat.ofDigitChars_cons, Nat.mul_zero, Nat.zero_add] at hvalue
  have hread : exponentDigits (d.toNat - 48) (ds ++ rest) = (some e.natAbs, rest) := by
    rw [← hvalue]
    exact exponentDigits_append (fun c hm => hdigits c (by simp [hm])) hs (hvalue.trans_le he)
  have hd : d.isDigit = true := hdigits d (by simp)
  by_cases hneg : e < 0
  · rw [htext, if_pos hneg]
    simp [exponentPart, hd, hread, abs_of_neg hneg]
  · rw [htext, if_neg hneg]
    simp [exponentPart, hd, hread, abs_of_nonneg (Int.not_lt.1 hneg)]

theorem readNumber_power (negative : Bool) (hw : IsWhole whole)
    (hn : Nat.ofDigitChars 10 whole 0 = n) (hle : n ≤ maxWord) (he : e.natAbs ≤ 2 ^ 31 - 1)
    (hs : Stops rest) :
    readNumber negative (whole ++ 'e' :: (powerText e ++ rest)) = float negative n e rest := by
  have hwhole : gather 0 whole = (n, []) := by rw [gather_of_le (hn.trans_le hle), hn]
  rw [readNumber_whole hw (digitless_cons (by decide)), numberTail, hwhole]
  simp [exponentPart_powerText he hs.digitless]

theorem readNumber_fraction_power (negative : Bool) (hw : IsWhole whole) (hf : fraction ≠ [])
    (hd : ∀ c ∈ fraction, c.isDigit = true)
    (hn : Nat.ofDigitChars 10 (whole ++ fraction) 0 = n) (hle : n ≤ maxWord)
    (he : e.natAbs ≤ 2 ^ 31 - 1) (hs : Stops rest) :
    readNumber negative (whole ++ '.' :: (fraction ++ 'e' :: (powerText e ++ rest))) =
      float negative n (e - fraction.length) rest := by
  obtain ⟨hwhole, hfraction⟩ := gather_fraction hn hle
  have hempty : fraction.isEmpty = false := by simpa using hf
  have hexponent : -(fraction.length : Int) + e = e - fraction.length := by omega
  rw [readNumber_whole hw (digitless_cons (by decide)), numberTail, hwhole]
  simp [digits_append hd (digitless_cons (c := 'e') (by decide)), hempty, hfraction,
    exponentPart_powerText he hs.digitless, hexponent]

/-! Whole numbers in front. -/

theorem IsWhole.take {k : Nat} (h : IsWhole cs) (hk : 0 < k) : IsWhole (cs.take k) := by
  obtain ⟨k, rfl⟩ : ∃ j, k = j + 1 := ⟨k - 1, by omega⟩
  rcases h with rfl | ⟨hne, hzero, hd⟩
  · exact .inl (by simp)
  · obtain ⟨c, ds, rfl⟩ := List.exists_cons_of_ne_nil hne
    refine .inr ⟨by simp, by simpa using hzero, fun d hm => hd d (List.mem_of_mem_take hm)⟩

theorem isWhole_toDigits_append (hn : 0 < n) (hd : ∀ c ∈ cs, c.isDigit = true) :
    IsWhole (Nat.toDigits 10 n ++ cs) := by
  refine .inr ⟨by simp [Nat.toDigits_ne_nil], ?_, fun c hm => ?_⟩
  · rw [List.head?_append_of_ne_nil _ Nat.toDigits_ne_nil]
    exact head?_toDigits hn
  · rcases List.mem_append.1 hm with hm | hm
    · exact isDigit_toDigits n c hm
    · exact hd c hm

theorem IsWhole.head (h : IsWhole cs) : ∃ c ds, cs = c :: ds ∧ c.isDigit = true := by
  rcases h with rfl | ⟨hne, -, hd⟩
  · exact ⟨'0', [], rfl, by decide⟩
  · obtain ⟨c, ds, rfl⟩ := List.exists_cons_of_ne_nil hne
    exact ⟨c, ds, rfl, hd c (by simp)⟩

end Json

namespace Binary64

open Json

namespace Decimal

def figures (c : Decimal) : List Char := Nat.toDigits 10 c.digits

/-- The number of digits before the point. -/
def point (c : Decimal) : Int := c.figures.length + c.exponent

/-- The ways to write a decimal. -/
inductive Numeral (c : Decimal) : List Char → Prop where
  | whole : 0 ≤ c.exponent → c.point ≤ 16 →
      Numeral c (c.figures ++ List.replicate c.exponent.toNat '0' ++ ['.', '0'])
  | inside : c.exponent < 0 → 0 < c.point →
      Numeral c (c.figures.take c.point.toNat ++ '.' :: c.figures.drop c.point.toNat)
  | below : c.point ≤ 0 →
      Numeral c (['0', '.'] ++ List.replicate (-c.point).toNat '0' ++ c.figures)
  | one : c.figures.length = 1 → Numeral c (c.figures ++ 'e' :: powerText (c.point - 1))
  | many : 1 < c.figures.length →
      Numeral c (c.figures.take 1 ++ '.' :: c.figures.drop 1 ++ 'e' :: powerText (c.point - 1))

end Decimal

theorem text_of_negative (h : x.negative = true) :
    x.text = "-" ++ ({ x with negative := false } : Binary64).text := by
  obtain ⟨negative, mantissa, exponent⟩ := x
  subst h
  rfl

theorem numeral_text (hneg : x.negative = false) (hpos : 0 < x.mantissa) :
    x.shortest.Numeral x.text.toList := by
  have hzero : x.isZero = false := by simpa [isZero] using Nat.ne_of_gt hpos
  simp only [text, hzero, hneg, Bool.false_eq_true, if_false]
  generalize x.shortest = c
  split
  · next h =>
    rw [String.toList_ofList]
    exact .whole h.1 h.2
  split
  · next hwhole h =>
    rw [String.toList_ofList]
    exact .inside (by omega) h.1
  split
  · next h =>
    rw [String.toList_ofList]
    exact .below h.2
  · have hlength : 0 < c.figures.length := Nat.length_toDigits_pos
    rw [String.toList_ofList, List.append_assoc]
    change c.Numeral (_ ++ 'e' :: powerText (c.point - 1))
    split
    · next hone => exact .one hone
    · next hmore => exact .many (Nat.lt_of_le_of_ne hlength (Ne.symm hmore))

namespace Decimal

theorem isWhole_figures : IsWhole c.figures := isWhole_toDigits c.digits

theorem isDigit_figures : ∀ d ∈ c.figures, d.isDigit = true := isDigit_toDigits c.digits

theorem value_figures : Nat.ofDigitChars 10 c.figures 0 = c.digits := Nat.ofDigitChars_ten_toDigits

theorem Numeral.head (h : c.Numeral s) : ∃ d t, s = d :: t ∧ d.isDigit = true := by
  obtain ⟨w, t, rfl, hw⟩ : ∃ w t, s = w ++ t ∧ IsWhole w := by
    cases h with
    | whole => exact ⟨c.figures, _, List.append_assoc .., isWhole_figures⟩
    | inside _ hpoint => exact ⟨_, _, rfl, isWhole_figures.take (by omega)⟩
    | below => exact ⟨['0'], _, rfl, .inl rfl⟩
    | one => exact ⟨c.figures, _, rfl, isWhole_figures⟩
    | many => exact ⟨_, _, List.append_assoc .., isWhole_figures.take (by decide)⟩
  obtain ⟨d, ds, rfl, hd⟩ := hw.head
  exact ⟨d, ds ++ t, rfl, hd⟩

/-- A text is read as a decimal, whatever ends it. -/
def ReadFrom (c : Decimal) (s : List Char) : Prop :=
  ∀ (negative : Bool) (rest : List Char), Stops rest →
    readNumber negative (s ++ rest) = float negative c.digits c.exponent rest

theorem digits_lt : c.digits < 10 ^ c.figures.length := lt_ten_pow_digitCount c.digits

/-- A point may stand behind any of the digits but the last. -/
theorem split_figures {k : Nat} (hk : 0 < k) (hlt : k < c.figures.length) :
    IsWhole (c.figures.take k) ∧ c.figures.drop k ≠ [] ∧
      (∀ d ∈ c.figures.drop k, d.isDigit = true) ∧
      Nat.ofDigitChars 10 (c.figures.take k ++ c.figures.drop k) 0 = c.digits := by
  refine ⟨isWhole_figures.take hk, ?_, fun d hm => isDigit_figures d (List.mem_of_mem_drop hm), ?_⟩
  · rw [ne_eq, List.drop_eq_nil_iff]
    omega
  · rw [List.take_append_drop, value_figures]

/-- No more than 17 digits make a word. -/
theorem whole_le_maxWord (hexp : 0 ≤ c.exponent) (hpoint : c.point ≤ 16) :
    10 * (10 ^ c.exponent.toNat * c.digits) ≤ maxWord := by
  rw [point] at hpoint
  calc 10 * (10 ^ c.exponent.toNat * c.digits)
      ≤ 10 * (10 ^ c.exponent.toNat * 10 ^ c.figures.length) := by
        gcongr
        exact digits_lt.le
    _ = 10 ^ (c.exponent.toNat + c.figures.length + 1) := by ring
    _ ≤ 10 ^ 17 := Nat.pow_le_pow_right (by decide) (by omega)
    _ ≤ maxWord := by decide

theorem readFrom_whole (hpos : 0 < c.digits) (hexp : 0 ≤ c.exponent) (hpoint : c.point ≤ 16) :
    ReadFrom ⟨10 * (10 ^ c.exponent.toNat * c.digits), -1⟩
      (c.figures ++ List.replicate c.exponent.toNat '0' ++ ['.', '0']) := by
  intro negative rest hs
  have hw : IsWhole (c.figures ++ List.replicate c.exponent.toNat '0') :=
    isWhole_toDigits_append hpos (by simp)
  have hvalue : Nat.ofDigitChars 10
      (c.figures ++ List.replicate c.exponent.toNat '0' ++ ['0']) 0 =
        10 * (10 ^ c.exponent.toNat * c.digits) := by
    rw [Nat.ofDigitChars_append, Nat.ofDigitChars_append, value_figures,
      Nat.ofDigitChars_replicate_zero]
    rfl
  simpa using readNumber_fraction negative hw (by simp) (by simp) hvalue
    (whole_le_maxWord hexp hpoint) hs

theorem readFrom_inside (hexp : c.exponent < 0) (hpoint : 0 < c.point) (hle : c.digits ≤ maxWord) :
    c.ReadFrom (c.figures.take c.point.toNat ++ '.' :: c.figures.drop c.point.toNat) := by
  intro negative rest hs
  have hlength : c.point = c.figures.length + c.exponent := rfl
  obtain ⟨hw, hf, hd, hvalue⟩ := split_figures (c := c) (k := c.point.toNat) (by omega) (by omega)
  have hplaces : -((c.figures.drop c.point.toNat).length : Int) = c.exponent := by
    rw [List.length_drop]
    omega
  have hread := readNumber_fraction negative hw hf hd hvalue hle hs
  rw [hplaces] at hread
  simpa using hread

theorem readFrom_below (hpoint : c.point ≤ 0) (hle : c.digits ≤ maxWord) :
    c.ReadFrom (['0', '.'] ++ List.replicate (-c.point).toNat '0' ++ c.figures) := by
  intro negative rest hs
  have hlength : c.point = c.figures.length + c.exponent := rfl
  have hd : ∀ d ∈ List.replicate (-c.point).toNat '0' ++ c.figures, d.isDigit = true := by
    intro d hm
    rcases List.mem_append.1 hm with hm | hm
    · rw [List.eq_of_mem_replicate hm]
      decide
    · exact isDigit_figures d hm
  have hvalue : Nat.ofDigitChars 10
      (['0'] ++ (List.replicate (-c.point).toNat '0' ++ c.figures)) 0 = c.digits := by
    rw [Nat.ofDigitChars_append, Nat.ofDigitChars_append, Nat.ofDigitChars_replicate_zero]
    exact value_figures
  have hplaces : -((List.replicate (-c.point).toNat '0' ++ c.figures).length : Int) =
      c.exponent := by
    rw [List.length_append, List.length_replicate]
    omega
  have hread := readNumber_fraction negative (.inl rfl)
    (by simp [figures, Nat.toDigits_ne_nil]) hd hvalue hle hs
  rw [hplaces] at hread
  simpa using hread

theorem readFrom_one (hone : c.figures.length = 1) (hle : c.digits ≤ maxWord)
    (he : (c.point - 1).natAbs ≤ 2 ^ 31 - 1) :
    c.ReadFrom (c.figures ++ 'e' :: powerText (c.point - 1)) := by
  intro negative rest hs
  have hpower : c.point - 1 = c.exponent := by
    rw [point]
    omega
  have hread := readNumber_power negative isWhole_figures value_figures hle he hs
  rw [hpower] at hread ⊢
  simpa using hread

theorem readFrom_many (hmany : 1 < c.figures.length) (hle : c.digits ≤ maxWord)
    (he : (c.point - 1).natAbs ≤ 2 ^ 31 - 1) :
    c.ReadFrom (c.figures.take 1 ++ '.' :: c.figures.drop 1 ++ 'e' :: powerText (c.point - 1)) := by
  intro negative rest hs
  obtain ⟨hw, hf, hd, hvalue⟩ := split_figures Nat.one_pos hmany
  have hplaces : c.point - 1 - ((c.figures.drop 1).length : Int) = c.exponent := by
    rw [List.length_drop, point]
    omega
  have hread := readNumber_fraction_power negative hw hf hd hvalue hle he hs
  rw [hplaces] at hread
  simpa using hread

/-- A numeral is read as its decimal, except that the zeros in front of a point count as digits. -/
theorem Numeral.read (h : c.Numeral s) (hpos : 0 < c.digits) (hle : c.digits ≤ maxWord)
    (he : (c.point - 1).natAbs ≤ 2 ^ 31 - 1) :
    ∃ d : Decimal, (d = c ∨ d.digits ≤ maxWord ∧ d.exponent ≤ 0) ∧ d.ReadFrom s := by
  cases h with
  | whole hexp hpoint =>
    exact ⟨_, .inr ⟨whole_le_maxWord hexp hpoint, show (-1 : Int) ≤ 0 by decide⟩,
      readFrom_whole hpos hexp hpoint⟩
  | inside hexp hpoint => exact ⟨c, .inl rfl, readFrom_inside hexp hpoint hle⟩
  | below hpoint => exact ⟨c, .inl rfl, readFrom_below hpoint hle⟩
  | one hone => exact ⟨c, .inl rfl, readFrom_one hone hle he⟩
  | many hmany => exact ⟨c, .inl rfl, readFrom_many hmany hle he⟩

end Decimal

/-! Numbers within range. -/

theorem Decimal.Short.value_le_limit (hx : x.Finite) (h : c.Short x) : c.value ≤ limit := by
  have hm : (x.mantissa : ℚ) + 1 ≤ 2 ^ 53 := by exact_mod_cast hx.mantissa_lt
  have hlarge := two_pow_lt_limit
  refine h.value_le.trans (max_le ?_ (by linarith))
  rw [limit]
  exact mul_le_mul (by linarith) (zpow_le_zpow_right₀ one_le_two hx.exponent_le) (by positivity)
    (by norm_num)

theorem Decimal.Short.exponent_lt (hx : x.Finite) (h : c.Short x) : c.exponent < 309 := by
  by_contra hlarge
  have hone : (1 : ℚ) ≤ c.digits := by exact_mod_cast h.pos
  have hvalue : (10 : ℚ) ^ c.exponent ≤ c.value := le_mul_of_one_le_left (by positivity) hone
  exact (hvalue.trans (h.value_le_limit hx)).not_gt (limit_lt_of_large (by omega))

theorem Decimal.Short.natAbs_point_le (hx : x.Finite) (h : c.Short x) :
    (c.point - 1).natAbs ≤ 2 ^ 31 - 1 := by
  have hpos : 0 < c.figures.length := Nat.length_toDigits_pos
  have hlength : c.figures.length ≤ 20 :=
    (Nat.length_toDigits_le_iff (by decide) (by decide)).2 (h.le.trans_lt (by decide))
  have hlow := h.exponent
  have hhigh := h.exponent_lt hx
  rw [Decimal.point]
  omega

theorem exists_read_text (hx : x.Finite) (hneg : x.negative = false) (negative : Bool) :
    (∃ d t, x.text.toList = d :: t ∧ d.isDigit = true) ∧
      ∃ y, ∀ rest, Stops rest →
        readNumber negative (x.text.toList ++ rest) = .ok (.float y, rest) := by
  rcases Nat.eq_zero_or_pos x.mantissa with hzero | hpos
  · have htext : x.text.toList = ['0'] ++ '.' :: ['0'] := by simp [text, isZero, hzero, hneg]
    obtain ⟨y, hy⟩ := exists_float_of_nonpos (n := 0) (e := -1) negative (by decide) (by decide)
    refine ⟨⟨'0', ['.', '0'], htext, by decide⟩, y, fun rest hs => ?_⟩
    have hread := readNumber_fraction negative (.inl rfl)
      (show ['0'] ≠ [] by simp) (by simp) (show _ = 0 by decide) (by decide) hs
    rw [htext]
    exact hread.trans (hy rest)
  · have hshort := short_shortest hx hpos
    have hnumeral := numeral_text hneg hpos
    obtain ⟨d, hd, hread⟩ := hnumeral.read hshort.pos hshort.le (hshort.natAbs_point_le hx)
    refine ⟨hnumeral.head, ?_⟩
    obtain ⟨y, hy⟩ : ∃ y, ∀ rest,
        float negative d.digits d.exponent rest = .ok (.float y, rest) := by
      rcases hd with rfl | ⟨hle, hexp⟩
      · exact exists_float_shortest negative hx hpos
      · exact exists_float_of_nonpos negative hle hexp
    exact ⟨y, fun rest hs => (hread negative rest hs).trans (hy rest)⟩

end Binary64

instance (x : Binary64) : Decidable x.Finite :=
  decidable_of_iff (x.mantissa < 2 ^ 53 ∧ Binary64.minExponent ≤ x.exponent ∧
      x.exponent ≤ Binary64.maxExponent)
    ⟨fun h => ⟨h.1, h.2.1, h.2.2⟩, fun h => ⟨h.mantissa_lt, h.le_exponent, h.exponent_le⟩⟩

/-- A number of 64 bits, whole or not. -/
def Number.InRange : Number → Prop
  | .int n => Number.IsWord (.int n)
  | .float x => x.Finite

instance : DecidablePred Number.InRange
  | .int n => inferInstanceAs (Decidable (Number.IsWord (.int n)))
  | .float x => inferInstanceAs (Decidable x.Finite)

theorem inRange_of_isWord {x : Number} (h : x.IsWord) : x.InRange := by
  cases x with
  | int n => exact h
  | float x =>
    cases (show x = .zero true from h)
    decide

namespace Json

theorem exists_readAs_float (hx : x.Finite) : ∃ y, ReadAs (.float x) (.float y) := by
  cases hneg : x.negative with
  | false =>
    obtain ⟨⟨d, t, htext, hd⟩, y, hread⟩ := Binary64.exists_read_text hx hneg false
    refine ⟨y, .inr ⟨d, t, htext, hd, fun rest hs => ?_⟩⟩
    rw [← htext]
    exact hread rest hs
  | true =>
    have hx' : Binary64.Finite { x with negative := false } :=
      ⟨hx.mantissa_lt, hx.le_exponent, hx.exponent_le⟩
    obtain ⟨-, y, hread⟩ := Binary64.exists_read_text hx' rfl true
    refine ⟨y, .inl ⟨_, ?_, hread⟩⟩
    rw [writeNumber, Binary64.text_of_negative hneg]
    simp

/-- A number within range is read as a number. -/
theorem exists_readAs {x : Number} (hx : x.InRange) : ∃ y, ReadAs x y := by
  cases x with
  | int n => exact ⟨.int n, readAs_of_isWord hx⟩
  | float x =>
    obtain ⟨y, hy⟩ := exists_readAs_float hx
    exact ⟨.float y, hy⟩

/-- What numbers are read as: only a floating-point number may be read as another. -/
theorem exists_reading : ∃ g : Number → Number, (∀ x : Number, x.InRange → ReadAs x (g x)) ∧
    ∀ x : Number, x.IsWord → g x = x := by
  have hread (x : Number) : ∃ y, (x.InRange → ReadAs x y) ∧ (x.IsWord → y = x) := by
    by_cases hw : x.IsWord
    · exact ⟨x, fun _ => readAs_of_isWord hw, fun _ => rfl⟩
    by_cases hx : x.InRange
    · obtain ⟨y, hy⟩ := exists_readAs hx
      exact ⟨y, fun _ => hy, fun h => absurd h hw⟩
    · exact ⟨x, fun h => absurd h hx, fun _ => rfl⟩
  choose g hg using hread
  exact ⟨g, fun x => (hg x).1, fun x => (hg x).2⟩

end Json
end FeatureAudit
