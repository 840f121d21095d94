import FeatureAudit.Json.Printer
import FeatureAudit.Json.Lexeme
import Mathlib.Data.List.Basic

/-! Strings and whole numbers are read back as they were written. -/
namespace FeatureAudit

variable {c : Char} {cs r t rest : List Char} {n : Nat}

/-- A number written as an integer of 64 bits, signed or unsigned. Minus zero is one, although it is
kept as a floating-point number. -/
def Number.IsWord : Number → Prop
  | .int n => -(Nat.pow 2 63 : Nat) ≤ n ∧ n ≤ (Json.maxWord : Nat)
  | .float x => x = .zero true

instance : DecidablePred Number.IsWord
  | .int n => inferInstanceAs (Decidable (-(Nat.pow 2 63 : Nat) ≤ n ∧ n ≤ (Json.maxWord : Nat)))
  | .float x => inferInstanceAs (Decidable (x = .zero true))

namespace Json

/-! Strings. -/

theorem length_le_foldl_utf8Size (cs : List Char) (n : Nat) :
    n + cs.length ≤ cs.foldl (fun n c => n + c.utf8Size) n := by
  induction cs generalizing n with
  | nil => exact Nat.le_refl _
  | cons c cs ih =>
    have hc := c.utf8Size_pos
    have := ih (n + c.utf8Size)
    simp only [List.length_cons, List.foldl_cons]
    omega

theorem length_le_byteCount (cs : List Char) : cs.length ≤ byteCount cs := by
  simpa [byteCount] using length_le_foldl_utf8Size cs 0

theorem isHex_hexDigit (h : n < 16) : isHex (Text.hexDigit n) = true := by
  revert n; decide

theorem digit_hexDigit (h : n < 16) : Text.CodeTable.digit (Text.hexDigit n) = n := by
  revert n; decide

/-- The number of a control character is written with two digits that are not zero. -/
theorem escape_control (h : c.toNat < 32) :
    escape ('u' :: '0' :: '0' ::
      Text.hexDigit (c.toNat / 16) :: Text.hexDigit (c.toNat % 16) :: r) = .ok (c, r) := by
  have hhigh : c.toNat / 16 < 16 := by omega
  have hlow : c.toNat % 16 < 16 := Nat.mod_lt _ (by decide)
  have hlong : ¬ byteCount ('0' :: '0' :: Text.hexDigit (c.toNat / 16) ::
      Text.hexDigit (c.toNat % 16) :: r) < 4 := by
    have := length_le_byteCount ('0' :: '0' :: Text.hexDigit (c.toNat / 16) ::
      Text.hexDigit (c.toNat % 16) :: r)
    simp only [List.length_cons] at this
    omega
  have hzero : isHex '0' = true ∧ Text.CodeTable.digit '0' = 0 := by decide
  have hnumber : Text.CodeTable.number
      ['0', '0', Text.hexDigit (c.toNat / 16), Text.hexDigit (c.toNat % 16)] = c.toNat := by
    simp only [Text.CodeTable.number, List.foldl_cons, List.foldl_nil, digit_hexDigit hhigh,
      digit_hexDigit hlow, hzero.2]
    omega
  have hfour : hexFour ('0' :: '0' :: Text.hexDigit (c.toNat / 16) ::
      Text.hexDigit (c.toNat % 16) :: r) = .ok (c.toNat, r) := by
    simp only [hexFour, if_neg hlong, isHex_hexDigit hhigh, isHex_hexDigit hlow, hzero.1, hnumber,
      Bool.and_self, if_true]
  have hlone : ¬ (0xDC00 ≤ c.toNat ∧ c.toNat ≤ 0xDFFF) := by omega
  have hplain : c.toNat < 0xD800 ∨ 0xDBFF < c.toNat := by omega
  simp only [escape, unicodeEscape, hfour, bind, Except.bind, if_neg hlone, if_pos hplain,
    Char.ofNat_toNat]

theorem characters_escape (he : escape r = .ok (c, t)) (hr : characters t = .ok (cs, rest)) :
    characters ('\\' :: r) = .ok (c :: cs, rest) := by
  rw [characters]
  split
  · simp_all
  · next c' t' he' =>
    cases he.symm.trans he'
    simp [hr]

theorem characters_plain (hq : c ≠ '"') (hb : c ≠ '\\') (hc : ¬ c.toNat < 32)
    (hr : characters r = .ok (cs, rest)) : characters (c :: r) = .ok (c :: cs, rest) := by
  rw [characters]
  · simp [hc, hr]
  · exact hq
  · exact hb

theorem characters_writeChar (hr : characters r = .ok (cs, rest)) :
    characters (writeChar c ++ r) = .ok (c :: cs, rest) := by
  have letter {l : Char} (hl : plainEscape l = some c) :
      characters ('\\' :: l :: r) = .ok (c :: cs, rest) := by
    refine characters_escape (t := r) ?_ hr
    have hu : l ≠ 'u' := by rintro rfl; cases hl
    rw [escape]
    · simp [hl]
    · exact hu
  have number {k : Nat} (hk : (c.toNat == k) = true) : c = Char.ofNat k := by
    rw [← beq_iff_eq.1 hk, Char.ofNat_toNat]
  unfold writeChar
  split
  · next h => exact letter (by rw [beq_iff_eq.1 h]; rfl)
  split
  · next h => exact letter (by rw [beq_iff_eq.1 h]; rfl)
  split
  · next h => exact letter (by rw [number h]; rfl)
  split
  · next h => exact letter (by rw [number h]; rfl)
  split
  · next h => exact letter (by rw [beq_iff_eq.1 h]; rfl)
  split
  · next h => exact letter (by rw [beq_iff_eq.1 h]; rfl)
  split
  · next h => exact letter (by rw [beq_iff_eq.1 h]; rfl)
  split
  · next h => exact characters_escape (escape_control h) hr
  · next hq hb _ _ _ _ _ hc =>
    exact characters_plain (by simpa using hq) (by simpa using hb) hc hr

theorem characters_flatMap_writeChar (cs rest : List Char) :
    characters (cs.flatMap writeChar ++ '"' :: rest) = .ok (cs, rest) := by
  induction cs with
  | nil => simp [characters]
  | cons c cs ih =>
    rw [List.flatMap_cons, List.append_assoc]
    exact characters_writeChar ih

theorem readString_writeText (s : String) (rest : List Char) :
    readString (s.toList.flatMap writeChar ++ '"' :: rest) = .ok (s, rest) := by
  simp [readString, characters_flatMap_writeChar, bind, Except.bind]

/-! Numbers. -/

/-- What stands behind a value: the end, a blank, a comma or a closing bracket. No number goes on
there. -/
def Stops (rest : List Char) : Prop :=
  ∀ c ∈ rest.head?, isSpace c = true ∨ c ∈ [',', ']', '\x7d']

theorem Stops.head (h : Stops (c :: rest)) :
    c.isDigit = false ∧ c ≠ '.' ∧ (c == 'e' || c == 'E') = false := by
  rcases h c rfl with h | h
  · simp only [isSpace, Bool.or_eq_true, beq_iff_eq] at h
    rcases h with ((rfl | rfl) | rfl) | rfl <;> decide
  · simp only [List.mem_cons, List.not_mem_nil, or_false] at h
    rcases h with rfl | rfl | rfl <;> decide

/-- A text that does not start with a digit. -/
def Digitless (s : List Char) : Prop := ∀ c ∈ s.head?, c.isDigit = false

theorem digitless_cons (h : c.isDigit = false) : Digitless (c :: r) := by
  rintro d ⟨⟩
  exact h

theorem Stops.digitless (h : Stops rest) : Digitless rest := by
  rintro c hc
  obtain ⟨r, rfl⟩ := List.head?_eq_some_iff.1 hc
  exact h.head.1

theorem digits_append (hd : ∀ c ∈ cs, c.isDigit = true) (hs : Digitless rest) :
    digits (cs ++ rest) = (cs, rest) := by
  have hrest : rest.takeWhile Char.isDigit = [] ∧ rest.dropWhile Char.isDigit = rest := by
    cases rest with
    | nil => exact ⟨rfl, rfl⟩
    | cons c r => simp [hs c rfl]
  rw [digits, List.takeWhile_append_of_pos hd, List.dropWhile_append_of_pos hd, hrest.1, hrest.2,
    List.append_nil]

/-- The value of digits is no less than that of the digits before them. -/
theorem le_ofDigitChars : n ≤ Nat.ofDigitChars 10 cs n := by
  rw [Nat.ofDigitChars_eq_ofDigitChars_zero]
  exact Nat.le_trans (Nat.le_mul_of_pos_left _ (Nat.pow_pos (by decide))) (Nat.le_add_right _ _)

/-- A number that fits fits on the way as well. -/
theorem gather_of_le (h : Nat.ofDigitChars 10 cs n ≤ maxWord) :
    gather n cs = (Nat.ofDigitChars 10 cs n, []) := by
  induction cs generalizing n with
  | nil => simp [gather]
  | cons c cs ih =>
    rw [Nat.ofDigitChars_cons] at h ⊢
    have hn : n * 10 + (c.toNat - 48) = 10 * n + (c.toNat - '0'.toNat) := by
      rw [Nat.mul_comm]; rfl
    have hfits : ¬ maxWord < 10 * n + (c.toNat - '0'.toNat) :=
      Nat.not_lt.2 (Nat.le_trans le_ofDigitChars h)
    rw [gather, hn, if_neg hfits, ih h]

theorem head?_toDigits (hn : 0 < n) : (Nat.toDigits 10 n).head? ≠ some '0' := by
  induction n using Nat.base_induction 10 (by decide) with
  | single n h =>
    rw [Nat.toDigits_of_lt_base h]
    revert n; decide
  | digit m k hk hm ih =>
    rw [← Nat.toDigits_append_toDigits (by decide) hm hk,
      List.head?_append_of_ne_nil _ (by simp)]
    exact ih hm

theorem numberTail_of_stops {negative : Bool} {s : List Char} (hs : Stops rest)
    (hg : gather 0 s = (n, [])) :
    numberTail negative s rest = numberTail.ending negative n [] rest := by
  rw [numberTail, hg]
  cases rest with
  | nil => rfl
  | cons c r =>
    simp [hs.head]

/-- The digits of a whole number: a zero alone, or digits that do not start with one. -/
def IsWhole (cs : List Char) : Prop :=
  cs = ['0'] ∨ cs ≠ [] ∧ cs.head? ≠ some '0' ∧ ∀ c ∈ cs, c.isDigit = true

theorem isDigit_toDigits (n : Nat) : ∀ c ∈ Nat.toDigits 10 n, c.isDigit = true :=
  fun _ hc => Nat.isDigit_of_mem_toDigits (by decide) (by decide) hc

theorem isWhole_toDigits (n : Nat) : IsWhole (Nat.toDigits 10 n) := by
  rcases Nat.eq_zero_or_pos n with rfl | hpos
  · exact .inl (Nat.toDigits_zero 10)
  · exact .inr ⟨Nat.toDigits_ne_nil, head?_toDigits hpos, isDigit_toDigits n⟩

theorem readNumber_whole {negative : Bool} (hw : IsWhole cs) (hs : Digitless rest) :
    readNumber negative (cs ++ rest) = numberTail negative cs rest := by
  rcases hw with rfl | ⟨hne, hzero, hd⟩
  · cases rest with
    | nil => rfl
    | cons c r => simp [readNumber, hs c rfl]
  · obtain ⟨c, ds, rfl⟩ := List.exists_cons_of_ne_nil hne
    have hc : c ≠ '0' := by simpa using hzero
    have hall := digits_append hd hs
    rw [List.cons_append] at hall ⊢
    rw [readNumber]
    · rw [hall, if_pos (hd c (by simp))]
    · exact hc

theorem readNumber_toDigits {negative : Bool} (hn : n ≤ maxWord) (hs : Stops rest) :
    readNumber negative (Nat.toDigits 10 n ++ rest) = numberTail.ending negative n [] rest := by
  have hg : gather 0 (Nat.toDigits 10 n) = (n, []) := by
    rw [gather_of_le] <;> rw [Nat.ofDigitChars_ten_toDigits]
    exact hn
  rw [readNumber_whole (isWhole_toDigits n) hs.digitless, numberTail_of_stops hs hg]

theorem scale_zero : scale (.zero false) (-1) = some (.zero false) := by
  rw [scale, if_pos (by decide), if_neg (by decide), Binary64.div]
  decide +kernel

theorem float_zero : float true 0 (-1) rest = .ok (.float (.zero true), rest) := by
  have hnat : Binary64.ofNat 0 = some (.zero false) := by decide
  rw [float, hnat, Option.bind_some, scale_zero]
  rfl

theorem readNumber_minus_zero (hs : Stops rest) :
    readNumber true ('0' :: '.' :: '0' :: rest) = .ok (.float (.zero true), rest) := by
  have hd : digits ('0' :: rest) = (['0'], rest) :=
    digits_append (show ∀ c ∈ ['0'], c.isDigit = true by simp) hs.digitless
  have hg : gather 0 ['0'] = (0, []) := by decide
  rw [readNumber, if_neg (by decide), numberTail, hg]
  simp only [hd, hg]
  cases rest with
  | nil => exact float_zero
  | cons c r => simpa [hs.head] using float_zero

/-- The text of a number starts with a sign or a digit, and is read from there as a number. -/
def ReadAs (x y : Number) : Prop :=
  (∃ s, writeNumber x = '-' :: s ∧
      ∀ rest, Stops rest → readNumber true (s ++ rest) = .ok (y, rest)) ∨
    ∃ c s, writeNumber x = c :: s ∧ c.isDigit = true ∧
      ∀ rest, Stops rest → readNumber false (c :: s ++ rest) = .ok (y, rest)

/-- A number of 64 bits is read back. -/
theorem readAs_of_isWord {x : Number} (hx : x.IsWord) : ReadAs x x := by
  cases x with
  | float x =>
    cases (show x = .zero true from hx)
    exact .inl ⟨['0', '.', '0'], by decide +kernel, fun rest hs => readNumber_minus_zero hs⟩
  | int n =>
    obtain ⟨hlow, hhigh⟩ := hx
    by_cases hn : n < 0
    · refine .inl ⟨Nat.toDigits 10 n.natAbs, by simp [writeNumber, hn], fun rest hs => ?_⟩
      have hfits : n.natAbs ≤ Nat.pow 2 63 := by omega
      have hsign : n.natAbs ≠ 0 ∧ -(n.natAbs : Int) = n := by omega
      have hout : ¬ (n.natAbs = 0 ∨ Nat.pow 2 63 < n.natAbs) := by omega
      rw [readNumber_toDigits (Nat.le_trans hfits (by decide)) hs, numberTail.ending]
      simp only [List.isEmpty_nil, Bool.not_true, Bool.false_eq_true, if_false, if_neg hout,
        hsign.2]
    · cases hds : Nat.toDigits 10 n.natAbs with
      | nil => simp at hds
      | cons c ds =>
        refine .inr ⟨c, ds, by simp [writeNumber, hn, hds], ?_, fun rest hs => ?_⟩
        · have hc : c ∈ Nat.toDigits 10 n.natAbs := by simp [hds]
          exact Nat.isDigit_of_mem_toDigits (by decide) (by decide) hc
        · have habs : n.natAbs ≤ maxWord ∧ (n.natAbs : Int) = n := by
            omega
          rw [← hds, readNumber_toDigits habs.1 hs, numberTail.ending]
          simp [habs.2]

end Json
end FeatureAudit
