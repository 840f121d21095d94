import FeatureAudit.Json.Basic
import FeatureAudit.Json.Fault
import FeatureAudit.Text.CodeTable

/-! The lexemes of JSON: blanks, words, strings and numbers. A lexeme that is only skipped is held to
fewer rules than one that is read: its surrogates need no partner and its numbers no range. -/
namespace FeatureAudit.Json

def isSpace (c : Char) : Bool := c == ' ' || c == '\n' || c == '\t' || c == '\r'

/-- Without the blanks at the start. -/
def skipSpace (s : List Char) : List Char := s.dropWhile isSpace

/-- Reads the letters of a word. -/
def word : List Char → Reader Unit
  | [], s => .ok ((), s)
  | _ :: _, [] => .error (.here .endInValue [])
  | w :: ws, c :: r => if c = w then word ws r else .error (.next .wordExpected (c :: r))

/-! Strings. -/

def isHex (c : Char) : Bool :=
  ('0' ≤ c && c ≤ '9') || ('a' ≤ c && c ≤ 'f') || ('A' ≤ c && c ≤ 'F')

/-- Four hexadecimal digits. Four bytes are looked at, whatever they hold. -/
def hexFour (s : List Char) : Except Fault (Nat × List Char) :=
  if byteCount s < 4 then .error (.here .endInString [])
  else match s with
    | a :: b :: c :: d :: r =>
      if isHex a && isHex b && isHex c && isHex d then
        .ok (Text.CodeTable.number [a, b, c, d], r)
      else .error ⟨.badEscape, s, 4, true⟩
    | _ => .error ⟨.badEscape, s, 4, true⟩

/-- The character of an escape sequence of one letter. -/
def plainEscape : Char → Option Char
  | '"' => some '"'
  | '\\' => some '\\'
  | '/' => some '/'
  | 'b' => some (Char.ofNat 8)
  | 'f' => some (Char.ofNat 12)
  | 'n' => some '\n'
  | 'r' => some '\r'
  | 't' => some '\t'
  | _ => none

/-- A character given by its number, or by two surrogates. -/
def unicodeEscape (s : List Char) : Except Fault (Char × List Char) := do
  let (n, r) ← hexFour s
  if 0xDC00 ≤ n ∧ n ≤ 0xDFFF then .error (.here .loneSurrogate r)
  else if n < 0xD800 ∨ 0xDBFF < n then .ok (Char.ofNat n, r)
  else match r with
    | [] => .error (.here .endInString [])
    | '\\' :: [] => .error (.here .endInString [])
    | '\\' :: 'u' :: r =>
      let (m, r) ← hexFour r
      if m < 0xDC00 ∨ 0xDFFF < m then .error (.here .loneSurrogate r)
      else .ok (Char.ofNat (0x10000 + (n - 0xD800) * 1024 + (m - 0xDC00)), r)
    | '\\' :: r => .error (.next .endInEscape r)
    | r => .error (.next .endInEscape r)

/-- What stands behind a backslash. -/
def escape : List Char → Except Fault (Char × List Char)
  | [] => .error (.here .endInString [])
  | 'u' :: r => unicodeEscape r
  | c :: r =>
    match plainEscape c with
    | some d => .ok (d, r)
    | none => .error (.next .badEscape (c :: r))

theorem hexFour_length {s r : List Char} {n : Nat} (h : hexFour s = .ok (n, r)) :
    r.length < s.length := by
  unfold hexFour at h
  split at h
  · simp at h
  · split at h
    · split at h <;> simp at h
      simp [← h.2]; omega
    · simp at h

theorem unicodeEscape_length {s r : List Char} {c : Char} (h : unicodeEscape s = .ok (c, r)) :
    r.length < s.length := by
  unfold unicodeEscape at h
  cases h1 : hexFour s with
  | error e => simp [h1, bind, Except.bind] at h
  | ok v =>
    obtain ⟨n, t⟩ := v
    have ht := hexFour_length h1
    simp only [h1, bind, Except.bind] at h
    split at h
    · simp at h
    split at h
    · simp at h; simp [← h.2, ht]
    split at h
    · simp at h
    · simp at h
    · next t' =>
      cases h2 : hexFour t' with
      | error e => simp [h2] at h
      | ok v =>
        obtain ⟨m, t''⟩ := v
        have := hexFour_length h2
        simp only [h2] at h
        split at h <;> simp at h
        simp [← h.2]
        simp at ht
        omega
    · simp at h
    · simp at h

theorem escape_length {s r : List Char} {c : Char} (h : escape s = .ok (c, r)) :
    r.length < s.length := by
  unfold escape at h
  split at h
  · simp at h
  · have := unicodeEscape_length h; simp; omega
  · split at h <;> simp at h
    simp [← h.2]

/-- The characters of a string up to its closing quote, the opening quote having been read. -/
def characters (s : List Char) : Except Fault (List Char × List Char) :=
  match s with
  | [] => .error (.here .endInString [])
  | '"' :: r => .ok ([], r)
  | '\\' :: r =>
    match h : escape r with
    | .error e => .error e
    | .ok (c, r') =>
      have := escape_length h
      match characters r' with
      | .error e => .error e
      | .ok (cs, t) => .ok (c :: cs, t)
  | c :: r =>
    if c.toNat < 32 then .error (.next .controlCharacter (c :: r))
    else match characters r with
      | .error e => .error e
      | .ok (cs, t) => .ok (c :: cs, t)
termination_by s.length

/-- A string, the opening quote having been read. -/
def readString : Reader String := fun s => do
  let (cs, r) ← characters s
  .ok (String.ofList cs, r)

/-- Passes over a string, the opening quote having been read. -/
def skipString : List Char → Except Fault (List Char)
  | [] => .error (.here .endInString [])
  | '"' :: r => .ok r
  | '\\' :: [] => .error (.here .endInString [])
  | '\\' :: 'u' :: r =>
    if byteCount r < 4 then .error (.here .endInString [])
    else match r with
      | a :: b :: c :: d :: r' =>
        if isHex a && isHex b && isHex c && isHex d then skipString r'
        else .error ⟨.badEscape, r, 4, true⟩
      | _ => .error ⟨.badEscape, r, 4, true⟩
  | '\\' :: c :: r =>
    if (plainEscape c).isSome then skipString r else .error (.next .badEscape (c :: r))
  | c :: r =>
    if c.toNat < 32 then .error (.here .controlCharacter (c :: r)) else skipString r

/-! Numbers. -/

/-- The largest integer of 64 bits. -/
def maxWord : Nat := Nat.pow 2 64 - 1

/-- The digits at the start of a text, and the rest. -/
def digits (s : List Char) : List Char × List Char := (s.takeWhile Char.isDigit, s.dropWhile Char.isDigit)

/-- Appends digits to a significand as long as it fits 64 bits; the digits that no longer do are
left over. -/
def gather (significand : Nat) : List Char → Nat × List Char
  | [] => (significand, [])
  | d :: ds =>
    let n := significand * 10 + (d.toNat - 48)
    if maxWord < n then (significand, d :: ds) else gather n ds

/-- `significand · 10 ^ exponent`, rounded after each multiplication or division by a power of ten
that is in range; `none` when it is out of range. -/
def scale (x : Binary64) (exponent : Int) : Option Binary64 :=
  if exponent.natAbs ≤ 308 then
    if 0 ≤ exponent then x.mul (.pow10 exponent.toNat) else x.div (.pow10 exponent.natAbs)
  else if x.isZero then some x
  else if 0 < exponent then none
  else match x.div (.pow10 308) with
    | none => none
    | some y => scale y (exponent + 308)
termination_by exponent.natAbs
decreasing_by omega

/-- The floating-point number with a significand, an exponent and a sign. -/
def float (negative : Bool) (significand : Nat) (exponent : Int) (rest : List Char) :
    Except Fault (Number × List Char) :=
  match (Binary64.ofNat significand).bind (scale · exponent) with
  | none => .error (.here .numberOutOfRange rest)
  | some x => .ok (.float (if negative then x.negate else x), rest)

/-- The digits of an exponent, up to the largest signed number of 32 bits; `none` behind the digit
that goes beyond. -/
def exponentDigits (n : Nat) : List Char → Option Nat × List Char
  | [] => (some n, [])
  | c :: r =>
    if c.isDigit then
      let m := n * 10 + (c.toNat - 48)
      if Nat.pow 2 31 - 1 < m then (none, r) else exponentDigits m r
    else (some n, c :: r)

/-- What stands behind the letter of an exponent. -/
def exponentPart (negative : Bool) (significand : Nat) (start : Int) (s : List Char) :
    Except Fault (Number × List Char) :=
  let (down, s) := match s with
    | '+' :: r => (false, r)
    | '-' :: r => (true, r)
    | _ => (false, s)
  match s with
  | [] => .error (.here .endInValue [])
  | c :: r =>
    if !c.isDigit then .error (.next .badNumber (c :: r))
    else match exponentDigits (c.toNat - 48) r with
      | (some e, r) =>
        float negative significand (if down then start - e else start + e) r
      | (none, r) =>
        if significand ≠ 0 ∧ !down then .error (.here .numberOutOfRange r)
        else .ok (.float (.zero negative), (digits r).2)

/-- What stands behind the integer digits: nothing, a fraction or an exponent. -/
def numberTail (negative : Bool) (whole : List Char) (s : List Char) :
    Except Fault (Number × List Char) :=
  let (significand, left) := gather 0 whole
  match s with
  | '.' :: r =>
    let (fraction, r) := digits r
    if fraction.isEmpty then
      match r with
      | [] => .error (.here .endInValue [])
      | _ => .error (.next .badNumber r)
    else
      let (significand, dropped) := gather significand fraction
      let exponent : Int := left.length - (fraction.length - dropped.length : Nat)
      match r with
      | c :: t =>
        if c == 'e' || c == 'E' then exponentPart negative significand exponent t
        else float negative significand exponent r
      | [] => float negative significand exponent r
  | c :: r =>
    if c == 'e' || c == 'E' then exponentPart negative significand left.length r
    else ending significand left s
  | [] => ending significand left s
where
  ending (significand : Nat) (left s : List Char) : Except Fault (Number × List Char) :=
    if !left.isEmpty then float negative significand left.length s
    else if !negative then .ok (.int significand, s)
    else if significand = 0 ∨ Nat.pow 2 63 < significand then float true significand 0 s
    else .ok (.int (-significand), s)

/-- A number, its sign having been read. -/
def readNumber (negative : Bool) : Reader Number := fun s =>
  match s with
  | [] => .error (.here .endInValue [])
  | '0' :: r =>
    match r with
    | c :: _ => if c.isDigit then .error (.next .badNumber r) else numberTail negative ['0'] r
    | [] => numberTail negative ['0'] r
  | c :: r =>
    if c.isDigit then numberTail negative (digits (c :: r)).1 (digits (c :: r)).2
    else .error (.next .badNumber (c :: r))

/-- Passes over the exponent of a number, its letter having been read. -/
def skipExponent (s : List Char) : Except Fault (List Char) :=
  let s := match s with
    | '+' :: r => r
    | '-' :: r => r
    | _ => s
  match s with
  | [] => .error (.here .badNumber [])
  | c :: r => if c.isDigit then .ok (digits r).2 else .error (.next .badNumber (c :: r))

/-- Passes over a number, its sign having been read. -/
def skipNumber (s : List Char) : Except Fault (List Char) :=
  match s with
  | [] => .error (.here .badNumber [])
  | '0' :: c :: r => if c.isDigit then .error (.next .badNumber (c :: r)) else tail (c :: r)
  | c :: r => if c.isDigit then tail (digits (c :: r)).2 else .error (.next .badNumber (c :: r))
where
  power (s : List Char) : Except Fault (List Char) :=
    match s with
    | c :: r => if c == 'e' || c == 'E' then skipExponent r else .ok s
    | [] => .ok s
  tail (s : List Char) : Except Fault (List Char) :=
    match s with
    | '.' :: r =>
      let (fraction, r) := digits r
      if fraction.isEmpty then .error (.next .badNumber r) else power r
    | _ => power s

end FeatureAudit.Json
