import FeatureAudit.Binary64
import FeatureAudit.Text.Blank
import FeatureAudit.Text.CodeTable
import FeatureAudit.Toml.Basic

/-! Values that are one word: truth values, numbers, dates and times. -/
namespace FeatureAudit.Toml

/-- Digits of a kind; an underscore may stand between two of them. -/
def isGrouped (isDigit : Char → Bool) (cs : List Char) : Bool :=
  (Text.splitWhere (· == '_') cs).all fun part => !part.isEmpty && part.all isDigit

def withoutGroups (cs : List Char) : List Char := cs.filter (· != '_')

/-- The sign of a number and what follows it. -/
def cutSign : List Char → Bool × List Char
  | '-' :: r => (true, r)
  | '+' :: r => (false, r)
  | cs => (false, cs)

/-- Decimal digits without a zero in front. -/
def isWhole (cs : List Char) : Bool :=
  isGrouped Char.isDigit cs && (cs.length == 1 || cs.head? != some '0')

def decimal (cs : List Char) : Nat := cs.foldl (fun n c => 10 * n + (c.toNat - 48)) 0

/-- A number in a base given by two characters in front. -/
def based (base : Nat) (isDigit : Char → Bool) (cs : List Char) : Option Nat :=
  if isGrouped isDigit cs then
    some ((withoutGroups cs).foldl (fun n c => base * n + Text.CodeTable.number [c]) 0)
  else none

def isHexDigit (c : Char) : Bool :=
  c.isDigit || ('a' ≤ c && c ≤ 'f') || ('A' ≤ c && c ≤ 'F')

/-- An integer of 64 bits. -/
def integer? (cs : List Char) : Option Int :=
  let small (n : Option Nat) : Option Int := n.bind fun n => if n < Nat.pow 2 63 then some n else none
  match cs with
  | '0' :: 'x' :: r => small (based 16 isHexDigit r)
  | '0' :: 'o' :: r => small (based 8 (fun c => '0' ≤ c && c ≤ '7') r)
  | '0' :: 'b' :: r => small (based 2 (fun c => c == '0' || c == '1') r)
  | _ =>
    let (negative, ds) := cutSign cs
    if isWhole ds then
      let n := decimal (withoutGroups ds)
      if negative ∧ n ≤ Nat.pow 2 63 then some (-n) else if n < Nat.pow 2 63 ∧ !negative then some n else none
    else none

/-- Whether decimal digits with a power of ten go beyond all floating-point numbers. -/
def isTooLarge (digits : List Char) (exponent : Int) : Bool :=
  let significant := digits.dropWhile (· == '0')
  let size : Int := significant.length + exponent
  let n := decimal significant
  if significant.isEmpty then false
  else if size ≤ 308 then false
  else if 309 < size then true
  else
    (if 0 ≤ exponent then Binary64.round false (n * Nat.pow 10 exponent.toNat) 1
      else Binary64.round false n (Nat.pow 10 (-exponent).toNat)).isNone

/-- A floating-point number: it has a fraction or an exponent, or is a word. -/
def isFloat (cs : List Char) : Bool :=
  let (negative, r) := cutSign cs
  if r = "inf".toList ∨ r = "nan".toList then true
  else
    let isMark (c : Char) : Bool := c == '.' || c == 'e' || c == 'E'
    let whole := r.takeWhile (!isMark ·)
    let (fraction?, r) := match r.dropWhile (!isMark ·) with
      | '.' :: t => (some (t.takeWhile (!isMark ·)), t.dropWhile (!isMark ·))
      | t => (none, t)
    let exponent? := match r with
      | [] => none
      | _ :: t => some t
    let fraction := fraction?.getD ['0']
    let (down, power) := cutSign (exponent?.getD ['0'])
    let places : Int := (withoutGroups (fraction?.getD [])).length
    let exponent : Int := decimal (withoutGroups power)
    isWhole whole && (fraction?.isSome || exponent?.isSome) && r.head? != some '.' &&
      isGrouped Char.isDigit fraction && isGrouped Char.isDigit power &&
      (negative || !isTooLarge (withoutGroups (whole ++ fraction?.getD []))
        ((if down then -exponent else exponent) - places))

/-! Dates and times. -/

/-- A number of two digits within bounds, and what follows it. -/
def twoDigits (least most : Nat) : List Char → Option (Nat × List Char)
  | a :: b :: r =>
    let n := decimal [a, b]
    if a.isDigit && b.isDigit && least ≤ n && n ≤ most then some (n, r) else none
  | _ => none

def daysOf (year month : Nat) : Nat :=
  if month = 2 then
    if year % 4 = 0 ∧ (year % 100 ≠ 0 ∨ year % 400 = 0) then 29 else 28
  else if month = 4 ∨ month = 6 ∨ month = 9 ∨ month = 11 then 30
  else 31

/-- What follows a date. -/
def afterDate : List Char → Option (List Char)
  | a :: b :: c :: d :: '-' :: r => do
    guard ([a, b, c, d].all Char.isDigit)
    let (month, r) ← twoDigits 1 12 r
    match r with
    | '-' :: r =>
      let (_, r) ← twoDigits 1 (daysOf (decimal [a, b, c, d]) month) r
      some r
    | _ => none
  | _ => none

/-- What follows a time of day. -/
def afterTime (cs : List Char) : Option (List Char) := do
  let (_, r) ← twoDigits 0 23 cs
  match r with
  | ':' :: r =>
    let (_, r) ← twoDigits 0 59 r
    match r with
    | ':' :: r =>
      let (_, r) ← twoDigits 0 60 r
      match r with
      | '.' :: c :: r => if c.isDigit then some (r.dropWhile Char.isDigit) else none
      | _ => some r
    | _ => none
  | _ => none

/-- Whether the rest of a date and time is nothing or a distance from universal time. -/
def isOffset (cs : List Char) : Bool :=
  match cs with
  | [] => true
  | [c] => c == 'Z' || c == 'z'
  | c :: r =>
    (c == '+' || c == '-') &&
      match twoDigits 0 23 r with
      | some (_, ':' :: r) => (twoDigits 0 59 r).any (·.2.isEmpty)
      | _ => false

/-- A date, a time, or a date and a time with a `T` or a blank between. -/
def isMoment (cs : List Char) : Bool :=
  match afterDate cs with
  | some [] => true
  | some (c :: r) => (c == 'T' || c == 't' || c == ' ') && (afterTime r).any isOffset
  | none => afterTime cs == some []

/-- The value of a word. -/
def scalar? (word : List Char) : Option Value :=
  if word = "true".toList then some (.truth true)
  else if word = "false".toList then some (.truth false)
  else if isMoment word then some .moment
  else if isFloat word then some .float
  else (integer? word).map .integer

end FeatureAudit.Toml
