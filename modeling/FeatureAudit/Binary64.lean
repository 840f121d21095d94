/-! Finite binary floating-point numbers with 53 significant bits, as exact integers: rounding of a
quotient to the nearest such number, products and quotients, and the shortest decimal that reads
back. -/
namespace FeatureAudit

/-- The number `± mantissa · 2 ^ exponent`. -/
structure Binary64 where
  negative : Bool
  mantissa : Nat
  exponent : Int
  deriving DecidableEq, Repr

namespace Binary64

/-- Exponent of the smallest numbers. -/
def minExponent : Int := -1074

/-- Exponent of the largest numbers. -/
def maxExponent : Int := 971

def zero (negative : Bool) : Binary64 := ⟨negative, 0, minExponent⟩

def isZero (x : Binary64) : Bool := x.mantissa == 0

def negate (x : Binary64) : Binary64 := { x with negative := !x.negative }

/-- A quotient as an integer: the nearest one, and the even one of two that are equally near. -/
def nearest (num den : Nat) : Nat :=
  let q := num / den
  let r := num % den
  if den < 2 * r ∨ (2 * r = den ∧ q % 2 = 1) then q + 1 else q

/-- `num / den` divided by `2 ^ e`, as a numerator and a denominator. -/
def scaled (num den : Nat) (e : Int) : Nat × Nat :=
  if 0 ≤ e then (num, den * Nat.pow 2 e.toNat) else (num * Nat.pow 2 (-e).toNat, den)

/-- The exponent at which the quotient has 53 bits before the point, or the smallest exponent. -/
def exponentOf (num den : Nat) : Int :=
  let e : Int := (num.log2 : Int) - den.log2 - 52
  let (n, d) := scaled num den e
  max minExponent (if n / d < Nat.pow 2 52 then e - 1 else e)

/-- The number nearest to the quotient `num / den`, ties to the even mantissa; `none` when it is out
of range. -/
def round (negative : Bool) (num den : Nat) : Option Binary64 :=
  if num = 0 then some (zero negative)
  else
    let e := exponentOf num den
    let (n, d) := scaled num den e
    let m := nearest n d
    let (m, e) := if m = Nat.pow 2 53 then (Nat.pow 2 52, e + 1) else (m, e)
    if maxExponent < e then none else some ⟨negative, m, e⟩

def ofNat (n : Nat) : Option Binary64 := round false n 1

/-- A natural number times a power of two, as a quotient. -/
def quotient (m : Nat) (e : Int) : Nat × Nat :=
  if 0 ≤ e then (m * Nat.pow 2 e.toNat, 1) else (m, Nat.pow 2 (-e).toNat)

/-- The rounded product. -/
def mul (x y : Binary64) : Option Binary64 :=
  let (n, d) := quotient (x.mantissa * y.mantissa) (x.exponent + y.exponent)
  round (x.negative != y.negative) n d

/-- The rounded quotient by a number other than zero. -/
def div (x y : Binary64) : Option Binary64 :=
  let (n, d) := quotient x.mantissa (x.exponent - y.exponent)
  round (x.negative != y.negative) n (d * y.mantissa)

/-- `10 ^ k` rounded, for the powers within range. -/
def pow10 (k : Nat) : Binary64 := (ofNat (Nat.pow 10 k)).getD (zero false)

/-! The shortest decimal. -/

/-- A decimal number: `digits · 10 ^ exponent`. -/
structure Decimal where
  digits : Nat
  exponent : Int
  deriving DecidableEq, Repr

/-- Whether a decimal lies among the numbers that round to `m · 2 ^ e`. The ends of that interval
belong to it when the mantissa is even. -/
def readsBack (m : Nat) (e : Int) (c : Decimal) : Bool :=
  -- everything is multiplied by a common denominator, so that only integers are compared
  let tenUp := Nat.pow 10 c.exponent.toNat
  let tenDown := Nat.pow 10 (-c.exponent).toNat
  let twoUp := Nat.pow 2 (e - 2).toNat
  let twoDown := Nat.pow 2 (2 - e).toNat
  let value := c.digits * tenUp * twoDown
  let unit := twoUp * tenDown
  -- below a power of two the neighbour is half as far, except among the smallest numbers
  let low := if m = Nat.pow 2 52 ∧ minExponent < e then 4 * m - 1 else 4 * m - 2
  let high := 4 * m + 2
  if m % 2 = 0 then low * unit ≤ value && value ≤ high * unit
  else low * unit < value && value < high * unit

/-- The two neighbours of `m · 2 ^ e` among the multiples of `10 ^ k`, the nearer one first; the even
one of two that are equally near. -/
def neighbours (m : Nat) (e k : Int) : Decimal × Decimal :=
  let num := m * Nat.pow 2 e.toNat * Nat.pow 10 (-k).toNat
  let den := Nat.pow 2 (-e).toNat * Nat.pow 10 k.toNat
  let below := num / den
  let near := nearest num den
  if near = below then (⟨below, k⟩, ⟨below + 1, k⟩) else (⟨below + 1, k⟩, ⟨below, k⟩)

/-- Number of decimal digits. -/
def digitCount (n : Nat) : Nat := (Nat.toDigits 10 n).length

/-- The position of the leading decimal digit of a positive number: the largest `k` for which
`10 ^ k` does not exceed it. -/
def leadingPosition (m : Nat) (e : Int) : Int :=
  if 0 ≤ e then (digitCount (m * Nat.pow 2 e.toNat) : Int) - 1
  else
    -- multiply by a power of ten that leaves digits before the point
    let shift := (-e).toNat
    (digitCount (m * Nat.pow 10 shift / Nat.pow 2 shift) : Int) - 1 - shift

/-- Tries the grids from coarse to fine; the first decimal that reads back has the fewest digits. -/
def searchShortest (m : Nat) (e top : Int) : Nat → Nat → Decimal
  | 0, _ => ⟨m, 0⟩
  | fuel + 1, places =>
    let (near, far) := neighbours m e (top - places)
    if readsBack m e near && near.digits != 0 then near
    else if readsBack m e far && far.digits != 0 then far
    else searchShortest m e top fuel (places + 1)

/-- A decimal without trailing zeros among its digits. -/
def Decimal.trimmed (c : Decimal) : Nat → Decimal
  | 0 => c
  | fuel + 1 =>
    if c.digits != 0 && c.digits % 10 == 0 then
      Decimal.trimmed ⟨c.digits / 10, c.exponent + 1⟩ fuel
    else c

/-- The decimal with the fewest digits that rounds to a positive number, and the nearest of those. -/
def shortest (x : Binary64) : Decimal :=
  let c := searchShortest x.mantissa x.exponent (leadingPosition x.mantissa x.exponent) 18 0
  c.trimmed (digitCount c.digits)

/-- How a decimal is written: positional notation up to 16 digits before the point and down to
`10 ^ -5`, and an exponent with a sign and two digits at least beyond. A fraction always shows. -/
def text (x : Binary64) : String :=
  let body :=
    if x.isZero then "0.0"
    else
      let c := x.shortest
      let ds := Nat.toDigits 10 c.digits
      -- the number of digits before the point
      let point : Int := ds.length + c.exponent
      if 0 ≤ c.exponent ∧ point ≤ 16 then
        String.ofList (ds ++ List.replicate c.exponent.toNat '0' ++ ['.', '0'])
      else if 0 < point ∧ point ≤ 16 then
        String.ofList (ds.take point.toNat ++ '.' :: ds.drop point.toNat)
      else if -5 < point ∧ point ≤ 0 then
        String.ofList (['0', '.'] ++ List.replicate (-point).toNat '0' ++ ds)
      else
        let e := point - 1
        let power := Nat.toDigits 10 e.natAbs
        let mantissa := if ds.length = 1 then ds else ds.take 1 ++ '.' :: ds.drop 1
        String.ofList (mantissa ++ ['e', if e < 0 then '-' else '+'] ++
          (if power.length < 2 then '0' :: power else power))
  if x.negative then "-" ++ body else body

end Binary64
end FeatureAudit
