import FeatureAudit.Text.Blank
import FeatureAudit.Text.CodeTable
import FeatureAudit.Text.Quoted

/-! Numeric host addresses, read and written. An address of version 4 has up to four numbers, in
decimal, octal or hexadecimal, of which the last fills what the others leave; one of version 6 has
eight groups of hexadecimal digits, of which a run of zeros may be left out. -/
namespace FeatureAudit.Url

/-- A number of an address of version 4: decimal, octal after a zero, or hexadecimal after `0x`. -/
def addressNumber? (cs : List Char) : Option Nat :=
  let hexadecimal (ds : List Char) : Option Nat :=
    if ds.all fun c => c.isDigit || ('a' ≤ c && c ≤ 'f') || ('A' ≤ c && c ≤ 'F') then
      some (Text.CodeTable.number ds)
    else none
  let positional (base : Nat) (ds : List Char) : Option Nat :=
    if ds.all fun c => c.isDigit && c.toNat - 48 < base then
      some (ds.foldl (fun n c => base * n + (c.toNat - 48)) 0)
    else none
  match cs with
  | [] => none
  | '0' :: 'x' :: r => hexadecimal r
  | '0' :: 'X' :: r => hexadecimal r
  | '0' :: c :: r => positional 8 (c :: r)
  | _ => positional 10 cs

/-- The parts of a dotted name, without an empty last one. -/
def dottedParts (cs : List Char) : List (List Char) :=
  let parts := Text.splitWhere (· == '.') cs
  if parts.length > 1 && parts.getLastD [] == [] then parts.dropLast else parts

/-- Whether the last part of a dotted name is a number. -/
def endsInNumber (cs : List Char) : Bool :=
  let parts := Text.splitWhere (· == '.') cs
  let last? : Option (List Char) :=
    if parts.getLastD [] == [] then parts.dropLast.getLast? else parts.getLast?
  match last? with
  | none => false
  | some last => (!last.isEmpty && last.all Char.isDigit) || (addressNumber? last).isSome

/-- An address of version 4. -/
def ipv4? (cs : List Char) : Option Nat := do
  let numbers ← (dottedParts cs).mapM addressNumber?
  let last ← numbers.getLast?
  let front := numbers.dropLast
  if 4 < numbers.length ∨ front.any (255 < ·) ∨ Nat.pow 256 (4 - front.length) ≤ last then none
  else some (front.zipIdx.foldl (fun n xi => n + xi.1 * Nat.pow 256 (3 - xi.2)) last)

def ipv4Text (n : Nat) : List Char :=
  let part (k : Nat) : List Char := Nat.toDigits 10 (n / Nat.pow 256 k % 256)
  part 3 ++ '.' :: part 2 ++ '.' :: part 1 ++ '.' :: part 0

/-- The two groups that an address of version 4 takes at the end of one of version 6. -/
def embedded? (cs : List Char) : Option (List Nat) := do
  let part? (ds : List Char) : Option Nat :=
    if ds.isEmpty || !ds.all Char.isDigit || (ds.length > 1 && ds.head? == some '0') then none
    else
      let n := ds.foldl (fun n c => 10 * n + (c.toNat - 48)) 0
      if n ≤ 255 then some n else none
  match ← (Text.splitWhere (· == '.') cs).mapM part? with
  | [a, b, c, d] => some [256 * a + b, 256 * c + d]
  | _ => none

def group? (cs : List Char) : Option (List Nat) :=
  if cs.isEmpty || 4 < cs.length ||
      !cs.all fun c => c.isDigit || ('a' ≤ c && c ≤ 'f') || ('A' ≤ c && c ≤ 'F') then none
  else some [Text.CodeTable.number cs]

/-- Groups separated by colons; the last may be an address of version 4 if it ends the whole. -/
def groups? (atEnd : Bool) (cs : List Char) : Option (List Nat) := do
  let parts := Text.splitWhere (· == ':') cs
  let front ← parts.dropLast.mapM group?
  let last := parts.getLastD []
  let tail ← if atEnd && last.contains '.' then embedded? last else group? last
  some (front.flatten ++ tail)

/-- A text cut at its first double colon. -/
def cutDoubleColon : List Char → Option (List Char × List Char)
  | ':' :: ':' :: r => some ([], r)
  | c :: r => (cutDoubleColon r).map fun (a, b) => (c :: a, b)
  | [] => none

/-- An address of version 6, as its eight groups. -/
def ipv6? (cs : List Char) : Option (List Nat) := do
  let side (atEnd : Bool) (part : List Char) : Option (List Nat) :=
    if part.isEmpty then some [] else groups? atEnd part
  match cutDoubleColon cs with
  | none =>
    let gs ← groups? true cs
    if gs.length = 8 then some gs else none
  | some (before, after) =>
    let a ← side false before
    let b ← side true after
    if a.length + b.length ≤ 7 then
      some (a ++ List.replicate (8 - a.length - b.length) 0 ++ b)
    else none

/-- The length of the run of zeros at each position. -/
def zeroRuns : List Nat → List Nat
  | [] => []
  | g :: gs =>
    let rest := zeroRuns gs
    (if g = 0 then rest.headD 0 + 1 else 0) :: rest

/-- Groups of an address of version 6; the first of the longest runs of two zeros or more is left
out. -/
def ipv6Text (gs : List Nat) : List Char :=
  let runs := zeroRuns gs
  let longest := runs.foldl max 0
  let joined (part : List Nat) : List Char :=
    (part.map Text.hexDigits).intersperse [':'] |>.flatten
  if longest < 2 then joined gs
  else
    let start := runs.idxOf longest
    joined (gs.take start) ++ ':' :: ':' :: joined (gs.drop (start + longest))

end FeatureAudit.Url
