import FeatureAudit.Idna.DirectionTable
import FeatureAudit.Idna.JoiningTable
import FeatureAudit.Idna.Mapping
import FeatureAudit.Idna.Normalization
import FeatureAudit.Idna.Punycode
import FeatureAudit.Text.Blank

/-! Domain names beyond ASCII, spelled in ASCII. A name is mapped and normalized as a whole; each of
its labels has to be in order, and one that is not ASCII is spelled in Punycode. -/
namespace FeatureAudit.Idna

/-- Characters of ASCII that no domain name may hold. -/
def isForbidden (c : Char) : Bool :=
  c.toNat ≤ 32 || c.toNat == 127 || c == '%' || c == '#' || c == '/' || c == ':' || c == '<' ||
    c == '>' || c == '?' || c == '@' || c == '[' || c == '\\' || c == ']' || c == '^' || c == '|'

/-! Direction. -/

inductive Direction where
  | left
  | right
  | arabicNumber
  | europeanNumber
  | mark
  | neutral
  deriving DecidableEq

def direction (c : Char) : Direction :=
  if c.toNat < 128 then
    if c.isAlpha then .left else if c.isDigit then .europeanNumber else .neutral
  else if Text.CodeTable.contains rightToLeftRanges c then .right
  else if Text.CodeTable.contains arabicNumberRanges c then .arabicNumber
  else if Text.CodeTable.contains europeanNumberRanges c then .europeanNumber
  else if Text.CodeTable.contains markRanges c then .mark
  else if Text.CodeTable.contains neutralRanges c then .neutral
  else .left

/-- Whether a label can stand in a name that is written from right to left in part. -/
def directionHolds (label : List Char) : Bool :=
  let ds := label.map direction
  let last := (ds.reverse.dropWhile (· == .mark)).head?
  match ds with
  | [] => true
  | .right :: _ =>
    !ds.contains .left && !(ds.contains .europeanNumber && ds.contains .arabicNumber) &&
      (last == some .right || last == some .europeanNumber || last == some .arabicNumber)
  | .left :: _ =>
    !ds.contains .right && !ds.contains .arabicNumber &&
      (last == some .left || last == some .europeanNumber)
  | _ => false

/-- Whether a label calls for the rule of direction. -/
def isBidirectional (label : List Char) : Bool :=
  label.any fun c => direction c == .right || direction c == .arabicNumber

/-! Joiners. -/

/-- Whether the joiners of a label stand where they have an effect: behind a virama, or between
letters that join. -/
def joinersHold (before : List Char) : List Char → Bool
  | [] => true
  | c :: r =>
    let behindVirama := (before.head?.map fun b => combiningClass b == 9).getD false
    let meets (ranges : List (Nat × Nat)) (cs : List Char) : Bool :=
      (((cs.dropWhile (Text.CodeTable.contains transparentRanges)).head?).map fun d =>
        Text.CodeTable.contains joinsBothRanges d || Text.CodeTable.contains ranges d).getD false
    let here :=
      if c.toNat == 0x200C then
        behindVirama || (meets joinsLeftRanges before && meets joinsRightRanges r)
      else if c.toNat == 0x200D then behindVirama
      else true
    here && joinersHold (c :: before) r

/-! Labels. -/

/-- Whether a normalized label is in order. -/
def isValidLabel (label : List Char) : Bool :=
  label.all (fun c => fate c == .keep && !isForbidden c) &&
    normalize label == label &&
    !((label.head?.map fun c => Text.CodeTable.contains combiningMarkRanges c).getD false) &&
    joinersHold [] label

/-- A label with the characters that it spells. -/
def readLabel? (label : List Char) : Option (List Char) :=
  match label with
  | 'x' :: 'n' :: '-' :: '-' :: r =>
    match Punycode.decode? r with
    | some cs => if cs.all (·.toNat < 128) then none else some cs
    | none => none
  | _ => some label

/-- A label spelled in ASCII. -/
def writeLabel (label : List Char) : List Char :=
  if label.all (·.toNat < 128) then label
  else 'x' :: 'n' :: '-' :: '-' :: Punycode.encode label

/-- A domain name in ASCII, unless a part of it is not in order. -/
def toAscii? (name : List Char) : Option (List Char) := do
  let labels ← (Text.splitWhere (· == '.') (normalize (← map? name))).mapM readLabel?
  if labels.all isValidLabel &&
      (!labels.any isBidirectional || labels.all directionHolds) then
    some ((labels.map writeLabel).intersperse ['.']).flatten
  else none

end FeatureAudit.Idna
