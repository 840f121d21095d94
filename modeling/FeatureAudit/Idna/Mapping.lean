import FeatureAudit.Idna.MappingTable

/-! Mapping: the characters of a domain name before it is normalized. Letters become small, variants
of a character become that character, and characters without a meaning of their own are left out. -/
namespace FeatureAudit.Idna

/-- What becomes of a character. -/
inductive Fate where
  | keep
  | replace (others : List Char)
  | refuse
  deriving DecidableEq, Repr

/-- The replacement of a character in a run of replacements. -/
def runReplacement? (n : Nat) (row : List Nat) : Option Nat :=
  match row with
  | [lo, hi, step, target, targetStep] =>
    if lo ≤ n && n ≤ hi && (n - lo) % step == 0 then some (target + (n - lo) / step * targetStep)
    else none
  | _ => none

/-- The replacement of a character by one that stands for it alone. -/
def replacement? (rows : List (List Nat)) (n : Nat) : Option (List Char) :=
  match rows.find? (·.head? == some n) with
  | some row => some ((row.drop 1).map Char.ofNat)
  | none => none

def fate (c : Char) : Fate :=
  let n := c.toNat
  if n < 128 then if c.isUpper then .replace [c.toLower] else .keep
  else if Text.CodeTable.contains ignoredRanges c then .replace []
  else if Text.CodeTable.contains refusedRanges c then .refuse
  else match mappedRuns.findSome? (runReplacement? n) with
    | some m => .replace [Char.ofNat m]
    | none =>
      match replacement? mappedSingles n with
      | some cs => .replace cs
      | none =>
        match replacement? mappedTexts n with
        | some cs => .replace cs
        | none => .keep

/-- A text with every character mapped, unless one is refused. -/
def map? (cs : List Char) : Option (List Char) :=
  (cs.mapM fun c =>
    match fate c with
    | .keep => some [c]
    | .replace ds => some ds
    | .refuse => none).map List.flatten

end FeatureAudit.Idna
