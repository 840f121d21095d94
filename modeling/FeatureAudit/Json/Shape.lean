import FeatureAudit.Json.Fault
import FeatureAudit.Json.Reader

/-! Values at hand that have to be of a known shape. -/
namespace FeatureAudit.Json

/-- A text. -/
def asText (j : Json) : Except Cause String :=
  match j with
  | .text s => .ok s
  | _ => .error (.wrongType (describe j) "a string")

/-- A text or nothing. -/
def asOptionalText (j : Json) : Except Cause (Option String) :=
  match j with
  | .null => .ok none
  | _ => (asText j).map some

/-- A list of texts. -/
def asTexts (j : Json) : Except Cause (List String) :=
  match j with
  | .list xs => xs.mapM asText
  | _ => .error (.wrongType (describe j) "a sequence")

/-- Takes up the value of a member if it is the one of a given name, which must not have been given
before. -/
def takeUp (wanted : String) (shape : Json → Except Cause α) (given : Option α)
    (member : String × Json) : Except Cause (Option α) :=
  if member.1 = wanted then
    match given with
    | some _ => .error (.duplicateField wanted)
    | none => (shape member.2).map some
  else .ok given

/-- The value of a member that has to be there. -/
def demand (wanted : String) : Option α → Except Cause α
  | some x => .ok x
  | none => .error (.missingField wanted)

/-- The length of a list of which all items have been read already. -/
def tooLong (found read : Nat) : Cause :=
  .wrongLength found (if read = 1 then "1 element in sequence"
    else toString read ++ " elements in sequence")

end FeatureAudit.Json
