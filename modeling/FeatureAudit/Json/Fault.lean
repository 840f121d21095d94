/-! What can be wrong with a JSON text, and the place at which it shows. -/
namespace FeatureAudit.Json

/-- What is wrong with a text, or with the shape of the value it holds. -/
inductive Cause where
  | endInValue | endInObject | endInList | endInString
  | colonExpected | listGoesOn | objectGoesOn | wordExpected | valueExpected
  | badEscape | badNumber | numberOutOfRange | nameExpected
  | loneSurrogate | endInEscape | controlCharacter
  | trailingComma | trailingCharacters | tooDeep
  | missingField (name : String)
  | duplicateField (name : String)
  | unknownVariant (name : String) (known : List String)
  | wrongType (found expected : String)
  | wrongLength (found : Nat) (expected : String)
  deriving DecidableEq, Repr

/-- A list of names in a message: `a`, `a` or `b`, one of `a`, `b`, `c`. -/
def nameList (names : List String) : String :=
  let ticked := names.map fun n => "`" ++ n ++ "`"
  match ticked with
  | [a] => a
  | [a, b] => a ++ " or " ++ b
  | _ => "one of " ++ String.intercalate ", " ticked

def Cause.message : Cause → String
  | .endInValue => "EOF while parsing a value"
  | .endInObject => "EOF while parsing an object"
  | .endInList => "EOF while parsing a list"
  | .endInString => "EOF while parsing a string"
  | .colonExpected => "expected `:`"
  | .listGoesOn => "expected `,` or `]`"
  | .objectGoesOn => "expected `,` or `\x7d`"
  | .wordExpected => "expected ident"
  | .valueExpected => "expected value"
  | .badEscape => "invalid escape"
  | .badNumber => "invalid number"
  | .numberOutOfRange => "number out of range"
  | .nameExpected => "key must be a string"
  | .loneSurrogate => "lone leading surrogate in hex escape"
  | .endInEscape => "unexpected end of hex escape"
  | .controlCharacter => "control character (\\u0000-\\u001F) found while parsing a string"
  | .trailingComma => "trailing comma"
  | .trailingCharacters => "trailing characters"
  | .tooDeep => "recursion limit exceeded"
  | .missingField name => "missing field `" ++ name ++ "`"
  | .duplicateField name => "duplicate field `" ++ name ++ "`"
  | .unknownVariant name known => "unknown variant `" ++ name ++ "`, expected " ++ nameList known
  | .wrongType found expected => "invalid type: " ++ found ++ ", expected " ++ expected
  | .wrongLength found expected => "invalid length " ++ toString found ++ ", expected " ++ expected

/-- A line, counted from one, and the number of bytes before the place on that line. -/
structure Place where
  line : Nat
  column : Nat
  deriving DecidableEq, Repr

/-- The place `bytes` further on in a text. -/
def Place.advance (p : Place) : List Char → Nat → Place
  | [], _ => p
  | c :: r, bytes =>
    if bytes = 0 then p
    else if c = '\n' then Place.advance ⟨p.line + 1, 0⟩ r (bytes - 1)
    else if c.utf8Size ≤ bytes then
      Place.advance ⟨p.line, p.column + c.utf8Size⟩ r (bytes - c.utf8Size)
    else ⟨p.line, p.column + bytes⟩

/-- A fault met while reading: what had not been read then, and how many bytes of that the place
counts as well. A fault of shape is noticed behind the value that has it and is not yet `settled`:
its place is the end of the list or object around it. -/
structure Fault where
  cause : Cause
  rest : List Char
  ahead : Nat
  settled : Bool
  deriving DecidableEq, Repr

/-- A fault just before what is left. -/
def Fault.here (cause : Cause) (rest : List Char) : Fault := ⟨cause, rest, 0, true⟩

/-- A fault shown by the next byte. -/
def Fault.next (cause : Cause) (rest : List Char) : Fault := ⟨cause, rest, 1, true⟩

/-- A fault of shape whose place is still open. -/
def Fault.open (cause : Cause) (rest : List Char) : Fault := ⟨cause, rest, 0, false⟩

/-- Gives an open fault its place, before what `close` leaves of the text. -/
def Fault.settle (close : List Char → List Char) (f : Fault) : Fault :=
  if f.settled then f else .here f.cause (close f.rest)

/-- Number of bytes of a text. -/
def byteCount (cs : List Char) : Nat := cs.foldl (fun n c => n + c.utf8Size) 0

/-- Why a text was refused, and where. -/
structure Error where
  cause : Cause
  place : Place
  deriving DecidableEq, Repr

def Error.ofFault (text : List Char) (f : Fault) : Error :=
  ⟨f.cause, Place.advance ⟨1, 0⟩ text (byteCount text - byteCount f.rest + f.ahead)⟩

def Error.message (e : Error) : String :=
  e.cause.message ++ " at line " ++ toString e.place.line ++ " column " ++ toString e.place.column

/-- A step of reading: a value and what is left of the text. -/
abbrev Reader (α : Type) := List Char → Except Fault (α × List Char)

end FeatureAudit.Json
