import FeatureAudit.Json.Lexeme
import FeatureAudit.Text.Quoted

/-! Reading JSON. Lists and objects are read member by member, so that a value of a known shape can
be read straight from the text and the first fault on the way is the one reported. Lists and objects
nest at most 127 deep where they are read, and as deep as they like where they are skipped. -/
namespace FeatureAudit.Json

/-- How deep lists and objects may nest. -/
def maxDepth : Nat := 127

/-! The punctuation of lists and objects. -/

/-- The start of the next item of a list, or `none` at the closing bracket, which is not read. -/
def nextItem (first : Bool) (s : List Char) : Except Fault (Option (List Char)) :=
  match skipSpace s with
  | [] => .error (.here .endInList [])
  | ']' :: _ => .ok none
  | c :: r =>
    if first then .ok (some (c :: r))
    else if c = ',' then
      match skipSpace r with
      | [] => .error (.here .endInValue [])
      | ']' :: t => .error (.next .trailingComma (']' :: t))
      | t => .ok (some t)
    else .error (.next .listGoesOn (c :: r))

/-- The text behind the opening quote of the next name of an object, or `none` at the closing brace,
which is not read. -/
def nextName (first : Bool) (s : List Char) : Except Fault (Option (List Char)) :=
  match skipSpace s with
  | [] => .error (.here .endInObject [])
  | '\x7d' :: _ => .ok none
  | c :: r =>
    if first then
      if c = '"' then .ok (some r) else .error (.next .nameExpected (c :: r))
    else if c = ',' then
      match skipSpace r with
      | [] => .error (.here .endInValue [])
      | '"' :: t => .ok (some t)
      | '\x7d' :: t => .error (.next .trailingComma ('\x7d' :: t))
      | t => .error (.next .nameExpected t)
    else .error (.next .objectGoesOn (c :: r))

/-- Passes over the colon behind a name. -/
def colon (s : List Char) : Except Fault (List Char) :=
  match skipSpace s with
  | [] => .error (.here .endInObject [])
  | ':' :: r => .ok r
  | r => .error (.next .colonExpected r)

/-- Passes over a closing bracket. -/
def endList (s : List Char) : Except Fault (List Char) :=
  match skipSpace s with
  | [] => .error (.here .endInList [])
  | ']' :: r => .ok r
  | ',' :: r =>
    match skipSpace r with
    | ']' :: t => .error (.next .trailingComma (']' :: t))
    | t => .error (.next .trailingCharacters t)
  | r => .error (.next .trailingCharacters r)

/-- Passes over a closing brace. -/
def endObject (s : List Char) : Except Fault (List Char) :=
  match skipSpace s with
  | [] => .error (.here .endInObject [])
  | '\x7d' :: r => .ok r
  | ',' :: r => .error (.next .trailingComma (',' :: r))
  | r => .error (.next .trailingCharacters r)

/-- Where a list counts as ended for a fault of shape inside it. -/
def closeList (s : List Char) : List Char :=
  match skipSpace s with
  | ']' :: r => r
  | ',' :: r => skipSpace r
  | r => r

/-- Where an object counts as ended for a fault of shape inside it. -/
def closeObject (s : List Char) : List Char :=
  match skipSpace s with
  | '\x7d' :: r => r
  | r => r

/-- The items of a list up to its closing bracket, which is not read. -/
def items (item : Reader α) : Nat → Bool → Reader (List α)
  | 0, _, s => .error (.here .endInList s)
  | fuel + 1, first, s => do
    match ← nextItem first s with
    | none => .ok ([], s)
    | some t =>
      let (x, t) ← item t
      let (xs, t) ← items item fuel false t
      .ok (x :: xs, t)

/-- The members of an object up to its closing brace, which is not read. `member` is given what has
been gathered so far and the name, and starts before the colon. -/
def members (member : σ → String → Reader σ) : Nat → Bool → σ → Reader σ
  | 0, _, _, s => .error (.here .endInObject s)
  | fuel + 1, first, gathered, s => do
    match ← nextName first s with
    | none => .ok (gathered, s)
    | some t =>
      let (name, t) ← readString t
      let (gathered, t) ← member gathered name t
      members member fuel false gathered t

/-- A list, its opening bracket having been read. -/
def listOf (body : Reader α) : Reader α := fun s =>
  match body s with
  | .error f => .error (f.settle closeList)
  | .ok (x, t) => do .ok (x, ← endList t)

/-- An object, its opening brace having been read. -/
def objectOf (body : Reader α) : Reader α := fun s =>
  match body s with
  | .error f => .error (f.settle closeObject)
  | .ok (x, t) => do .ok (x, ← endObject t)

/-! Values of any shape. -/

/-- Reads a value. `gather` says what becomes of the members of an object as they were written. -/
def readValue (gather : Members → Members) (depth : Nat) (s : List Char) :
    Except Fault (Json × List Char) :=
  match skipSpace s with
  | [] => .error (.here .endInValue [])
  | 'n' :: r => do .ok (.null, (← word ['u', 'l', 'l'] r).2)
  | 't' :: r => do .ok (.bool true, (← word ['r', 'u', 'e'] r).2)
  | 'f' :: r => do .ok (.bool false, (← word ['a', 'l', 's', 'e'] r).2)
  | '-' :: r => do
    let (n, t) ← readNumber true r
    .ok (.number n, t)
  | '"' :: r => do
    let (x, t) ← readString r
    .ok (.text x, t)
  | '[' :: r =>
    match depth with
    | 0 => .error (.next .tooDeep ('[' :: r))
    | depth + 1 => do
      let (xs, t) ← listOf (items (readValue gather depth) (r.length + 1) true) r
      .ok (.list xs, t)
  | '\x7b' :: r =>
    match depth with
    | 0 => .error (.next .tooDeep ('\x7b' :: r))
    | depth + 1 => do
      let member : Members → String → Reader Members := fun ms name s => do
        let (v, t) ← readValue gather depth (← colon s)
        .ok (ms ++ [(name, v)], t)
      let (ms, t) ← objectOf (members member (r.length + 1) true []) r
      .ok (.object (gather ms), t)
  | c :: r =>
    if c.isDigit then do
      let (n, t) ← readNumber false (c :: r)
      .ok (.number n, t)
    else .error (.next .valueExpected (c :: r))

/-- Reads a text that holds one value and nothing else. -/
def readAll (reader : Reader α) (text : String) : Except Error α :=
  let cs := text.toList
  let whole : Except Fault α := do
    let (x, t) ← reader cs
    match skipSpace t with
    | [] => .ok x
    | t => .error (.next .trailingCharacters t)
  whole.mapError (Error.ofFault cs)

/-- The value that a text holds. -/
def parse (text : String) : Except Error Json := readAll (readValue ofWritten maxDepth) text

/-! Skipping values. -/

/-- What has been opened and not closed yet. -/
inductive Bracket where
  | list
  | object
  deriving DecidableEq

/-- Passes over values and closing brackets. `opened` holds the open brackets, innermost first;
`value` tells whether a value comes next, else it is what may follow one. `fresh` tells that a
bracket has just been opened. -/
def skipOpen : Nat → List Bracket → (value fresh : Bool) → List Char → Except Fault (List Char)
  | 0, _, _, _, s => .error (.here .endInValue s)
  | fuel + 1, opened, true, _, s =>
    let after (t : List Char) : Except Fault (List Char) :=
      if opened.isEmpty then .ok t else skipOpen fuel opened false false t
    match skipSpace s with
    | [] => .error (.here .endInValue [])
    | 'n' :: r => do after (← word ['u', 'l', 'l'] r).2
    | 't' :: r => do after (← word ['r', 'u', 'e'] r).2
    | 'f' :: r => do after (← word ['a', 'l', 's', 'e'] r).2
    | '-' :: r => do after (← skipNumber r)
    | '"' :: r => do after (← skipString r)
    | '[' :: r => skipOpen fuel (.list :: opened) false true r
    | '\x7b' :: r => skipOpen fuel (.object :: opened) false true r
    | c :: r =>
      if c.isDigit then do after (← skipNumber (c :: r))
      else .error (.next .valueExpected (c :: r))
  | _ + 1, [], false, _, s => .ok s
  | fuel + 1, b :: opened, false, fresh, s =>
    let name (t : List Char) : Except Fault (List Char) :=
      match b with
      | .list => skipOpen fuel (b :: opened) true false t
      | .object =>
        match skipSpace t with
        | [] => .error (.here .endInObject [])
        | '"' :: r => do skipOpen fuel (b :: opened) true false (← colon (← skipString r))
        | r => .error (.next .nameExpected r)
    let closed (t : List Char) : Except Fault (List Char) :=
      if opened.isEmpty then .ok t else skipOpen fuel opened false false t
    match skipSpace s, b with
    | [], .list => .error (.here .endInList [])
    | [], .object => .error (.here .endInObject [])
    | ']' :: r, .list => closed r
    | '\x7d' :: r, .object => closed r
    | c :: r, _ =>
      if c = ',' ∧ !fresh then name r
      else if fresh then name (c :: r)
      else .error (.next (match b with | .list => .listGoesOn | .object => .objectGoesOn) (c :: r))

/-- Passes over a value of any shape and depth. -/
def skipValue (s : List Char) : Except Fault (List Char) :=
  skipOpen (2 * s.length + 2) [] true false s

/-! Values of a known shape. -/

/-- What a number is called in a message. -/
def describeNumber : Number → String
  | .int n => "integer `" ++ (if n < 0 then "-" else "") ++ String.ofList (Nat.toDigits 10 n.natAbs) ++ "`"
  | .float x => "floating point `" ++ x.text ++ "`"

/-- What a value is called in a message. -/
def describe : Json → String
  | .null => "null"
  | .bool b => "boolean `" ++ (if b then "true" else "false") ++ "`"
  | .number n => describeNumber n
  | .text s => "string " ++ Text.quoted s
  | .list _ => "sequence"
  | .object _ => "map"

/-- The fault of a value that is not of the expected shape. Scalars are read first, lists and objects
are left. -/
def wrongShape (expected : String) (s : List Char) : Fault :=
  match skipSpace s with
  | '[' :: r => .here (.wrongType "sequence" expected) ('[' :: r)
  | '\x7b' :: r => .here (.wrongType "map" expected) ('\x7b' :: r)
  | t =>
    match readValue id 0 t with
    | .ok (j, r) => .here (.wrongType (describe j) expected) r
    | .error f => f

/-- A string where one is expected. -/
def expectString (expected : String) : Reader String := fun s =>
  match skipSpace s with
  | '"' :: r => readString r
  | _ => .error (wrongShape expected s)

/-- Nothing, or a value. -/
def optional (reader : Reader α) : Reader (Option α) := fun s =>
  match skipSpace s with
  | 'n' :: r => do .ok (none, (← word ['u', 'l', 'l'] r).2)
  | _ => do
    let (x, t) ← reader s
    .ok (some x, t)

/-- A list of values of one shape. -/
def sequence (item : Nat → Reader α) (depth : Nat) : Reader (List α) := fun s =>
  match skipSpace s with
  | '[' :: r =>
    match depth with
    | 0 => .error (.next .tooDeep ('[' :: r))
    | depth + 1 => listOf (items (item depth) (r.length + 1) true) r
  | _ => .error (wrongShape "a sequence" s)

/-- A structure: an object with known members, or a list of their values in order. -/
def record (expected : String) (fromList fromObject : Nat → Reader α) (depth : Nat) : Reader α :=
  fun s =>
    match skipSpace s with
    | '[' :: r =>
      match depth with
      | 0 => .error (.next .tooDeep ('[' :: r))
      | depth + 1 => listOf (fromList depth) r
    | '\x7b' :: r =>
      match depth with
      | 0 => .error (.next .tooDeep ('\x7b' :: r))
      | depth + 1 => objectOf (fromObject depth) r
    | _ => .error (wrongShape expected s)

/-- The next value of a structure that is written as a list, if there is one. -/
def element (first : Bool) (reader : Reader α) : Reader (Option α) := fun s => do
  match ← nextItem first s with
  | none => .ok (none, s)
  | some t =>
    let (x, t) ← reader t
    .ok (some x, t)

/-- The value of a member that must not have been given before. -/
def onlyOnce (name : String) (given : Option α) (reader : Reader α) : Reader (Option α) := fun s =>
  match given with
  | some _ => .error (.open (.duplicateField name) s)
  | none => do
    let (x, t) ← reader (← colon s)
    .ok (some x, t)

/-- Passes over the value of a member that is not known. -/
def unknownMember (gathered : σ) : Reader σ := fun s => do
  .ok (gathered, ← skipValue (← colon s))

/-- An object of any shape. -/
def anyObject (depth : Nat) : Reader Members := fun s =>
  match skipSpace s with
  | '\x7b' :: _ => do
    match ← readValue ofWritten depth s with
    | (.object ms, t) => .ok (ms, t)
    | (_, t) => .ok ([], t)
  | _ => .error (wrongShape "a map" s)

/-- A name out of a fixed set. -/
def variantName (known : List (String × α)) : Reader α := fun s => do
  let (name, t) ← expectString "variant identifier" s
  match known.lookup name with
  | some x => .ok (x, t)
  | none => .error (.here (.unknownVariant name (known.map Prod.fst)) t)

/-- A name out of a fixed set, alone or as the only member of an object, with null as its value. -/
def variant (known : List (String × α)) (depth : Nat) : Reader α := fun s =>
  match skipSpace s with
  | [] => .error (.here .endInValue [])
  | '"' :: r => variantName known ('"' :: r)
  | '\x7b' :: r =>
    match depth with
    | 0 => .error (.next .tooDeep ('\x7b' :: r))
    | _ + 1 => do
      let (x, t) ← variantName known r
      let t ← colon t
      match skipSpace t with
      | 'n' :: t =>
        let (_, t) ← word ['u', 'l', 'l'] t
        match skipSpace t with
        | [] => .error (.here .endInObject [])
        | '\x7d' :: t => .ok (x, t)
        | t => .error (.here .valueExpected t)
      | _ => .error (wrongShape "unit" t)
  | r => .error (.next .valueExpected r)

/-- A value of one of several shapes, told apart by its member `type`: the shape, and the value's
other members as they were written. In a list the first item takes the place of that member. -/
def tagged (expected : String) (known : List (String × α)) (depth : Nat) : Reader (α × Json) :=
  fun s =>
    match skipSpace s with
    | '[' :: r =>
      match depth with
      | 0 => .error (.next .tooDeep ('[' :: r))
      | depth + 1 =>
        let body : Reader (α × Json) := fun s => do
          match ← nextItem true s with
          | none => .error (.open (.missingField "type") s)
          | some t =>
            let (x, t) ← variantName known t
            let (xs, t) ← items (readValue id depth) (t.length + 1) false t
            .ok ((x, .list xs), t)
        listOf body r
    | '\x7b' :: r =>
      match depth with
      | 0 => .error (.next .tooDeep ('\x7b' :: r))
      | depth + 1 =>
        let member : Option α × Members → String → Reader (Option α × Members) :=
          fun (tag, ms) name s =>
            if name = "type" then do
              let (tag, t) ← onlyOnce "type" tag (variantName known) s
              .ok ((tag, ms), t)
            else do
              let (v, t) ← readValue id depth (← colon s)
              .ok ((tag, ms ++ [(name, v)]), t)
        let body : Reader (α × Json) := fun s => do
          match ← members member (r.length + 1) true (none, []) s with
          | ((none, _), t) => .error (.open (.missingField "type") t)
          | ((some x, ms), t) => .ok ((x, .object ms), t)
        objectOf body r
    | _ => .error (wrongShape expected s)

end FeatureAudit.Json
