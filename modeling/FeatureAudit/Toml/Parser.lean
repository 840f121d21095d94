import FeatureAudit.Toml.Lexeme

/-! TOML documents. Keys have at most 79 parts, and lists and tables between braces nest at most 79
deep. -/
namespace FeatureAudit.Toml

/-- How deep values nest, and how long keys are. -/
def maxDepth : Nat := 79

/-- A key. -/
def readPath : Reader (List String × String) := readKey maxDepth

/-- Characters of a word. A date and a time may have a blank between them. -/
def isWordChar (c : Char) : Bool :=
  c.isAlphanum || c == '+' || c == '-' || c == '.' || c == ':' || c == '_'

/-- A value of one word. -/
def readScalar : Reader Value := fun s =>
  let word := s.takeWhile isWordChar
  let rest := s.dropWhile isWordChar
  match rest with
  | ' ' :: d :: r =>
    if d.isDigit ∧ afterDate word = some [] then
      let time := (d :: r).takeWhile isWordChar
      (scalar? (word ++ ' ' :: time)).map (·, (d :: r).dropWhile isWordChar)
    else (scalar? word).map (·, rest)
  | _ => (scalar? word).map (·, rest)

/-- The values of a list up to its closing bracket, with commas between and maybe behind them. -/
def readItems (value : Reader Value) : Nat → Reader (List Value)
  | 0, _ => none
  | fuel + 1, s =>
    match skipFiller false s with
    | ']' :: r => some ([], r)
    | s => do
      let (v, t) ← value s
      match skipFiller false t with
      | ',' :: r =>
        let (vs, t) ← readItems value fuel r
        some (v :: vs, t)
      | ']' :: r => some ([v], r)
      | _ => none

/-- A key and its value. -/
def readPair (value : Reader Value) : Reader ((List String × String) × Value) := fun s => do
  let (key, t) ← readPath s
  match t with
  | '=' :: r =>
    let (v, t) ← value (skipSpace r)
    some ((key, v), t)
  | _ => none

/-- The members of a table between braces, with commas between them. -/
def readPairs (value : Reader Value) : Nat → Table → Reader Table
  | 0, _, _ => none
  | fuel + 1, members, s => do
    let (((path, name), v), t) ← readPair value s
    let members ← members.assign path name v .braces
    match skipSpace t with
    | ',' :: r => readPairs value fuel members r
    | '\x7d' :: r => some (members, r)
    | _ => none

/-- A value; `depth` is how deep lists and tables may nest in it. -/
def readValue (depth : Nat) (s : List Char) : Option (Value × List Char) :=
  match s, depth with
  | '"' :: r, _ => (readString ('"' :: r)).map fun (x, t) => (.text x, t)
  | '\'' :: r, _ => (readString ('\'' :: r)).map fun (x, t) => (.text x, t)
  | '[' :: _, 0 => none
  | '[' :: r, depth + 1 => (readItems (readValue depth) s.length r).map fun (vs, t) => (.list vs, t)
  | '\x7b' :: _, 0 => none
  | '\x7b' :: r, depth + 1 =>
    match skipSpace r with
    | '\x7d' :: t => some (.table .braces [], t)
    | r => (readPairs (readValue depth) s.length [] r).map fun (ms, t) => (.table .braces ms, t)
  | s, _ => readScalar s

/-- A header: whether it is that of a list of tables, and its key. -/
def readHeader : Reader (Bool × List String × String) := fun s =>
  match s with
  | '[' :: r => do
    match ← readPath r with
    | ((path, name), ']' :: ']' :: t) => some ((true, path, name), t)
    | _ => none
  | r => do
    match ← readPath r with
    | ((path, name), ']' :: t) => some ((false, path, name), t)
    | _ => none

/-- The tables that the lines of a document build; `current` is the path of the last header. -/
def readDocument : Nat → List String → Table → List Char → Option Table
  | 0, _, _, _ => none
  | fuel + 1, current, t, s =>
    match skipSpace s with
    | [] => some t
    | '#' :: r => do readDocument fuel current t (← afterLine ('#' :: r))
    | '\n' :: r => readDocument fuel current t r
    | '\r' :: '\n' :: r => readDocument fuel current t r
    | '[' :: r => do
      let ((isList, path, name), r) ← readHeader r
      let r ← afterLine r
      let t ← if isList then t.openNext path name else t.openTable path name
      readDocument fuel (path ++ [name]) t r
    | r => do
      let (((path, name), v), r) ← readPair (readValue maxDepth) r
      let r ← afterLine r
      let t ← t.within false current (Table.assign path name v) .header
      readDocument fuel current t r

/-- The table that a document holds. A byte order mark in front does not count. -/
def parse (text : String) : Option Table :=
  let cs := text.toList
  readDocument (cs.length + 1) [] []
    (match cs with
      | c :: r => if c.toNat = 0xFEFF then r else c :: r
      | [] => [])

end FeatureAudit.Toml
