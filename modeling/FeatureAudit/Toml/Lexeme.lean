import FeatureAudit.Text.CodeTable
import FeatureAudit.Toml.Basic
import FeatureAudit.Toml.Scalar

/-! Blanks, comments, strings and keys of a TOML document. -/
namespace FeatureAudit.Toml

/-- What is left of a text behind something that was read from its start, if it could be. -/
abbrev Reader (α : Type) := List Char → Option (α × List Char)

def isSpace (c : Char) : Bool := c == ' ' || c == '\t'

def skipSpace (cs : List Char) : List Char := cs.dropWhile isSpace

/-- Characters of a comment. -/
def isCommentChar (c : Char) : Bool := c == '\t' || (32 ≤ c.toNat && c.toNat != 127)

/-- What follows a line end. -/
def afterNewline : List Char → Option (List Char)
  | '\n' :: r => some r
  | '\r' :: '\n' :: r => some r
  | _ => none

/-- What follows the rest of a line, which may hold a comment and end the document. -/
def afterLine (cs : List Char) : Option (List Char) :=
  let ending (r : List Char) : Option (List Char) := if r.isEmpty then some [] else afterNewline r
  match skipSpace cs with
  | '#' :: r => ending (r.dropWhile isCommentChar)
  | r => ending r

/-- What follows blanks, line ends and comments. -/
def skipFiller (comment : Bool) : List Char → List Char
  | [] => []
  | '\n' :: r => skipFiller false r
  | '\r' :: '\n' :: r => skipFiller false r
  | c :: r =>
    if comment then if isCommentChar c then skipFiller true r else c :: r
    else if isSpace c then skipFiller false r
    else if c = '#' then skipFiller true r
    else c :: r

/-! Strings. -/

/-- The character with a code point, which is no surrogate. -/
def scalarChar? (n : Nat) : Option Char := if h : n.isValidChar then some (Char.ofNatAux n h) else none

def codePoint? (digits : List Char) : Option Char :=
  if digits.all isHexDigit then scalarChar? (Text.CodeTable.number digits) else none

/-- The character that a letter behind a backslash stands for. -/
def escaped? : Char → Option Char
  | 'b' => some '\x08'
  | 'f' => some '\x0c'
  | 'n' => some '\n'
  | 'r' => some '\r'
  | 't' => some '\t'
  | '"' => some '"'
  | '\\' => some '\\'
  | _ => none

/-- The character of an escape, its backslash having been read. -/
def readEscape : Reader Char
  | 'u' :: a :: b :: c :: d :: r => (codePoint? [a, b, c, d]).map (·, r)
  | 'U' :: a :: b :: c :: d :: e :: f :: g :: h :: r =>
    (codePoint? [a, b, c, d, e, f, g, h]).map (·, r)
  | c :: r => (escaped? c).map (·, r)
  | [] => none

theorem readEscape_length {s r : List Char} {c : Char} (h : readEscape s = some (c, r)) :
    r.length < s.length := by
  unfold readEscape at h
  split at h <;> simp only [Option.map_eq_some_iff, Prod.mk.injEq, reduceCtorEq] at h
  all_goals
    obtain ⟨_, _, _, rfl⟩ := h
    simp only [List.length_cons]
    omega

/-- A string up to its closing quote. -/
def readBasic (s : List Char) : Option (List Char × List Char) :=
  match s with
  | [] => none
  | '"' :: r => some ([], r)
  | '\\' :: r =>
    match h : readEscape r with
    | none => none
    | some (c, t) =>
      have := readEscape_length h
      (readBasic t).map fun (cs, t) => (c :: cs, t)
  | c :: r => if isCommentChar c then (readBasic r).map fun (cs, t) => (c :: cs, t) else none
termination_by s.length
decreasing_by all_goals (simp_wf <;> omega)

/-- A string up to its closing apostrophe, without escapes. -/
def readLiteral (s : List Char) : Option (List Char × List Char) :=
  let isPlain (c : Char) : Bool := isCommentChar c && c != '\''
  match s.dropWhile isPlain with
  | '\'' :: r => some (s.takeWhile isPlain, r)
  | _ => none

/-- Three quotes of a kind, with up to two more in front of them that belong to the string. -/
def closing (quote : Char) : Reader (List Char) := fun s =>
  let n := min 5 (s.takeWhile (· == quote)).length
  if 3 ≤ n then some (List.replicate (n - 3) quote, s.drop n) else none

/-- A string of several lines up to its closing quotes. A backslash at the end of a line takes the
blanks and line ends behind it away, as long as `joining`. -/
def readLines (joining : Bool) (s : List Char) : Option (List Char × List Char) :=
  let keep (c : Char) : List Char := if joining then [] else [c]
  match s with
  | [] => none
  | '\n' :: r => (readLines joining r).map fun (cs, t) => (keep '\n' ++ cs, t)
  | '\r' :: '\n' :: r => (readLines joining r).map fun (cs, t) => (keep '\n' ++ cs, t)
  | '"' :: r =>
    match closing '"' ('"' :: r) with
    | some answer => some answer
    | none => (readLines false r).map fun (cs, t) => ('"' :: cs, t)
  | '\\' :: r =>
    if (afterNewline (skipSpace r)).isSome then readLines true r
    else
      match h : readEscape r with
      | none => none
      | some (c, t) =>
        have := readEscape_length h
        (readLines false t).map fun (cs, t) => (c :: cs, t)
  | c :: r =>
    if joining && isSpace c then readLines true r
    else if isCommentChar c then (readLines false r).map fun (cs, t) => (c :: cs, t)
    else none
termination_by s.length
decreasing_by all_goals (simp_wf <;> omega)

/-- A string of several lines up to its closing apostrophes, without escapes. -/
def readLiteralLines : List Char → Option (List Char × List Char)
  | [] => none
  | '\n' :: r => (readLiteralLines r).map fun (cs, t) => ('\n' :: cs, t)
  | '\r' :: '\n' :: r => (readLiteralLines r).map fun (cs, t) => ('\n' :: cs, t)
  | '\'' :: r =>
    match closing '\'' ('\'' :: r) with
    | some answer => some answer
    | none => (readLiteralLines r).map fun (cs, t) => ('\'' :: cs, t)
  | c :: r => if isCommentChar c then (readLiteralLines r).map fun (cs, t) => (c :: cs, t) else none

/-- A string of any form. A line end right behind the opening quotes does not count. -/
def readString : Reader String := fun s =>
  let textOf (answer : Option (List Char × List Char)) : Option (String × List Char) :=
    answer.map fun (cs, t) => (String.ofList cs, t)
  let body (r : List Char) : List Char := (afterNewline r).getD r
  match s with
  | '"' :: '"' :: '"' :: r => textOf (readLines false (body r))
  | '"' :: r => textOf (readBasic r)
  | '\'' :: '\'' :: '\'' :: r => textOf (readLiteralLines (body r))
  | '\'' :: r => textOf (readLiteral r)
  | _ => none

/-! Keys. -/

def isBareChar (c : Char) : Bool := c.isAlphanum || c == '-' || c == '_'

/-- One part of a key. -/
def readName : Reader String := fun s =>
  match s with
  | '"' :: r => (readBasic r).map fun (cs, t) => (String.ofList cs, t)
  | '\'' :: r => (readLiteral r).map fun (cs, t) => (String.ofList cs, t)
  | _ =>
    match s.takeWhile isBareChar with
    | [] => none
    | name => some (String.ofList name, s.dropWhile isBareChar)

/-- The parts of a key, with dots and blanks between: those before the last, and the last. -/
def readKey : Nat → Reader (List String × String)
  | 0, _ => none
  | fuel + 1, s => do
    let (name, t) ← readName (skipSpace s)
    match skipSpace t with
    | '.' :: r =>
      let ((path, last), t) ← readKey fuel r
      some ((name :: path, last), t)
    | t => some (([], name), t)

end FeatureAudit.Toml
