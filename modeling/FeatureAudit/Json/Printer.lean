import FeatureAudit.Json.Basic
import FeatureAudit.Text.Quoted

/-! The text of a JSON value: on one line without blanks, or indented by two blanks a level. -/
namespace FeatureAudit.Json

/-- How a character stands inside a string: only the quote, the backslash and the controls below the
space are escaped. -/
def writeChar (c : Char) : List Char :=
  if c == '"' then ['\\', '"']
  else if c == '\\' then ['\\', '\\']
  else if c.toNat == 8 then ['\\', 'b']
  else if c.toNat == 12 then ['\\', 'f']
  else if c == '\n' then ['\\', 'n']
  else if c == '\r' then ['\\', 'r']
  else if c == '\t' then ['\\', 't']
  else if c.toNat < 32 then
    ['\\', 'u', '0', '0', Text.hexDigit (c.toNat / 16), Text.hexDigit (c.toNat % 16)]
  else [c]

def writeText (s : String) : List Char := '"' :: s.toList.flatMap writeChar ++ ['"']

def writeNumber : Number → List Char
  | .int n => (if n < 0 then ['-'] else []) ++ Nat.toDigits 10 n.natAbs
  | .float x => x.text.toList

mutual

/-- On one line, without blanks. -/
def write : Json → List Char
  | .null => ['n', 'u', 'l', 'l']
  | .bool b => if b then ['t', 'r', 'u', 'e'] else ['f', 'a', 'l', 's', 'e']
  | .number n => writeNumber n
  | .text s => writeText s
  | .list xs => '[' :: writeItems xs ++ [']']
  | .object ms => '\x7b' :: writeMembers ms ++ ['\x7d']

def writeItems : List Json → List Char
  | [] => []
  | [x] => write x
  | x :: y :: r => write x ++ ',' :: writeItems (y :: r)

def writeMembers : Members → List Char
  | [] => []
  | [(k, v)] => writeText k ++ ':' :: write v
  | (k, v) :: m :: r => writeText k ++ ':' :: write v ++ ',' :: writeMembers (m :: r)

end

/-- The start of a new line at a level of nesting. -/
def newline (level : Nat) : List Char := '\n' :: List.replicate (2 * level) ' '

mutual

/-- With every item and member on a line of its own; `level` is the nesting of the value. -/
def indent (level : Nat) : Json → List Char
  | .list (x :: xs) => '[' :: indentItems (level + 1) (x :: xs) ++ newline level ++ [']']
  | .object (m :: ms) =>
    '\x7b' :: indentMembers (level + 1) (m :: ms) ++ newline level ++ ['\x7d']
  | .null => ['n', 'u', 'l', 'l']
  | .bool b => if b then ['t', 'r', 'u', 'e'] else ['f', 'a', 'l', 's', 'e']
  | .number n => writeNumber n
  | .text s => writeText s
  | .list [] => ['[', ']']
  | .object [] => ['\x7b', '\x7d']

def indentItems (level : Nat) : List Json → List Char
  | [] => []
  | [x] => newline level ++ indent level x
  | x :: y :: r => newline level ++ indent level x ++ ',' :: indentItems level (y :: r)

def indentMembers (level : Nat) : Members → List Char
  | [] => []
  | [(k, v)] => newline level ++ writeText k ++ ':' :: ' ' :: indent level v
  | (k, v) :: m :: r =>
    newline level ++ writeText k ++ ':' :: ' ' :: indent level v ++ ',' :: indentMembers level (m :: r)

end

/-- The text of a value on one line. -/
def compact (j : Json) : String := String.ofList (write j)

/-- The text of a value over several lines. -/
def pretty (j : Json) : String := String.ofList (indent 0 j)

end FeatureAudit.Json
