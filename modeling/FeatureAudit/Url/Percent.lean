import FeatureAudit.Text.CodeTable
import FeatureAudit.Text.Quoted

/-! Percent-encoding: a byte as a percent sign and two hexadecimal digits. -/
namespace FeatureAudit.Url.Percent

/-- A set of characters that are encoded; characters beyond ASCII always are. -/
abbrev CharSet := Char → Bool

/-- Controls, the delete character among them. -/
def controls : CharSet := fun c => c.toNat < 32 || c.toNat == 127

def fragment : CharSet := fun c => controls c || c == ' ' || c == '"' || c == '<' || c == '>' ||
  c.toNat == 0x60

def query : CharSet := fun c => controls c || c == ' ' || c == '"' || c == '#' || c == '<' || c == '>'

/-- The query of a scheme with a fixed meaning. -/
def specialQuery : CharSet := fun c => query c || c == '\''

def path : CharSet := fun c => fragment c || c == '#' || c == '?' || c == '\x7b' || c == '\x7d'

/-- One name of a file path. -/
def fileName : CharSet := fun c => path c || c == '/' || c == '%' || c == '\\'

def credentials : CharSet := fun c =>
  path c || c == '/' || c == ':' || c == ';' || c == '=' || c == '@' || c == '[' || c == '\\' ||
    c == ']' || c == '^' || c == '|'

def hexUpper (n : Nat) : Char := if n < 10 then Char.ofNat (48 + n) else Char.ofNat (55 + n)

def encodeByte (b : UInt8) : List Char := ['%', hexUpper (b.toNat / 16), hexUpper (b.toNat % 16)]

/-- Bytes with those of a set, and those that are no ASCII, encoded. -/
def encodeBytes (set : CharSet) (bytes : List UInt8) : List Char :=
  bytes.flatMap fun b =>
    let c := Char.ofNat b.toNat
    if set c || 128 ≤ b.toNat then encodeByte b else [c]

def encodeChar (set : CharSet) (c : Char) : List Char := encodeBytes set (String.utf8EncodeChar c)

/-- A text with the characters of a set encoded. -/
def encode (set : CharSet) (cs : List Char) : List Char := cs.flatMap (encodeChar set)

def isHex (c : Char) : Bool :=
  ('0' ≤ c && c ≤ '9') || ('a' ≤ c && c ≤ 'f') || ('A' ≤ c && c ≤ 'F')

/-- The bytes of a text whose encoded bytes are decoded. A percent sign that no two hexadecimal
digits follow stands for itself. -/
def decode : List Char → List UInt8
  | '%' :: a :: b :: r =>
    if isHex a && isHex b then UInt8.ofNat (Text.CodeTable.number [a, b]) :: decode r
    else 37 :: decode (a :: b :: r)
  | c :: r => String.utf8EncodeChar c ++ decode r
  | [] => []

/-- The text that bytes spell in UTF-8. -/
def utf8? (bytes : List UInt8) : Option String := String.fromUTF8? ⟨bytes.toArray⟩

end FeatureAudit.Url.Percent
