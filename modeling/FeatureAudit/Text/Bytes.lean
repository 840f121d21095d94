/-! Bytes shown as a text. Where they are not those of a text, a sign stands for each longest part
that a character could begin with, and for each other byte. -/
namespace FeatureAudit.Text

/-- What stands for bytes that are not those of a character. -/
def replacement : Char := '\ufffd'

/-- A character of which some bytes are there: their bits, the bounds of the next byte, and how many
more follow that one. -/
structure Pending where
  bits : Nat
  least : Nat
  greatest : Nat
  more : Nat

/-- What the first byte of a character shows, and what it leaves pending. -/
def begin (b : Nat) : List Char × Option Pending :=
  if b ≤ 0x7f then ([Char.ofNat b], none)
  else if 0xc2 ≤ b ∧ b ≤ 0xdf then ([], some ⟨b - 0xc0, 0x80, 0xbf, 0⟩)
  else if 0xe0 ≤ b ∧ b ≤ 0xef then
    ([], some ⟨b - 0xe0, if b = 0xe0 then 0xa0 else 0x80, if b = 0xed then 0x9f else 0xbf, 1⟩)
  else if 0xf0 ≤ b ∧ b ≤ 0xf4 then
    ([], some ⟨b - 0xf0, if b = 0xf0 then 0x90 else 0x80, if b = 0xf4 then 0x8f else 0xbf, 2⟩)
  else ([replacement], none)

/-- What the next byte shows, and what it leaves pending. -/
def resume (p : Option Pending) (b : Nat) : List Char × Option Pending :=
  match p with
  | none => begin b
  | some p =>
    if p.least ≤ b ∧ b ≤ p.greatest then
      let bits := 64 * p.bits + (b - 0x80)
      match p.more with
      | 0 => ([Char.ofNat bits], none)
      | n + 1 => ([], some ⟨bits, 0x80, 0xbf, n⟩)
    else
      let (cs, q) := begin b
      (replacement :: cs, q)

def showFrom : Option Pending → List UInt8 → List Char
  | none, [] => []
  | some _, [] => [replacement]
  | p, b :: r =>
    let (cs, q) := resume p b.toNat
    cs ++ showFrom q r

/-- The text that bytes are shown as. -/
def ofBytes (bytes : List UInt8) : String := String.ofList (showFrom none bytes)

end FeatureAudit.Text
