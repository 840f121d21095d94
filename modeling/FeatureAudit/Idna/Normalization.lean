import FeatureAudit.Idna.CompositionTable

/-! Normalization: a text is decomposed, the marks behind a character are put into the order of their
classes, and what can be composed is composed again. -/
namespace FeatureAudit.Idna

/-- The combining class of a character; zero is the class of characters that do not combine. -/
def combiningClass (c : Char) : Nat :=
  if c.toNat < 0x300 then 0
  else
    let hit := classRanges.find? fun
      | [lo, hi, _] => lo ≤ c.toNat && c.toNat ≤ hi
      | _ => false
    match hit with
    | some [_, _, k] => k
    | _ => 0

/-- The letters of a syllable of Hangul. -/
def syllableLetters (n : Nat) : List Char :=
  let i := n - 0xAC00
  let lead := Char.ofNat (0x1100 + i / 588)
  let vowel := Char.ofNat (0x1161 + i % 588 / 28)
  if i % 28 = 0 then [lead, vowel] else [lead, vowel, Char.ofNat (0x11A7 + i % 28)]

/-- A character decomposed; `depth` bounds how often a part is decomposed again. -/
def decompose : (depth : Nat) → Char → List Char
  | 0, c => [c]
  | depth + 1, c =>
    let n := c.toNat
    if n < 0xC0 then [c]
    else if 0xAC00 ≤ n ∧ n ≤ 0xD7A3 then syllableLetters n
    else match decompositions.find? (·.head? == some n) with
      | some row => (row.drop 1).flatMap fun m => decompose depth (Char.ofNat m)
      | none => [c]

/-- The marks at the start of a text are put into the order of their classes, and so on behind every
character that does not combine. -/
def reorder (cs : List Char) : List Char :=
  let step (c : Char) (state : List Char × List Char) : List Char × List Char :=
    -- the marks that stand before what has been ordered
    let (marks, rest) := state
    if combiningClass c = 0 then ([], c :: sorted marks ++ rest) else (c :: marks, rest)
  let (marks, rest) := cs.foldr step ([], [])
  sorted marks ++ rest
where
  sorted (marks : List Char) : List Char :=
    marks.mergeSort fun a b => combiningClass a ≤ combiningClass b

/-- The character that two compose to. -/
def compose? (a b : Char) : Option Char :=
  let x := a.toNat
  let y := b.toNat
  if 0x1100 ≤ x ∧ x ≤ 0x1112 ∧ 0x1161 ≤ y ∧ y ≤ 0x1175 then
    some (Char.ofNat (0xAC00 + (x - 0x1100) * 588 + (y - 0x1161) * 28))
  else if 0xAC00 ≤ x ∧ x ≤ 0xD7A3 ∧ (x - 0xAC00) % 28 = 0 ∧ 0x11A8 ≤ y ∧ y ≤ 0x11C2 then
    some (Char.ofNat (x + (y - 0x11A7)))
  else
    let hit := decompositions.find? fun
      | [n, p, q] => p == x && q == y && !Text.CodeTable.contains uncomposedRanges (Char.ofNat n)
      | _ => false
    match hit with
    | some (n :: _) => some (Char.ofNat n)
    | _ => none

/-- What has been composed: the text before the last character that does not combine, that
character, and the marks behind it that were not composed, last first. -/
structure Composition where
  done : List Char
  starter : Option Char
  marks : List Char

def Composition.text (k : Composition) : List Char := k.done ++ k.starter.toList ++ k.marks.reverse

/-- Composes the next character, unless a mark of the same or a higher class stands between. -/
def Composition.add (k : Composition) (c : Char) : Composition :=
  let order := combiningClass c
  let blocked : Bool := match k.marks with
    | [] => false
    | m :: _ => order ≤ combiningClass m
  match k.starter with
  | some s =>
    match if blocked then none else compose? s c with
    | some t => { k with starter := some t }
    | none =>
      if order = 0 then ⟨k.text, some c, []⟩ else { k with marks := c :: k.marks }
  | none => if order = 0 then ⟨k.text, some c, []⟩ else { k with marks := c :: k.marks }

/-- The composed form of a text. -/
def normalize (cs : List Char) : List Char :=
  ((reorder (cs.flatMap (decompose 4))).foldl Composition.add ⟨[], none, []⟩).text

end FeatureAudit.Idna
