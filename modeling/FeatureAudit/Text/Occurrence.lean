/-! Occurrence of one text inside another, as a contiguous piece. -/
namespace FeatureAudit.Text

/-- Whether `needle` occurs in a text as a contiguous piece. -/
def occurs (needle : List Char) : List Char → Bool
  | [] => needle.isEmpty
  | c :: r => needle.isPrefixOf (c :: r) || occurs needle r

theorem occurs_iff {needle hay : List Char} : occurs needle hay = true ↔ needle <:+: hay := by
  induction hay with
  | nil => simp [occurs]
  | cons c r ih => simp [occurs, ih, List.infix_cons_iff]

/-- A text in which the letters A to Z are replaced by a to z, and nothing else is changed. -/
def asciiLower (cs : List Char) : List Char := cs.map Char.toLower

/-- Equality up to the case of the letters A to Z. -/
def sameAscii (a b : List Char) : Bool := asciiLower a == asciiLower b

end FeatureAudit.Text
