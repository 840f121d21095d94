/-! Descriptions: the plain text of a piece of markup, cut to a length fit for a listing. -/
namespace FeatureAudit.Description

/-- The most characters that are kept. -/
def maxLength : Nat := 150

/-- What marks a text that was cut. -/
def ellipsis : List Char := ['.', '.', '.']

/-- The text outside markup, where markup runs from a `<` to the next `>` or to the end. `inside`
tells whether the text starts within markup. -/
def strip (inside : Bool) : List Char → List Char
  | [] => []
  | c :: r =>
    if inside then strip (c != '>') r
    else if c = '<' then strip true r
    else c :: strip false r

/-- A text of at most `maxLength` characters, and the mark if it had more. -/
def cut (cs : List Char) : List Char :=
  if maxLength < cs.length then cs.take maxLength ++ ellipsis else cs

/-- The description that a piece of markup gives. -/
def clean (html : String) : String := String.ofList (cut (strip false html.toList))

theorem lt_notMem_strip (inside : Bool) (cs : List Char) : '<' ∉ strip inside cs := by
  induction cs generalizing inside with
  | nil => simp [strip]
  | cons c r ih =>
    unfold strip
    split
    · exact ih _
    · split
      · exact ih _
      · next h => simp [ih, Ne.symm h]

theorem strip_of_notMem {cs : List Char} (h : '<' ∉ cs) : strip false cs = cs := by
  induction cs with
  | nil => rfl
  | cons c r ih =>
    simp only [List.mem_cons, not_or] at h
    simp [strip, Ne.symm h.1, ih h.2]

theorem length_cut_le (cs : List Char) : (cut cs).length ≤ maxLength + ellipsis.length := by
  unfold cut
  split
  · rw [List.length_append, List.length_take]
    exact Nat.add_le_add_right (Nat.min_le_left _ _) _
  · omega

end FeatureAudit.Description
