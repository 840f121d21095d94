/-! Blank characters are those with the Unicode property White_Space. Splitting, trimming and the
words of a text are defined by them. -/
namespace FeatureAudit.Text

/-- The property White_Space. -/
def isBlank (c : Char) : Bool :=
  let n := c.toNat
  (9 ≤ n && n ≤ 13) || n == 0x20 || n == 0x85 || n == 0xA0 || n == 0x1680 ||
    (0x2000 ≤ n && n ≤ 0x200A) || n == 0x2028 || n == 0x2029 || n == 0x202F || n == 0x205F ||
    n == 0x3000

/-- The pieces between the characters, or bytes, that satisfy `p`; there is one more piece than such
characters. -/
def splitWhere {α : Type} (p : α → Bool) : List α → List (List α)
  | [] => [[]]
  | c :: r =>
    if p c then [] :: splitWhere p r
    else match splitWhere p r with
      | [] => [[c]]
      | w :: ws => (c :: w) :: ws

/-- Maximal runs of characters that are not blank. -/
def words (cs : List Char) : List (List Char) :=
  (splitWhere isBlank cs).filter (!·.isEmpty)

/-- Without the blanks at both ends. -/
def trim (cs : List Char) : List Char :=
  ((cs.dropWhile isBlank).reverse.dropWhile isBlank).reverse

theorem splitWhere_ne_nil {α : Type} (p : α → Bool) (cs : List α) : splitWhere p cs ≠ [] := by
  cases cs with
  | nil => simp [splitWhere]
  | cons c r =>
    simp only [splitWhere]
    split
    · simp
    · split <;> simp

theorem trim_of_forall {cs : List Char} (h : ∀ c ∈ cs, isBlank c = false) : trim cs = cs := by
  have drop : ∀ {ds : List Char}, (∀ c ∈ ds, isBlank c = false) → ds.dropWhile isBlank = ds := by
    intro ds hd
    cases ds with
    | nil => rfl
    | cons c r => simp [hd c (by simp)]
  rw [trim, drop h, drop (by simpa using h), List.reverse_reverse]

end FeatureAudit.Text
