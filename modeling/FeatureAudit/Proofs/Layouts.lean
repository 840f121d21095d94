import FeatureAudit.Json.Printer
import FeatureAudit.Json.Lexeme

/-! The two ways of writing a value differ only in where blanks stand. A layout says where; the text
of a value in a layout gives both. -/
namespace FeatureAudit.Json

/-- The blanks before an item, a member or a closing bracket at a level of nesting, and those behind
a colon. -/
structure Layout where
  gap : Nat → List Char
  space : List Char
  isSpace_gap : ∀ level, ∀ c ∈ gap level, isSpace c = true
  isSpace_space : ∀ c ∈ space, isSpace c = true

namespace Layout

/-- On one line, without blanks. -/
def narrow : Layout where
  gap _ := []
  space := []
  isSpace_gap := by simp
  isSpace_space := by simp

/-- Every item and member on a line of its own. -/
def wide : Layout where
  gap := newline
  space := [' ']
  isSpace_gap level c hc := by
    rcases List.mem_cons.1 hc with rfl | hc
    · rfl
    · rw [(List.mem_replicate.1 hc).2]; rfl
  isSpace_space := by simp [isSpace]

@[simp]
theorem gap_narrow (level : Nat) : narrow.gap level = [] := rfl

@[simp]
theorem space_narrow : narrow.space = [] := rfl

@[simp]
theorem gap_wide (level : Nat) : wide.gap level = newline level := rfl

@[simp]
theorem space_wide : wide.space = [' '] := rfl

variable (l : Layout)

mutual

/-- The text of a value. -/
def value (level : Nat) : Json → List Char
  | .null => ['n', 'u', 'l', 'l']
  | .bool b => if b then ['t', 'r', 'u', 'e'] else ['f', 'a', 'l', 's', 'e']
  | .number n => writeNumber n
  | .text s => writeText s
  | .list xs => '[' :: listBody level xs
  | .object ms => '\x7b' :: objectBody level ms

/-- The text of a list behind its opening bracket. -/
def listBody (level : Nat) : List Json → List Char
  | [] => [']']
  | x :: xs =>
    l.gap (level + 1) ++ value (level + 1) x ++ items (level + 1) xs ++ l.gap level ++ [']']

/-- The text of an object behind its opening brace. -/
def objectBody (level : Nat) : Members → List Char
  | [] => ['\x7d']
  | (k, v) :: ms =>
    l.gap (level + 1) ++ writeText k ++ ':' :: (l.space ++ value (level + 1) v) ++
      members (level + 1) ms ++ l.gap level ++ ['\x7d']

/-- The text of the items behind the first. -/
def items (level : Nat) : List Json → List Char
  | [] => []
  | x :: xs => ',' :: (l.gap level ++ value level x) ++ items level xs

/-- The text of the members behind the first. -/
def members (level : Nat) : Members → List Char
  | [] => []
  | (k, v) :: ms =>
    ',' :: (l.gap level ++ writeText k ++ ':' :: (l.space ++ value level v)) ++ members level ms

end

end Layout

/-! The layouts of the printer. The text of several items, or members, is that of the first and of
those behind it. -/

mutual

theorem value_narrow (level : Nat) : ∀ j : Json, Layout.narrow.value level j = write j
  | .null | .bool _ | .number _ | .text _ | .list [] | .object [] => rfl
  | .list (x :: xs) => by
    have h := items_narrow (level + 1) (x :: xs) (by simp)
    simp only [Layout.items, Layout.gap_narrow, List.nil_append, List.cons_append,
      List.cons.injEq, true_and] at h
    simp [write, Layout.value, Layout.listBody, h]
  | .object ((k, v) :: ms) => by
    have h := members_narrow (level + 1) ((k, v) :: ms) (by simp)
    simp only [Layout.members, Layout.gap_narrow, Layout.space_narrow, List.nil_append,
      List.cons_append, List.append_assoc, List.cons.injEq, true_and] at h
    simp [write, Layout.value, Layout.objectBody, h]

theorem items_narrow (level : Nat) : ∀ xs : List Json, xs ≠ [] →
    Layout.narrow.items level xs = ',' :: writeItems xs
  | [], h => (h rfl).elim
  | [x], _ => by simp [writeItems, Layout.items, value_narrow level x]
  | x :: y :: r, _ => by
    rw [Layout.items, items_narrow level (y :: r) (by simp), value_narrow level x]
    simp [writeItems]

theorem members_narrow (level : Nat) : ∀ ms : Members, ms ≠ [] →
    Layout.narrow.members level ms = ',' :: writeMembers ms
  | [], h => (h rfl).elim
  | [(k, v)], _ => by simp [writeMembers, Layout.members, value_narrow level v]
  | (k, v) :: m :: r, _ => by
    rw [Layout.members, members_narrow level (m :: r) (by simp), value_narrow level v]
    simp [writeMembers]

end

mutual

theorem value_wide : ∀ (level : Nat) (j : Json), Layout.wide.value level j = indent level j
  | _, .null | _, .bool _ | _, .number _ | _, .text _ | _, .list [] | _, .object [] => rfl
  | level, .list (x :: xs) => by
    have h := items_wide (level + 1) (x :: xs) (by simp)
    simp only [Layout.items, Layout.gap_wide, List.cons_append, List.append_assoc,
      List.cons.injEq, true_and] at h
    simp [indent, Layout.value, Layout.listBody, ← h]
  | level, .object ((k, v) :: ms) => by
    have h := members_wide (level + 1) ((k, v) :: ms) (by simp)
    simp only [Layout.members, Layout.gap_wide, Layout.space_wide, List.nil_append,
      List.cons_append, List.append_assoc, List.cons.injEq, true_and] at h
    simp [indent, Layout.value, Layout.objectBody, ← h]

theorem items_wide (level : Nat) : ∀ xs : List Json, xs ≠ [] →
    Layout.wide.items level xs = ',' :: indentItems level xs
  | [], h => (h rfl).elim
  | [x], _ => by simp [indentItems, Layout.items, value_wide level x]
  | x :: y :: r, _ => by
    rw [Layout.items, items_wide level (y :: r) (by simp), value_wide level x]
    simp [indentItems]

theorem members_wide (level : Nat) : ∀ ms : Members, ms ≠ [] →
    Layout.wide.members level ms = ',' :: indentMembers level ms
  | [], h => (h rfl).elim
  | [(k, v)], _ => by simp [indentMembers, Layout.members, value_wide level v]
  | (k, v) :: m :: r, _ => by
    rw [Layout.members, members_wide level (m :: r) (by simp), value_wide level v]
    simp [indentMembers]

end

theorem toList_compact (j : Json) : j.compact.toList = Layout.narrow.value 0 j := by
  rw [compact, String.toList_ofList, value_narrow]

theorem toList_pretty (j : Json) : j.pretty.toList = Layout.wide.value 0 j := by
  rw [pretty, String.toList_ofList, value_wide]

end FeatureAudit.Json
