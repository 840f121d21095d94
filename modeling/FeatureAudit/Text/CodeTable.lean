import FeatureAudit.Text.Blank

/-! Tables over code points, written as lines of hexadecimal numbers. An entry is one number or
several joined by hyphens; entries are separated by spaces. -/
namespace FeatureAudit.Text.CodeTable

/-- The value of a hexadecimal digit; other characters count as zero. -/
def digit (c : Char) : Nat :=
  if '0' ≤ c ∧ c ≤ '9' then c.toNat - 48
  else if 'A' ≤ c ∧ c ≤ 'F' then c.toNat - 55
  else if 'a' ≤ c ∧ c ≤ 'f' then c.toNat - 87
  else 0

def number (cs : List Char) : Nat := cs.foldl (fun n c => 16 * n + digit c) 0

/-- The entries of a table, each as the list of its numbers. -/
def entries (rows : List String) : List (List Nat) :=
  rows.flatMap fun row => (words row.toList).map fun w => (splitWhere (· == '-') w).map number

/-- The entries read as ranges; a single number is a range of one. -/
def ranges (rows : List String) : List (Nat × Nat) :=
  (entries rows).map fun e => (e.headD 0, e.getLastD 0)

def contains (table : List (Nat × Nat)) (c : Char) : Bool :=
  table.any fun r => r.1 ≤ c.toNat && c.toNat ≤ r.2

end FeatureAudit.Text.CodeTable
