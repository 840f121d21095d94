import FeatureAudit.Catalog.Basic

/-! The place of the catalog in force. It starts empty, is filled as a whole and never emptied again;
whoever took a catalog out keeps that one. -/
namespace FeatureAudit.Catalog

structure Slot where
  catalog? : Option Catalog
  deriving DecidableEq, Repr

namespace Slot

def empty : Slot := ⟨none⟩

def isFilled (s : Slot) : Bool := s.catalog?.isSome

/-- The catalog in force. -/
def current (s : Slot) : Except Error Catalog :=
  match s.catalog? with
  | some c => .ok c
  | none => .error .unavailable

/-- Puts another catalog in force. -/
def replace (_ : Slot) (c : Catalog) : Slot := ⟨some c⟩

/-- Puts a new catalog in force, unless it could not be made; then the old one stays. -/
def fill (s : Slot) (made : Except Error (Catalog × Dataset.Tally)) :
    Except Error Dataset.Tally × Slot :=
  match made with
  | .ok (c, tally) => (.ok tally, s.replace c)
  | .error e => (.error e, s)

/-- Puts the catalog of a dataset in force. -/
def refresh (s : Slot) (data : Json) : Except Error Dataset.Tally × Slot := s.fill (ofDataset data)

/-- Puts the catalog of a dataset given as text in force. -/
def refreshText (s : Slot) (text : String) : Except Error Dataset.Tally × Slot :=
  s.fill (ofDatasetText text)

end Slot
end FeatureAudit.Catalog
