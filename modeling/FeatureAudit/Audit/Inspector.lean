import FeatureAudit.Audit.Basic
import FeatureAudit.Catalog.Slot

/-! Inspectors: a place for a catalog together with the options of its audits. -/
namespace FeatureAudit

structure Inspector where
  slot : Catalog.Slot
  options : Options
  deriving DecidableEq, Repr

namespace Inspector

/-- An inspector without a catalog. -/
def ofOptions (o : Options) : Inspector := ⟨.empty, o⟩

def ofCatalog (c : Catalog) (o : Options) : Inspector := ⟨⟨some c⟩, o⟩

/-- The catalog in force. -/
def catalog (i : Inspector) : Except Catalog.Error Catalog := i.slot.current

/-- Puts another catalog in force. -/
def replace (i : Inspector) (c : Catalog) : Inspector := { i with slot := i.slot.replace c }

/-- Puts the catalog of a dataset in force, unless it cannot be read. -/
def refresh (i : Inspector) (data : Json) : Except Catalog.Error Dataset.Tally × Inspector :=
  let (answer, slot) := i.slot.refresh data
  (answer, { i with slot })

/-- Puts the catalog of a dataset given as text in force, unless it cannot be read. -/
def refreshText (i : Inspector) (text : String) : Except Catalog.Error Dataset.Tally × Inspector :=
  let (answer, slot) := i.slot.refreshText text
  (answer, { i with slot })

/-- Audits a page with the catalog in force. -/
def audit [Monad m] (fetch : String → m Fetch.Answer) (processors : Nat) (i : Inspector)
    (a : Artifacts) : m (Except Catalog.Error Report) :=
  match i.catalog with
  | .ok c => .ok <$> FeatureAudit.audit fetch processors c i.options a
  | .error e => return .error e

end Inspector
end FeatureAudit
