import FeatureAudit.Dataset.Normalize
import FeatureAudit.Feature.Snapshot

/-! Catalogs: the features that pages are audited for, in one section per kind. No id occurs twice in
a catalog; of features with one id the first is kept. -/
namespace FeatureAudit

structure Catalog where
  css : List Feature
  html : List Feature
  js : List Feature
  deriving DecidableEq, Repr

namespace Catalog

/-- The features whose id is neither among `seen` nor that of an earlier one. -/
def keepFirst (seen : List String) : List Feature → List Feature
  | [] => []
  | f :: r => if f.id ∈ seen then keepFirst seen r else f :: keepFirst (f.id :: seen) r

/-- The catalog of a list of features. Each section keeps their order. -/
def ofFeatures (fs : List Feature) : Catalog :=
  let kept := keepFirst [] fs
  ⟨kept.filter (·.kind = .css), kept.filter (·.kind = .html), kept.filter (·.kind = .js)⟩

/-- The features of one kind. -/
def ofKind (c : Catalog) : Kind → List Feature
  | .css => c.css
  | .html => c.html
  | .js => c.js

/-- All features, kind by kind. -/
def features (c : Catalog) : List Feature := Kind.all.flatMap c.ofKind

def size (c : Catalog) : Nat := c.css.length + c.html.length + c.js.length

def isEmpty (c : Catalog) : Bool := c.size == 0

/-- Why there is no catalog. -/
inductive Error where
  | dataset (e : Dataset.Error)
  | snapshot (e : Json.Error)
  | unavailable
  deriving DecidableEq, Repr

def Error.message : Error → String
  | .dataset e => e.message
  | .snapshot e => e.message
  | .unavailable => "feature index is not initialized"

/-- The catalog of a dataset, with the tally of its entries. -/
def ofDataset (data : Json) : Except Error (Catalog × Dataset.Tally) :=
  match Dataset.normalize data with
  | .ok (fs, tally) => .ok (ofFeatures fs, tally)
  | .error e => .error (.dataset e)

/-- The catalog of a dataset given as text, with the tally of its entries. -/
def ofDatasetText (text : String) : Except Error (Catalog × Dataset.Tally) :=
  match Dataset.normalizeText text with
  | .ok (fs, tally) => .ok (ofFeatures fs, tally)
  | .error e => .error (.dataset e)

/-- The catalog of a snapshot. The kinds of its features stand as they are written. -/
def ofSnapshot (text : String) : Except Error Catalog :=
  match Snapshot.parse text with
  | .ok fs => .ok (ofFeatures fs)
  | .error e => .error (.snapshot e)

/-- The features of a catalog as a snapshot. -/
def toSnapshot (c : Catalog) : Json := Snapshot.toJson c.features

end Catalog
end FeatureAudit
