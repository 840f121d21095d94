import FeatureAudit.Dataset.Classify
import FeatureAudit.Dataset.Description
import FeatureAudit.Json.Reader

/-! Normalization: the features of a published dataset. A dataset is an object of entries, or an
object whose member `features` is one. Entries that cannot be used are left out and counted. -/
namespace FeatureAudit.Dataset

/-- Why a dataset cannot be read at all. -/
inductive Error where
  | notJson (e : Json.Error)
  | notObject
  | featuresNotObject
  deriving DecidableEq, Repr

def Error.message : Error → String
  | .notJson e => "dataset is unreadable: " ++ e.message
  | .notObject => "dataset is unreadable: top-level value is not an object"
  | .featuresNotObject => "dataset is unreadable: `features` is not an object"

/-- What becomes of an entry. -/
inductive Outcome where
  | built (feature : Feature)
  | noStatus
  | malformed
  deriving DecidableEq, Repr

/-- The links of a member `spec`: one string, or the strings of a list. -/
def specLinks : Option Json → List String
  | some (.text s) => [s]
  | some (.list xs) => xs.filterMap Json.asText?
  | _ => []

/-- The feature of an entry that has a name and a status. -/
def buildFeature (id name : String) (entry status : Json.Members) : Feature :=
  let specs := specLinks (entry.lookup "spec")
  { id
    name
    description :=
      match (entry.lookup "description_html").bind Json.asText? with
      | some html => if html.isEmpty then name else Description.clean html
      | none => name
    specLink := specs.head?
    kind := .infer id name specs
    maturity := .ofLevel (status.lookup "baseline")
    browserSupport := ((status.lookup "support").bind Json.asObject?).getD [] }

/-- Reads one entry. An entry without a status is left out as such, whatever else it lacks. -/
def readEntry (id : String) (entry : Json) : Outcome :=
  match entry with
  | .object members =>
    match (members.lookup "status").bind Json.asObject? with
    | none => .noStatus
    | some status =>
      match (members.lookup "name").bind Json.asText? with
      | none => .malformed
      | some name => .built (buildFeature id name members status)
  | _ => .malformed

/-- How many entries there were, and what became of them. -/
structure Tally where
  entries : Nat
  built : Nat
  noStatus : Nat
  malformed : Nat
  deriving DecidableEq, Repr

def Outcome.feature? : Outcome → Option Feature
  | .built f => some f
  | _ => none

/-- The entries of a dataset. -/
def entries (data : Json) : Except Error Json.Members :=
  match data with
  | .object root =>
    match root.lookup "features" with
    | some (.object features) => .ok features
    | some _ => .error .featuresNotObject
    | none => .ok root
  | _ => .error .notObject

/-- The features of a dataset in the order of its entries, and the tally. -/
def normalize (data : Json) : Except Error (List Feature × Tally) := do
  let outcomes := (← entries data).map fun kv => readEntry kv.1 kv.2
  let features := outcomes.filterMap Outcome.feature?
  .ok (features,
    { entries := outcomes.length
      built := features.length
      noStatus := outcomes.count .noStatus
      malformed := outcomes.count .malformed })

/-- Normalizes a dataset given as text. -/
def normalizeText (text : String) : Except Error (List Feature × Tally) :=
  match Json.parse text with
  | .ok data => normalize data
  | .error e => .error (.notJson e)

end FeatureAudit.Dataset
