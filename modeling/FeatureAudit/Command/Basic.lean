/-! The commands of the program. -/
namespace FeatureAudit

/-- Where the catalog of a scan comes from: a published dataset, or a snapshot of features. -/
inductive Command.Origin where
  | dataset (path : String)
  | features (path : String)
  deriving DecidableEq, Repr

/-- What is scanned: the pages that an input stands for, or artifacts at hand. -/
inductive Command.Subject where
  | input (path : String)
  | bundle (path : String)
  deriving DecidableEq, Repr

structure Command.Scan where
  origin : Command.Origin
  subject : Command.Subject
  base : Option String
  config : Option String
  offline : Bool
  threads : Option String
  output : String
  deriving DecidableEq, Repr

/-- To fetch a dataset and keep it; to turn one into a snapshot of features; to scan. -/
inductive Command where
  | sync (url output : String) (timeout : Nat)
  | normalize (dataset output : String)
  | scan (s : Command.Scan)
  deriving DecidableEq, Repr

end FeatureAudit
