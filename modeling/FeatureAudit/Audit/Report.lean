import FeatureAudit.Feature.Basic

/-! Reports: what an audit finds, and how many of the findings are of each maturity. -/
namespace FeatureAudit

/-- What a report says of a feature. -/
structure Finding where
  id : String
  name : String
  description : String
  maturity : Maturity
  kind : Kind
  browserSupport : Json.Members
  deriving DecidableEq, Repr

def Finding.ofFeature (f : Feature) : Finding :=
  ⟨f.id, f.name, f.description, f.maturity, f.kind, f.browserSupport⟩

def Finding.toJson (f : Finding) : Json :=
  .object [("id", .text f.id), ("name", .text f.name), ("description", .text f.description),
    ("maturity", .text f.maturity.name), ("kind", .text f.kind.name),
    ("browserSupport", .object f.browserSupport)]

structure Summary where
  total : Nat
  widely : Nat
  newly : Nat
  limited : Nat
  deriving DecidableEq, Repr

def Summary.ofFindings (fs : List Finding) : Summary :=
  let count (m : Maturity) : Nat := fs.countP (·.maturity = m)
  ⟨fs.length, count .widely, count .newly, count .limited⟩

def Summary.toJson (s : Summary) : Json :=
  let count (n : Nat) : Json := .number (.int n)
  .object [("total", count s.total), ("widely", count s.widely), ("newly", count s.newly),
    ("limited", count s.limited)]

structure Report where
  findings : List Finding
  summary : Summary
  deriving DecidableEq, Repr

namespace Report

def ofFindings (fs : List Finding) : Report := ⟨fs, .ofFindings fs⟩

/-- The findings of one maturity. -/
def ofMaturity (r : Report) (m : Maturity) : List Finding := r.findings.filter (·.maturity = m)

def isEmpty (r : Report) : Bool := r.findings.isEmpty

/-- The members of a report as JSON. -/
def members (r : Report) : Json.Members :=
  [("matches", .list (r.findings.map Finding.toJson)), ("summary", r.summary.toJson)]

def toJson (r : Report) : Json := .object r.members

end Report
end FeatureAudit
