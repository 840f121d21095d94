import FeatureAudit.Json.Basic

/-! Features of the web platform, as a catalog describes them. -/
namespace FeatureAudit

/-- The kind of page artifact in which a feature shows. -/
inductive Kind where
  | css
  | html
  | js
  deriving DecidableEq, Repr

/-- The order in which kinds are listed. -/
def Kind.all : List Kind := [.css, .html, .js]

def Kind.name : Kind → String
  | .css => "css"
  | .html => "html"
  | .js => "js"

/-- How far browsers have come with a feature. -/
inductive Maturity where
  | widely
  | newly
  | limited
  deriving DecidableEq, Repr

def Maturity.all : List Maturity := [.widely, .newly, .limited]

def Maturity.name : Maturity → String
  | .widely => "widely"
  | .newly => "newly"
  | .limited => "limited"

/-- Two levels have a maturity of their own; any other value, and none, counts as limited. -/
def Maturity.ofLevel : Option Json → Maturity
  | some (.text "high") => .widely
  | some (.text "low") => .newly
  | _ => .limited

/-- A feature: what identifies and describes it, the kind of artifact it shows in, and how well
browsers support it. -/
structure Feature where
  id : String
  name : String
  description : String
  specLink : Option String
  kind : Kind
  maturity : Maturity
  browserSupport : Json.Members
  deriving DecidableEq, Repr

end FeatureAudit
