import FeatureAudit.Feature.Basic
import FeatureAudit.Json.Printer
import FeatureAudit.Json.Reader

/-! Snapshots: a list of features as JSON, written and read. -/
namespace FeatureAudit

def Kind.named : List (String × Kind) := Kind.all.map fun k => (k.name, k)

def Maturity.named : List (String × Maturity) := Maturity.all.map fun m => (m.name, m)

namespace Feature

/-- The JSON form of a feature; a link that is missing is left out. -/
def toJson (f : Feature) : Json :=
  .object (
    [("id", .text f.id), ("name", .text f.name), ("description", .text f.description)] ++
    (match f.specLink with
      | some link => [("specLink", .text link)]
      | none => []) ++
    [("kind", .text f.kind.name), ("maturity", .text f.maturity.name),
      ("browserSupport", .object f.browserSupport)])

/-- What has been read of a feature. -/
structure Draft where
  id : Option String := none
  name : Option String := none
  description : Option String := none
  specLink : Option (Option String) := none
  kind : Option Kind := none
  maturity : Option Maturity := none
  browserSupport : Option Json.Members := none

open Json in
/-- Reads a member of a feature. -/
def readMember (depth : Nat) (d : Draft) (name : String) : Reader Draft := fun s =>
  let aText := expectString "a string"
  match name with
  | "id" => do
    let (x, t) ← onlyOnce name d.id aText s
    .ok ({ d with id := x }, t)
  | "name" => do
    let (x, t) ← onlyOnce name d.name aText s
    .ok ({ d with name := x }, t)
  | "description" => do
    let (x, t) ← onlyOnce name d.description aText s
    .ok ({ d with description := x }, t)
  | "specLink" => do
    let (x, t) ← onlyOnce name d.specLink (optional aText) s
    .ok ({ d with specLink := x }, t)
  | "kind" => do
    let (x, t) ← onlyOnce name d.kind (variant Kind.named depth) s
    .ok ({ d with kind := x }, t)
  | "maturity" => do
    let (x, t) ← onlyOnce name d.maturity (variant Maturity.named depth) s
    .ok ({ d with maturity := x }, t)
  | "browserSupport" => do
    let (x, t) ← onlyOnce name d.browserSupport (anyObject depth) s
    .ok ({ d with browserSupport := x }, t)
  | _ => unknownMember d s

/-- The feature of a draft, or the first member it lacks. -/
def Draft.complete (d : Draft) : Except Json.Cause Feature := do
  let need {α : Type} (name : String) : Option α → Except Json.Cause α
    | some x => .ok x
    | none => .error (.missingField name)
  let id ← need "id" d.id
  let name ← need "name" d.name
  let description ← need "description" d.description
  let kind ← need "kind" d.kind
  let maturity ← need "maturity" d.maturity
  .ok ⟨id, name, description, d.specLink.join, kind, maturity, d.browserSupport.getD []⟩

open Json in
/-- Reads a feature written as an object. -/
def fromObject (depth : Nat) : Reader Feature := fun s => do
  let (d, t) ← members (readMember depth) (s.length + 1) true {} s
  match d.complete with
  | .ok f => .ok (f, t)
  | .error c => .error (.open c t)

open Json in
/-- Reads a feature written as the list of its values. -/
def fromList (depth : Nat) : Reader Feature := fun s => do
  let aText := expectString "a string"
  let need {α : Type} (position : Nat) (x : Option α × List Char) : Except Fault (α × List Char) :=
    match x with
    | (some x, t) => .ok (x, t)
    | (none, t) => .error (.open (.wrongLength position "struct FeatureRecord with 7 elements") t)
  let (id, s) ← need 0 (← element true aText s)
  let (name, s) ← need 1 (← element false aText s)
  let (description, s) ← need 2 (← element false aText s)
  let (specLink, s) ← element false (optional aText) s
  let (kind, s) ← need 4 (← element false (variant Kind.named depth) s)
  let (maturity, s) ← need 5 (← element false (variant Maturity.named depth) s)
  let (browserSupport, s) ← element false (anyObject depth) s
  .ok (⟨id, name, description, specLink.join, kind, maturity, browserSupport.getD []⟩, s)

/-- Reads a feature. -/
def read (depth : Nat) : Json.Reader Feature :=
  Json.record "struct FeatureRecord" fromList fromObject depth

end Feature

/-- The JSON form of a list of features. -/
def Snapshot.toJson (fs : List Feature) : Json := .list (fs.map Feature.toJson)

/-- The features of a snapshot. -/
def Snapshot.parse (text : String) : Except Json.Error (List Feature) :=
  Json.readAll (Json.sequence Feature.read Json.maxDepth) text

end FeatureAudit
