import FeatureAudit.Json.Printer
import FeatureAudit.Json.Shape
import FeatureAudit.Page.Artifacts

/-! The artifacts of a page as JSON, written and read. -/
namespace FeatureAudit

def textsJson (xs : List String) : Json := .list (xs.map .text)

def optionalTextJson : Option String → Json
  | some s => .text s
  | none => .null

namespace Stylesheet

def toJson : Stylesheet → Json
  | readable href rules =>
    .object [("type", .text "readable"), ("href", optionalTextJson href), ("rules", textsJson rules)]
  | closed href => .object [("type", .text "opaque"), ("href", optionalTextJson href)]

/-- A readable sheet from its members, or from the list of their values. -/
def readableOf : Json → Except Json.Cause Stylesheet
  | .object ms => do
    let (href, rules) ← ms.foldlM (fun (href, rules) m => do
      .ok (← Json.takeUp "href" Json.asOptionalText href m,
        ← Json.takeUp "rules" Json.asTexts rules m)) (none, none)
    .ok (.readable href.join (← Json.demand "rules" rules))
  | .list (href :: rules :: more) => do
    let href ← Json.asOptionalText href
    let rules ← Json.asTexts rules
    if more.isEmpty then .ok (.readable href rules) else .error (Json.tooLong (more.length + 2) 2)
  | .list xs => do
    let _ ← xs.mapM Json.asOptionalText
    .error (.wrongLength 1 "struct variant Stylesheet::Readable with 2 elements")
  | _ => .ok (.readable none [])

/-- A closed sheet from its members, or from the list of their values. -/
def closedOf : Json → Except Json.Cause Stylesheet
  | .object ms => do
    let href ← ms.foldlM (Json.takeUp "href" Json.asOptionalText) none
    .ok (.closed href.join)
  | .list (href :: more) => do
    let href ← Json.asOptionalText href
    if more.isEmpty then .ok (.closed href) else .error (Json.tooLong (more.length + 1) 1)
  | _ => .ok (.closed none)

def shapes : List (String × (Json → Except Json.Cause Stylesheet)) :=
  [("readable", readableOf), ("opaque", closedOf)]

end Stylesheet

namespace Script

def toJson : Script → Json
  | inline text => .object [("type", .text "inline"), ("text", .text text)]
  | external src => .object [("type", .text "external"), ("src", .text src)]

/-- A script from its only member, or from a list of its value. -/
def ofOnly (wanted shape : String) (make : String → Script) : Json → Except Json.Cause Script
  | .object ms => do
    let x ← ms.foldlM (Json.takeUp wanted Json.asText) none
    .ok (make (← Json.demand wanted x))
  | .list (x :: more) => do
    let x ← Json.asText x
    if more.isEmpty then .ok (make x) else .error (Json.tooLong (more.length + 1) 1)
  | _ => .error (.wrongLength 0 ("struct variant " ++ shape ++ " with 1 element"))

def shapes : List (String × (Json → Except Json.Cause Script)) :=
  [("inline", ofOnly "text" "Script::Inline" .inline),
    ("external", ofOnly "src" "Script::External" .external)]

end Script

namespace Artifacts

def toJson (a : Artifacts) : Json :=
  .object [("inlineStyles", textsJson a.inlineStyles),
    ("stylesheets", .list (a.stylesheets.map Stylesheet.toJson)),
    ("tagNames", textsJson a.tagNames),
    ("scripts", .list (a.scripts.map Script.toJson))]

open Json

/-- Reads a value of one of several shapes, told apart by its member `type`. -/
def readTagged (expected : String) (shapes : List (String × (Json → Except Cause α))) (depth : Nat) :
    Reader α := fun s => do
  let (shape, j, t) ← (tagged expected shapes depth s).map fun x => (x.1.1, x.1.2, x.2)
  match shape j with
  | .ok x => .ok (x, t)
  | .error c => .error (.open c t)

def readTexts (depth : Nat) : Reader (List String) :=
  sequence (fun _ => expectString "a string") depth

def readSheets (depth : Nat) : Reader (List Stylesheet) :=
  sequence (readTagged "internally tagged enum Stylesheet" Stylesheet.shapes) depth

def readScripts (depth : Nat) : Reader (List Script) :=
  sequence (readTagged "internally tagged enum Script" Script.shapes) depth

/-- What has been read of the artifacts. -/
structure Draft where
  inlineStyles : Option (List String) := none
  stylesheets : Option (List Stylesheet) := none
  tagNames : Option (List String) := none
  scripts : Option (List Script) := none

/-- What has not been given is empty. -/
def Draft.complete (d : Draft) : Artifacts :=
  ⟨d.inlineStyles.getD [], d.stylesheets.getD [], d.tagNames.getD [], d.scripts.getD []⟩

/-- Reads a member of the artifacts. -/
def readMember (depth : Nat) (d : Draft) (name : String) : Reader Draft := fun s =>
  match name with
  | "inlineStyles" => do
    let (x, t) ← onlyOnce name d.inlineStyles (readTexts depth) s
    .ok ({ d with inlineStyles := x }, t)
  | "stylesheets" => do
    let (x, t) ← onlyOnce name d.stylesheets (readSheets depth) s
    .ok ({ d with stylesheets := x }, t)
  | "tagNames" => do
    let (x, t) ← onlyOnce name d.tagNames (readTexts depth) s
    .ok ({ d with tagNames := x }, t)
  | "scripts" => do
    let (x, t) ← onlyOnce name d.scripts (readScripts depth) s
    .ok ({ d with scripts := x }, t)
  | _ => unknownMember d s

/-- Reads artifacts written as an object. -/
def fromObject (depth : Nat) : Reader Artifacts := fun s => do
  let (d, t) ← members (readMember depth) (s.length + 1) true {} s
  .ok (d.complete, t)

/-- Reads artifacts written as the list of their values. -/
def fromList (depth : Nat) : Reader Artifacts := fun s => do
  let (inlineStyles, s) ← element true (readTexts depth) s
  let (stylesheets, s) ← element false (readSheets depth) s
  let (tagNames, s) ← element false (readTexts depth) s
  let (scripts, s) ← element false (readScripts depth) s
  .ok (Draft.complete ⟨inlineStyles, stylesheets, tagNames, scripts⟩, s)

def read (depth : Nat) : Reader Artifacts := record "struct ArtifactBundle" fromList fromObject depth

/-- The artifacts that a text holds. -/
def parse (text : String) : Except Json.Error Artifacts := readAll (read maxDepth) text

end Artifacts
end FeatureAudit
