import FeatureAudit.Audit.Matcher
import FeatureAudit.Catalog.Basic

/-! Sections of a catalog, prepared for looking up ids and for the search of texts: which forms of
their ids the features of a kind show by. -/
namespace FeatureAudit

/-- The features of one kind, in their order, and the place of each id among them. -/
structure Section where
  kind : Kind
  features : List Feature
  places : List (String × Fin features.length)
  matchers : List (Matcher features.length)

namespace Section

/-- The length that an id has to exceed to be searched for in scripts, and any form of an id that is
not the id itself. -/
def shortForm : Nat := 2

/-- The places of ids. An id that several features have is found at the last of them. -/
def placesOf (fs : List Feature) : List (String × Fin fs.length) :=
  ((List.finRange fs.length).map fun i => ((fs.get i).id, i)).reverse

/-- The part of an id behind `css-`. -/
def withoutCss : List Char → Option (List Char)
  | 'c' :: 's' :: 's' :: '-' :: rest => some rest
  | _ => none

/-- The ids of features, each with its place. -/
def ids (fs : List Feature) : List (List Char × Fin fs.length) :=
  (List.finRange fs.length).map fun i => ((fs.get i).id.toList, i)

/-- What is left of ids behind `css-`, if it is enough. -/
def unprefixed (fs : List Feature) : List (List Char × Fin fs.length) :=
  ((ids fs).filterMap fun e => (withoutCss e.1).map (·, e.2)).filter
    fun e => shortForm < e.1.length

/-- The ids that are not short. -/
def long (fs : List Feature) : List (List Char × Fin fs.length) :=
  (ids fs).filter fun e => shortForm < e.1.length

/-- The ids that are not short, without their hyphens. -/
def joined (fs : List Feature) : List (List Char × Fin fs.length) :=
  (long fs).map fun e => (e.1.filter (· != '-'), e.2)

/-- In styles an id shows as it is and without `css-`; in scripts one that is not short shows as it
is and, in letters of any case, without its hyphens. -/
def matchersOf (build : Search.Builder) (fs : List Feature) : Kind → List (Matcher fs.length)
  | .css => [.ofPatterns build false (ids fs), .ofPatterns build false (unprefixed fs)]
  | .html => []
  | .js => [.ofPatterns build false (long fs), .ofPatterns build true (joined fs)]

def ofFeatures (build : Search.Builder) (k : Kind) (fs : List Feature) : Section :=
  ⟨k, fs, placesOf fs, matchersOf build fs k⟩

/-- The feature with an id. -/
def get? (s : Section) (id : String) : Option Feature := (s.places.lookup id).map s.features.get

def contains (s : Section) (id : String) : Bool := (s.places.lookup id).isSome

/-- The places of the features that show in a text, in ascending order. -/
def placesIn (s : Section) (text : List Char) : List (Fin s.features.length) :=
  s.matchers.foldl (fun places m => m.collect text places) []

end Section

/-- The section of one kind. -/
def Catalog.section (c : Catalog) (k : Kind) : Section :=
  .ofFeatures Search.overlapping k (c.ofKind k)

/-- The feature of one kind with an id. -/
def Catalog.getOfKind? (c : Catalog) (k : Kind) (id : String) : Option Feature :=
  (c.section k).get? id

/-- The feature with an id. -/
def Catalog.get? (c : Catalog) (id : String) : Option Feature :=
  Kind.all.findSome? fun k => c.getOfKind? k id

end FeatureAudit
