import FeatureAudit.Text.Occurrence

/-! Searching a text for many patterns at once. Each pattern belongs to the place of a feature; what
a search gives is the places, in their order. -/
namespace FeatureAudit

/-- The numbers of the patterns that occur in a text, one for each occurrence, overlapping ones
included. -/
abbrev Search := List Char → List Nat

/-- Builds a search for patterns, unless they are too many. A loose search disregards the case of the
letters A to Z. -/
abbrev Search.Builder := (loose : Bool) → (patterns : List (List Char)) → Option Search

namespace Search

/-- Texts are compared in small letters if the search is loose. -/
def reduce (loose : Bool) (text : List Char) : List Char :=
  if loose then Text.asciiLower text else text

/-- Tests one pattern after the other. -/
def eachOf (loose : Bool) (patterns : List (List Char)) : Search := fun text =>
  ((patterns.map (reduce loose)).zipIdx.filter fun p => Text.occurs p.1 (reduce loose text)).map
    Prod.snd

/-- The numbers of the patterns with which the rests of a text start. -/
def startsIn (patterns : List (List Char × Nat)) (text : List Char) : List Nat :=
  let here := (patterns.filter fun p => p.1.isPrefixOf text).map Prod.snd
  match text with
  | [] => here
  | _ :: r => here ++ startsIn patterns r

/-- Goes through the text once, with all patterns. -/
def overlapping : Builder := fun loose patterns => some fun text =>
  startsIn (patterns.map (reduce loose)).zipIdx (reduce loose text)

end Search

/-- Adds a place to others in ascending order, unless it is among them. -/
def addPlace (p : Fin n) : List (Fin n) → List (Fin n)
  | [] => [p]
  | q :: r => if p < q then p :: q :: r else if p = q then q :: r else q :: addPlace p r

/-- A search for patterns, with the place of each pattern's feature among `n`. -/
structure Matcher (n : Nat) where
  places : List (Fin n)
  search : Search

namespace Matcher

/-- Empty patterns are left out. If no search can be built, the patterns are tested one by one. -/
def ofPatterns (build : Search.Builder) (loose : Bool) (entries : List (List Char × Fin n)) :
    Matcher n :=
  let kept := entries.filter (!·.1.isEmpty)
  let patterns := kept.map Prod.fst
  ⟨kept.map Prod.snd, (build loose patterns).getD (.eachOf loose patterns)⟩

/-- Adds the places of the patterns that occur in a text. -/
def collect (m : Matcher n) (text : List Char) (places : List (Fin n)) : List (Fin n) :=
  if m.places.isEmpty || text.isEmpty then places
  else (m.search text).foldl (fun ps i => (m.places[i]?.map (addPlace · ps)).getD ps) places

end Matcher
end FeatureAudit
