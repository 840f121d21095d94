import FeatureAudit.Text.Lowercase

/-! The artifacts of a page: its styles, the names of its tags and its scripts. -/
namespace FeatureAudit

/-- A style sheet of a page: one whose rules are at hand, or one that is known by its address at
most. -/
inductive Stylesheet where
  | readable (href : Option String) (rules : List String)
  | closed (href : Option String)
  deriving DecidableEq, Repr

/-- A script of a page: its text, or its address. -/
inductive Script where
  | inline (text : String)
  | external (src : String)
  deriving DecidableEq, Repr

structure Artifacts where
  inlineStyles : List String
  stylesheets : List Stylesheet
  tagNames : List String
  scripts : List Script
  deriving DecidableEq, Repr

namespace Artifacts

def empty : Artifacts := ⟨[], [], [], []⟩

/-- Each value once, at its first place. -/
def firsts [DecidableEq α] (seen : List α) : List α → List α
  | [] => []
  | x :: r => if x ∈ seen then firsts seen r else x :: firsts (x :: seen) r

/-- The tag names in small letters and without blanks around them, each once; blank names are left
out. -/
def distinctTags (a : Artifacts) : List String :=
  firsts [] ((a.tagNames.map fun t => String.ofList (Text.lowercase (Text.trim t.toList))).filter
    (!·.isEmpty))

end Artifacts
end FeatureAudit
