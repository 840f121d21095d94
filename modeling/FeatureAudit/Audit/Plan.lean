import FeatureAudit.Fetch.Basic
import FeatureAudit.Options.Basic
import FeatureAudit.Page.Artifacts
import FeatureAudit.Text.Occurrence

/-! Where the texts of a page come from, and which resources have to be fetched for them. -/
namespace FeatureAudit

/-- A text at hand, one that a fetched resource holds, or none. -/
inductive Source where
  | text (s : String)
  | fetched (slot : Nat)
  | skipped
  deriving DecidableEq, Repr

/-- The addresses to fetch, each once, and the slot that each has among them. -/
structure FetchPlan where
  addresses : List String
  slots : List (String × Nat)
  deriving DecidableEq, Repr

namespace FetchPlan

def empty : FetchPlan := ⟨[], []⟩

/-- The slot of an address, a new one behind all others if it has none yet. -/
def slot (p : FetchPlan) (address : String) : Nat × FetchPlan :=
  match p.slots.lookup address with
  | some i => (i, p)
  | none =>
    let i := p.addresses.length
    (i, ⟨p.addresses ++ [address], (address, i) :: p.slots⟩)

/-- Plans the fetch of an address. -/
def fetch (p : FetchPlan) (address : String) : List Source × FetchPlan :=
  let (i, p) := p.slot address
  ([.fetched i], p)

/-- The sources of several things, one after the other. -/
def sources (step : FetchPlan → α → List Source × FetchPlan) :
    FetchPlan → List α → List Source × FetchPlan
  | p, [] => ([], p)
  | p, x :: xs =>
    let (first, p) := step p x
    let (others, p) := sources step p xs
    (first ++ others, p)

end FetchPlan

namespace Options

/-- Whether an address has one of the marks of those left out; an empty mark is none. -/
def excludes (o : Options) (address : String) : Bool :=
  o.excluded.any fun mark => !mark.isEmpty && Text.occurs mark.toList address.toList

/-- The sources of the texts of a style sheet. One that is closed is fetched if it has an address. -/
def sheetSources (o : Options) (p : FetchPlan) : Stylesheet → List Source × FetchPlan
  | .readable _ rules => (rules.map .text, p)
  | .closed (some href) => if o.styles then p.fetch href else ([.skipped], p)
  | .closed none => ([.skipped], p)

/-- The source of a script's text. One that is external is fetched unless it is left out. -/
def scriptSources (o : Options) (p : FetchPlan) : Script → List Source × FetchPlan
  | .inline text => ([.text text], p)
  | .external src =>
    if !o.scripts then ([.skipped], p)
    else if o.excludes src then ([.skipped], p)
    else p.fetch src

/-- The sources of the texts of a page, and what to fetch for them. -/
structure Sources where
  styles : List Source
  scripts : List Source
  plan : FetchPlan
  deriving DecidableEq, Repr

/-- The styles inside tags come before the style sheets, and the scripts last. -/
def sourcesOf (o : Options) (a : Artifacts) : Sources :=
  let (sheets, p) := FetchPlan.sources o.sheetSources .empty a.stylesheets
  let (scripts, p) := FetchPlan.sources o.scriptSources p a.scripts
  ⟨a.inlineStyles.map .text ++ sheets, scripts, p⟩

/-- The addresses of the resources to fetch for a page. -/
def plan (o : Options) (a : Artifacts) : List String := (o.sourcesOf a).plan.addresses

end Options

/-- The text of a source, if it could be had. -/
def Source.text? (answers : List Fetch.Answer) : Source → Option String
  | text s => some s
  | fetched slot => answers[slot]?.bind Except.toOption
  | skipped => none

end FeatureAudit
