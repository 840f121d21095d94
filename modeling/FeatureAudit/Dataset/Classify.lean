import FeatureAudit.Feature.Basic
import FeatureAudit.Text.Occurrence

/-! Which kind of artifact a feature shows in, told from its id, its name and its specifications. The
first rule that applies decides: CSS, then HTML, else JS. -/
namespace FeatureAudit.Kind

/-- Words in an id that speak for CSS. -/
def cssWords : List String :=
  ["grid", "flexbox", "mask", "filter", "transform", "transition", "animation", "backdrop",
    "border", "background", "font", "text", "color", "margin", "padding"]

/-- Whether `word` occurs in `s`. -/
def mentions (s word : String) : Bool := Text.occurs word.toList s.toList

def startsWith (s start : String) : Bool := start.toList.isPrefixOf s.toList

/-- A selector or at-rule as id, a name or a specification that says CSS, or a word of CSS in the
id. -/
def isCss (id name : String) (specs : List String) : Bool :=
  mentions id ":" || startsWith id "@" || startsWith name "CSS" || specs.any (mentions · "css") ||
    cssWords.any (mentions id)

/-- An id of small letters, digits and hyphens that does not speak of an API, and a name that speaks
of an element or attribute or an id that starts with html. -/
def isHtml (id name : String) : Bool :=
  let plain (c : Char) : Bool := ('a' ≤ c && c ≤ 'z') || ('0' ≤ c && c ≤ '9') || c == '-'
  !id.toList.isEmpty && id.toList.all plain && !mentions id "api" &&
    (mentions name "element" || mentions name "attribute" || startsWith id "html")

/-- The kind of a feature. -/
def infer (id name : String) (specs : List String) : Kind :=
  if isCss id name specs then .css else if isHtml id name then .html else .js

end FeatureAudit.Kind
