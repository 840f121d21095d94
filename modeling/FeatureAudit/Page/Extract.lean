import FeatureAudit.Page.Artifacts
import FeatureAudit.Page.Markup
import FeatureAudit.Text.Occurrence

/-! The artifacts of a page, taken from its markup by spelling alone. Scripts and styles are searched
for in the whole text; the names of tags and the styles inside tags only outside of comments, scripts
and styles. References are made absolute by a function that is given. -/
namespace FeatureAudit.Markup

/-! The elements and attributes that count. -/

def scripts : Construct (List Char × List Char) := element "script".toList

def styles : Construct (List Char × List Char) := element "style".toList

def links : Construct (List Char) := tag "link".toList

def styleAttributes : Construct (List Char) := quotedAttribute "style".toList

/-- Whether the attributes of a link say that it leads to a style sheet. -/
def linksStylesheet (attributes : List Char) : Bool :=
  match attribute? "rel".toList attributes with
  | some rel => (Text.words (Text.asciiLower rel)).contains "stylesheet".toList
  | none => false

/-- The text without comments and without what scripts and styles hold. -/
def bare (cs : List Char) : List Char :=
  styles.replace "<style>".toList (scripts.replace "<script>".toList (comment.replace [] cs))

end FeatureAudit.Markup

namespace FeatureAudit.Artifacts

open Markup

/-- A script is external if it has a source that is not blank. -/
def scriptOf (address : String → String) (script : List Char × List Char) : Script :=
  match attribute? "src".toList script.1 with
  | some (c :: src) => .external (address (String.ofList (c :: src)))
  | _ => .inline (String.ofList script.2)

def sheetOfStyle (style : List Char × List Char) : Stylesheet :=
  .readable none [String.ofList style.2]

def sheetOfLink (address : String → String) (attributes : List Char) : Stylesheet :=
  .closed ((attribute? "href".toList attributes).map fun href => address (String.ofList href))

/-- The style sheets of a page, each with the offset at which its element starts. -/
def locatedSheets (address : String → String) (cs : List Char) : List (Nat × Stylesheet) :=
  let ofStyles := (styles.located cs).map fun (offset, style) => (offset, sheetOfStyle style)
  let ofLinks := ((links.located cs).filter fun l => linksStylesheet l.2).map
    fun (offset, attributes) => (offset, sheetOfLink address attributes)
  ofStyles.merge ofLinks fun a b => a.1 ≤ b.1

/-- The artifacts of a page. -/
def ofMarkup (address : String → String) (html : String) : Artifacts :=
  let cs := html.toList
  let markup := bare cs
  { inlineStyles := (styleAttributes.all markup).map String.ofList
    stylesheets := (locatedSheets address cs).map Prod.snd
    tagNames := firsts [] ((tagName.all markup).map fun name => String.ofList (Text.asciiLower name))
    scripts := (Markup.scripts.all cs).map (scriptOf address) }

end FeatureAudit.Artifacts
