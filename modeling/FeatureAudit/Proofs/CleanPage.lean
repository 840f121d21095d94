import FeatureAudit.Proofs.Attributes
import FeatureAudit.Proofs.Markers
import FeatureAudit.Text.Occurrence

/-! Pages that are written out item by item, and what such a page holds. -/
namespace FeatureAudit

/-- The elements whose bodies are no markup. -/
inductive Enclosing where
  | script
  | style
  deriving DecidableEq, Repr

def Enclosing.name : Enclosing → List Char
  | script => "script".toList
  | style => "style".toList

abbrev Attributes := List (List Char × List Char)

/-- Of all attributes only styles hold signs of equality. -/
def SignsInStyles (as : Attributes) : Prop := ∀ a ∈ as, a.1 = "style".toList ∨ '=' ∉ a.2

instance (as : Attributes) : Decidable (SignsInStyles as) :=
  inferInstanceAs (Decidable (∀ a ∈ as, _ ∨ _))

inductive Item where
  | text (cs : List Char)
  | endTag (name : List Char)
  | comment (cs : List Char)
  | startTag (name : List Char) (attributes : Attributes)
  | element (kind : Enclosing) (attributes : Attributes) (body : List Char)
  deriving DecidableEq, Repr

namespace Item

open Markup

def renderStartTag (name : List Char) (as : Attributes) : List Char :=
  '<' :: (name ++ (renderAttributes as ++ ['>']))

def renderEndTag (name : List Char) : List Char := '<' :: '/' :: (name ++ ['>'])

def render : Item → List Char
  | text cs => cs
  | endTag name => renderEndTag name
  | comment cs => '<' :: '!' :: '-' :: '-' :: (cs ++ ['-', '-', '>'])
  | startTag name as => renderStartTag name as
  | element kind as body => renderStartTag kind.name as ++ (body ++ renderEndTag kind.name)

/-- A letter, and then letters and digits. -/
@[mk_iff] structure IsName (s : List Char) : Prop where
  head : ∃ c ∈ s.head?, c.isAlpha = true
  all : ∀ c ∈ s, c.isAlphanum = true

instance (s : List Char) : Decidable (IsName s) :=
  decidable_of_iff (s.head?.any Char.isAlpha = true ∧ s.all Char.isAlphanum = true)
    (by simp [isName_iff, Option.any_eq_true])

/-- An item that can be told apart from its neighbours. -/
def WellFormed : Item → Prop
  | text cs => '<' ∉ cs ∧ '=' ∉ cs
  | endTag name => IsName name
  | comment cs => '<' ∉ cs ∧ ¬ "-->".toList <:+: cs
  | startTag name as => IsName name ∧ ∀ a ∈ as, CleanAttribute a
  | element _ as body => (∀ a ∈ as, CleanAttribute a) ∧ '<' ∉ body

instance (i : Item) : Decidable i.WellFormed :=
  match i with
  | text cs => inferInstanceAs (Decidable ('<' ∉ cs ∧ '=' ∉ cs))
  | endTag name => inferInstanceAs (Decidable (IsName name))
  | comment cs => inferInstanceAs (Decidable ('<' ∉ cs ∧ ¬ "-->".toList <:+: cs))
  | startTag name as =>
    inferInstanceAs (Decidable (IsName name ∧ ∀ a ∈ as, CleanAttribute a))
  | element _ as body => inferInstanceAs (Decidable ((∀ a ∈ as, CleanAttribute a) ∧ '<' ∉ body))

/-- A well-formed item that is no start tag of a script or a style without its body. -/
def Clean (i : Item) : Prop :=
  i.WellFormed ∧ match i with
    | startTag name _ => Text.asciiLower name ∉ [Enclosing.script.name, Enclosing.style.name]
    | _ => True

instance (i : Item) : Decidable i.Clean :=
  match i with
  | startTag .. => inferInstanceAs (Decidable (_ ∧ _ ∉ _))
  | text _ | endTag _ | comment _ | element .. => inferInstanceAs (Decidable (_ ∧ True))

/-- An item that its brackets tell apart from its neighbours, whatever comments and elements hold. -/
def Outlined : Item → Prop
  | text cs => '<' ∉ cs ∧ '=' ∉ cs
  | endTag name => IsName name
  | comment cs => ¬ "-->".toList <:+: cs
  | startTag name as => IsName name ∧ ∀ a ∈ as, QuotedAttribute a
  | element _ as _ => ∀ a ∈ as, QuotedAttribute a

instance (i : Item) : Decidable i.Outlined :=
  match i with
  | text cs => inferInstanceAs (Decidable ('<' ∉ cs ∧ '=' ∉ cs))
  | endTag name => inferInstanceAs (Decidable (IsName name))
  | comment cs => inferInstanceAs (Decidable (¬ "-->".toList <:+: cs))
  | startTag name as =>
    inferInstanceAs (Decidable (IsName name ∧ ∀ a ∈ as, QuotedAttribute a))
  | element _ as _ => inferInstanceAs (Decidable (∀ a ∈ as, QuotedAttribute a))

/-- A body that does no harm to the markup around it: comments that start inside end inside, and what
is left without them holds no end of the element, nor in a style the start of a script. -/
@[mk_iff] structure Contained (kind : Enclosing) (body : List Char) : Prop where
  comments : ClosesComments body
  ending : ¬ '<' :: '/' :: kind.name <:+: (Markup.comment.replace [] body).map foldCase
  script : kind = .style →
    ¬ '<' :: Enclosing.script.name <:+: (Markup.comment.replace [] body).map foldCase

instance (kind : Enclosing) (body : List Char) : Decidable (Contained kind body) :=
  decidable_of_iff _ (contained_iff kind body).symm

/-- An outlined item with a contained body, if any, that is no start tag of a script or a style
without one. -/
def Legible (i : Item) : Prop :=
  i.Outlined ∧ match i with
    | startTag name as =>
      Text.asciiLower name ∉ [Enclosing.script.name, Enclosing.style.name] ∧ SignsInStyles as
    | element kind _ body => Contained kind body
    | _ => True

instance (i : Item) : Decidable i.Legible :=
  match i with
  | startTag .. => inferInstanceAs (Decidable (_ ∧ _ ∉ _ ∧ SignsInStyles _))
  | element kind _ body => inferInstanceAs (Decidable (_ ∧ Contained kind body))
  | text _ | endTag _ | comment _ => inferInstanceAs (Decidable (_ ∧ True))

/-! What an item adds to the artifacts of a page. -/

def script? (address : String → String) : Item → Option Script
  | element .script as body =>
    match as.lookup "src".toList with
    | some src =>
      if Text.trim src = [] then some (.inline (String.ofList body))
      else some (.external (address (String.ofList (Text.trim src))))
    | none => some (.inline (String.ofList body))
  | _ => none

/-- Whether the relation of a link is that to a style sheet. -/
def IsSheetLink (name : List Char) (as : Attributes) : Prop :=
  Text.asciiLower name = "link".toList ∧
    ∃ rel ∈ as.lookup "rel".toList, ∃ w ∈ Text.words rel, Text.sameAscii w "stylesheet".toList

instance (name : List Char) (as : Attributes) : Decidable (IsSheetLink name as) :=
  inferInstanceAs (Decidable (_ ∧ ∃ rel ∈ as.lookup "rel".toList, _))

def sheet? (address : String → String) : Item → Option Stylesheet
  | element .style _ body => some (.readable none [String.ofList body])
  | startTag name as =>
    if IsSheetLink name as then
      some (.closed ((as.lookup "href".toList).map fun href =>
        address (String.ofList (Text.trim href))))
    else none
  | _ => none

def tagName? : Item → Option (List Char)
  | startTag name _ => some (Text.asciiLower name)
  | element kind _ _ => some kind.name
  | _ => none

def inlineStyles : Item → List (List Char)
  | startTag _ as => as.filterMap fun a => if a.1 = "style".toList then some a.2 else none
  | _ => []

end Item

/-- The artifacts of a page that is made up of the items. -/
def Artifacts.ofItems (address : String → String) (items : List Item) : Artifacts where
  inlineStyles := (items.flatMap Item.inlineStyles).map String.ofList
  stylesheets := items.filterMap (Item.sheet? address)
  tagNames := ((items.filterMap Item.tagName?).map String.ofList).eraseDups
  scripts := items.filterMap (Item.script? address)

end FeatureAudit
