import FeatureAudit.Audit.Report
import FeatureAudit.Audit.Section
import FeatureAudit.Text.Lowercase

/-! Detection: the features that pieces of evidence show, each once, in the order of the first piece
that shows it. -/
namespace FeatureAudit

/-- The places of a section that have been found, and what there is to report of them. -/
structure Collector (s : Section) where
  seen : List (Fin s.features.length)
  findings : List Finding

namespace Collector

variable {s : Section}

def start (s : Section) : Collector s := ⟨[], []⟩

/-- Takes a place. One that has been found before is not reported again. -/
def record (c : Collector s) (place : Fin s.features.length) : Collector s :=
  if place ∈ c.seen then c
  else ⟨place :: c.seen, c.findings ++ [.ofFeature (s.features.get place)]⟩

/-- Whether all features of the section have been found. -/
def isFull (c : Collector s) : Bool := c.seen.length == s.features.length

end Collector

variable {ε : Type}

/-- Looks at pieces of evidence one after the other, apart from those to skip, until all features have
been found. -/
def Section.scan (s : Section) (skip : ε → Bool) (shown : ε → List (Fin s.features.length)) :
    List ε → Collector s → Collector s
  | [], c => c
  | e :: es, c =>
    if skip e then s.scan skip shown es c
    else
      let c := (shown e).foldl .record c
      if c.isFull then c else s.scan skip shown es c

/-- What pieces of evidence show of a section. -/
def Section.detect (s : Section) (skip : ε → Bool) (shown : ε → List (Fin s.features.length))
    (evidence : List ε) : List Finding :=
  if s.features.isEmpty then [] else (s.scan skip shown evidence (.start s)).findings

/-- What style texts show, whatever the case of their letters. -/
def detectInStyles (s : Section) (texts : List String) : List Finding :=
  s.detect String.isEmpty (fun text => s.placesIn (Text.lowercase text.toList)) texts

/-- A tag shows the id that is its name, also behind other words and a hyphen. -/
def isNamed (id tag : List Char) : Bool := id == tag || ('-' :: tag).isSuffixOf id

/-- What tags show. -/
def detectInTags (s : Section) (tags : List String) : List Finding :=
  s.detect (fun _ => false) (fun tag => (List.finRange s.features.length).filter
    fun i => isNamed (s.features.get i).id.toList tag.toList) tags

/-- What scripts show. -/
def detectInScripts (s : Section) (texts : List String) : List Finding :=
  s.detect String.isEmpty (fun text => s.placesIn text.toList) texts

end FeatureAudit
