import FeatureAudit.Batch.Basic
import FeatureAudit.Proofs.Items

/-! What the tags of scripts and links refer to: the values of the first attributes with the names,
unless a value in front of these looks like one of them. -/
namespace FeatureAudit

open Markup

variable {address : String → String} {as : Attributes} {name front behind after body : List Char}
  {script : Script} {sheet : Stylesheet}

/-- A script whose start tag has the attributes: external if the first source is not blank. -/
def scriptWith (address : String → String) (as : Attributes) (body : List Char) : Script :=
  match firstValue? "src".toList as with
  | some src =>
    if Text.trim src = [] then .inline (String.ofList body)
    else .external (address (String.ofList (Text.trim src)))
  | none => .inline (String.ofList body)

/-- Whether a word of the first relation says that a link leads to a style sheet. -/
def RelatesToSheet (as : Attributes) : Prop :=
  ∃ rel ∈ firstValue? "rel".toList as, ∃ w ∈ Text.words rel, Text.sameAscii w "stylesheet".toList

instance (as : Attributes) : Decidable (RelatesToSheet as) :=
  inferInstanceAs (Decidable (∃ rel ∈ firstValue? "rel".toList as, _))

/-- The style sheet that a link leads to. -/
def sheetWith (address : String → String) (as : Attributes) : Stylesheet :=
  .closed ((firstValue? "href".toList as).map fun href => address (String.ofList (Text.trim href)))

/-- The scripts of a page, each with the offset at which its element starts. -/
def Artifacts.locatedScripts (address : String → String) (cs : List Char) : List (Nat × Script) :=
  (Markup.scripts.located cs).map fun (offset, script) => (offset, scriptOf address script)

/-! Attributes. -/

theorem scriptOf_of_unmentioned (h : ∀ a ∈ as, WrittenAttribute a)
    (hsrc : Unmentioned "src".toList as) :
    Artifacts.scriptOf address (renderAttributes as, body) = scriptWith address as body := by
  rw [Artifacts.scriptOf, attribute?_of_unmentioned (List.all_eq_true.1 (by decide)) h hsrc,
    scriptWith]
  cases firstValue? "src".toList as with
  | none => rfl
  | some src => cases htrim : Text.trim src <;> simp [htrim]

theorem linksStylesheet_of_unmentioned (h : ∀ a ∈ as, WrittenAttribute a)
    (hrel : Unmentioned "rel".toList as) :
    linksStylesheet (renderAttributes as) = true ↔ RelatesToSheet as := by
  rw [linksStylesheet, attribute?_of_unmentioned (List.all_eq_true.1 (by decide)) h hrel,
    RelatesToSheet]
  have hlower : Text.asciiLower "stylesheet".toList = "stylesheet".toList := by decide
  cases firstValue? "rel".toList as with
  | none => simp
  | some rel =>
    simp only [Option.map_some, Text.words_asciiLower, Text.words_trim, List.contains_iff_mem,
      List.mem_map, Option.mem_def, Option.some.injEq, exists_eq_left', Text.sameAscii, hlower,
      beq_iff_eq]

theorem sheetOfLink_of_unmentioned (h : ∀ a ∈ as, WrittenAttribute a)
    (href : Unmentioned "href".toList as) :
    Artifacts.sheetOfLink address (renderAttributes as) = sheetWith address as := by
  rw [Artifacts.sheetOfLink, attribute?_of_unmentioned (List.all_eq_true.1 (by decide)) h href,
    Option.map_map]
  rfl

/-! Tags on a page. -/

theorem startTag_of_asciiLower {kind : List Char} (hk : Item.IsName kind)
    (hlower : ∀ c ∈ kind, c.isLower = true) (hn : Text.asciiLower name = kind)
    (h : ∀ a ∈ as, WrittenAttribute a) :
    Markup.startTag kind (Item.renderStartTag name as ++ after) =
      some (renderAttributes as, after) := by
  have hname : Item.IsName name := Item.isName_of_asciiLower (hn ▸ hk)
  rw [Item.startTag_renderStartTag hlower hname h, if_pos hn]

theorem mem_locatedScripts_iff (hn : Text.asciiLower name = "script".toList)
    (h : ∀ a ∈ as, WrittenAttribute a) (hsrc : Unmentioned "src".toList as) :
    let behind := Item.renderStartTag name as ++ after
    (front.length, script) ∈ Artifacts.locatedScripts address (front ++ behind) ↔
      scripts.ComesTo front behind ∧
        ∃ x ∈ upToEndTag "script".toList after, script = scriptWith address as x.1 := by
  intro behind
  have hstart : Markup.startTag "script".toList behind = some (renderAttributes as, after) :=
    startTag_of_asciiLower (Item.isName_name .script) (Item.isLower_name .script) hn h
  have hread : ∀ y, (∃ t, scripts.read behind = some (y, t)) ↔
      ∃ x ∈ upToEndTag "script".toList after, y = (renderAttributes as, x.1) := by
    intro y
    change (∃ t, readElement "script".toList behind = some (y, t)) ↔ _
    simp only [readElement, hstart]
    cases upToEndTag "script".toList after <;> simp [eq_comm]
  have hlocated : (front.length, script) ∈ Artifacts.locatedScripts address (front ++ behind) ↔
      ∃ y, (front.length, y) ∈ scripts.located (front ++ behind) ∧
        Artifacts.scriptOf address y = script := by simp [Artifacts.locatedScripts]
  simp only [hlocated, Construct.mem_located_iff, hread]
  constructor
  · rintro ⟨y, ⟨hcomes, x, hx, rfl⟩, rfl⟩
    exact ⟨hcomes, x, hx, scriptOf_of_unmentioned h hsrc⟩
  · rintro ⟨hcomes, x, hx, rfl⟩
    exact ⟨_, ⟨hcomes, x, hx, rfl⟩, scriptOf_of_unmentioned h hsrc⟩

theorem mem_locatedSheets_iff (hn : Text.asciiLower name = "link".toList)
    (h : ∀ a ∈ as, WrittenAttribute a) (hrel : Unmentioned "rel".toList as)
    (href : Unmentioned "href".toList as) :
    let behind := Item.renderStartTag name as ++ after
    (front.length, sheet) ∈ Artifacts.locatedSheets address (front ++ behind) ↔
      links.ComesTo front behind ∧ RelatesToSheet as ∧ sheet = sheetWith address as := by
  intro behind
  have hlink : Item.IsName "link".toList := by decide
  have hlower : ∀ c ∈ "link".toList, c.isLower = true := List.all_eq_true.1 (by decide)
  have hread : ∀ y, (∃ t, links.read behind = some (y, t)) ↔ y = renderAttributes as := by
    intro y
    change (∃ t, Markup.startTag "link".toList behind = some (y, t)) ↔ _
    rw [startTag_of_asciiLower hlink hlower hn h]
    simp [eq_comm]
  -- the sheets of styles are in the list as well, but no style starts where a link does
  have hstyle : ∀ y, (front.length, y) ∉ styles.located (front ++ behind) := by
    intro y hy
    obtain ⟨-, t, ht⟩ := Construct.mem_located_iff.1 hy
    have hname : Item.IsName name := Item.isName_of_asciiLower (hn ▸ hlink)
    have hnone : Markup.startTag Enclosing.style.name behind = none := by
      rw [Item.startTag_renderStartTag (Item.isLower_name .style) hname h, hn, if_neg (by decide)]
    exact absurd ((readElement_of_startTag hnone).symm.trans ht) (by simp)
  have hlocated : (front.length, sheet) ∈ Artifacts.locatedSheets address (front ++ behind) ↔
      ∃ y, (front.length, y) ∈ links.located (front ++ behind) ∧ linksStylesheet y = true ∧
        Artifacts.sheetOfLink address y = sheet := by
    simp [Artifacts.locatedSheets, List.mem_merge, hstyle, and_assoc]
  simp only [hlocated, Construct.mem_located_iff, hread]
  constructor
  · rintro ⟨y, ⟨hcomes, rfl⟩, hsheet, rfl⟩
    exact ⟨hcomes, (linksStylesheet_of_unmentioned h hrel).1 hsheet,
      sheetOfLink_of_unmentioned h href⟩
  · rintro ⟨hcomes, hsheet, rfl⟩
    exact ⟨_, ⟨hcomes, rfl⟩, (linksStylesheet_of_unmentioned h hrel).2 hsheet,
      sheetOfLink_of_unmentioned h href⟩

/-- Scripts and links are what the first attributes with the names make them, wherever the reading of
a page comes to their tags, if no value in front of these attributes mentions the names. -/
theorem references_of_unmentioned (base : Option String) (h : ∀ a ∈ as, WrittenAttribute a) :
    let behind := Item.renderStartTag name as ++ after
    let page := front ++ behind
    let address := Url.resolve (base.bind fun b => (Url.parse b).toOption)
    let a := Batch.artifactsOf base (String.ofList page)
    a.scripts = (Artifacts.locatedScripts address page).map Prod.snd ∧
      a.stylesheets = (Artifacts.locatedSheets address page).map Prod.snd ∧
      (Text.asciiLower name = "script".toList → Unmentioned "src".toList as → ∀ script,
        (front.length, script) ∈ Artifacts.locatedScripts address page ↔
          scripts.ComesTo front behind ∧
            ∃ x ∈ upToEndTag "script".toList after, script = scriptWith address as x.1) ∧
      (Text.asciiLower name = "link".toList → Unmentioned "rel".toList as →
        Unmentioned "href".toList as → ∀ sheet,
        (front.length, sheet) ∈ Artifacts.locatedSheets address page ↔
          links.ComesTo front behind ∧ RelatesToSheet as ∧ sheet = sheetWith address as) := by
  intro behind page address a
  refine ⟨?_, ?_, ?_, ?_⟩
  · have hall : (scripts.located page).map Prod.snd = scripts.all page := Construct.map_snd_located
    simp only [a, Batch.artifactsOf, Artifacts.ofMarkup, String.toList_ofList,
      Artifacts.locatedScripts, List.map_map, ← hall]
    rfl
  · simp only [a, Batch.artifactsOf, Artifacts.ofMarkup, String.toList_ofList, address]
  · exact fun hn hsrc _ => mem_locatedScripts_iff hn h hsrc
  · exact fun hn hrel href _ => mem_locatedSheets_iff hn h hrel href

/-- Attributes whose names and values end or start like those that count. -/
def decoys : Attributes := [
  ("data-src".toList, "lazy.js".toList),
  ("title".toList, "src=b.js,href=c.css rel".toList),
  ("REL".toList, "alternate StyleSheet".toList),
  ("Src".toList, " a.js ".toList),
  ("href".toList, " a.css src=d.js".toList),
  ("src".toList, "e.js".toList)]

theorem references_of_unmentioned_decoys :
    let script := Item.renderStartTag "Script".toList decoys ++ "x</script>".toList
    let link := Item.renderStartTag "LINK".toList decoys ++ "<p>".toList
    let base := some "file:///g/"
    let address := Url.resolve (base.bind fun b => (Url.parse b).toOption)
    (∀ a ∈ decoys, WrittenAttribute a) ∧
      (5, Script.external "file:///g/a.js") ∈
        Artifacts.locatedScripts address ("<br> ".toList ++ script) ∧
      (5, Stylesheet.closed (some "file:///g/a.css%20src=d.js")) ∈
        Artifacts.locatedSheets address ("<br> ".toList ++ link) := by
  intro script link base address
  have hwritten : ∀ a ∈ decoys, WrittenAttribute a := by decide
  refine ⟨hwritten, ?_, ?_⟩
  · obtain ⟨-, -, hscript, -⟩ := references_of_unmentioned base hwritten
    refine (hscript (by decide) (by decide) _).2 ⟨⟨5, ?_⟩, ⟨("x".toList, []), ?_, ?_⟩⟩
    all_goals decide +kernel
  · obtain ⟨-, -, -, hlink⟩ := references_of_unmentioned base hwritten
    refine (hlink (by decide) (by decide) (by decide) _).2 ⟨⟨5, ?_⟩, ?_, ?_⟩
    all_goals decide +kernel

/-- What stands in the value of another attribute is taken for the source of a script. -/
theorem source_in_title :
    let as : Attributes := [("title".toList, "a src=b.js".toList)]
    let body := "x".toList
    let page := Item.renderStartTag "script".toList as ++
      (body ++ Item.renderEndTag "script".toList)
    (∀ a ∈ as, WrittenAttribute a) ∧ scriptWith id as body = .inline "x" ∧
      (Batch.artifactsOf none (String.ofList page)).scripts = [.external "b.js\""] := by
  decide +kernel

end FeatureAudit
