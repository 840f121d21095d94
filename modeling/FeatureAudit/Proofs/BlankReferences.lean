import FeatureAudit.Proofs.Provenance
import FeatureAudit.Proofs.Requests

/-! What blank references ask for. A script with a blank source asks for nothing, but a link to a
style sheet with a blank address asks for what a blank reference spells: the page itself. -/
namespace FeatureAudit

open Markup

variable {address : String → String} {html x : String} {o : Options}

/-! References. -/

/-- The sources of the scripts of a page, without blanks around them. -/
def scriptReferences (cs : List Char) : List (List Char) :=
  (scripts.all cs).filterMap fun script => attribute? "src".toList script.1

/-- The addresses that the links of a page to style sheets have, without blanks around them. -/
def sheetReferences (cs : List Char) : List (List Char) :=
  ((links.all cs).filter linksStylesheet).filterMap (attribute? "href".toList)

/-- A reference on a page that is not blank leads to an address. -/
def RefersTo (address : String → String) (html x : String) : Prop :=
  ∃ reference ∈ sheetReferences html.toList ++ scriptReferences html.toList,
    reference ≠ [] ∧ address (String.ofList reference) = x

/-- An address that is to be fetched for a page: one that a link to a style sheet refers to, or a
script whose source is not blank, unless it is left out. -/
def Wanted (address : String → String) (html : String) (o : Options) (x : String) : Prop :=
  (o.styles ∧ ∃ href ∈ sheetReferences html.toList, address (String.ofList href) = x) ∨
    (o.scripts ∧ (∃ src ∈ scriptReferences html.toList,
        src ≠ [] ∧ address (String.ofList src) = x) ∧
      ∀ mark ∈ o.excluded, mark ≠ "" → ¬ mark.toList <:+: x.toList)

theorem external_mem_scripts_iff : .external x ∈ (Artifacts.ofMarkup address html).scripts ↔
    ∃ src ∈ scriptReferences html.toList, src ≠ [] ∧ address (String.ofList src) = x := by
  simp only [Artifacts.ofMarkup, List.mem_map, Artifacts.scriptOf_eq_external_iff,
    scriptReferences, List.mem_filterMap]
  constructor
  · rintro ⟨script, hs, src, hsrc, h⟩
    exact ⟨src, ⟨script, hs, hsrc⟩, h⟩
  · rintro ⟨src, ⟨script, hs, hsrc⟩, h⟩
    exact ⟨script, hs, src, hsrc, h⟩

theorem stylesheets_perm : (Artifacts.ofMarkup address html).stylesheets.Perm
    ((styles.all html.toList).map Artifacts.sheetOfStyle ++
      ((links.all html.toList).filter linksStylesheet).map (Artifacts.sheetOfLink address)) := by
  refine ((List.merge_perm_append _).map Prod.snd).trans (.of_eq ?_)
  simp only [← Construct.map_snd_located, List.map_append, List.map_map, List.filter_map]
  rfl

theorem closed_mem_stylesheets_iff :
    .closed (some x) ∈ (Artifacts.ofMarkup address html).stylesheets ↔
      ∃ href ∈ sheetReferences html.toList, address (String.ofList href) = x := by
  simp only [stylesheets_perm.mem_iff, List.mem_append, List.mem_map, Artifacts.sheetOfStyle,
    Artifacts.sheetOfLink, sheetReferences, List.mem_filterMap, Stylesheet.closed.injEq,
    Option.map_eq_some_iff, reduceCtorEq, and_false, exists_false, false_or]
  constructor
  · rintro ⟨link, hl, href, hhref, h⟩
    exact ⟨href, ⟨link, hl, hhref⟩, h⟩
  · rintro ⟨href, ⟨link, hl, hhref⟩, h⟩
    exact ⟨link, hl, href, hhref, h⟩

/-! Blank references. -/

theorem Url.join_blank (b : Url) : b.join "" =
    if b.isOpaqueText then .error .baseWithoutPath else .ok { b with fragment := none } := by
  have hsignificant : Url.significant "" = [] := rfl
  simp only [Url.join, Url.read, hsignificant, Url.cutScheme, Url.ofFile, Url.ofFile.beside,
    Url.ofRelative, Url.withNewEnding, ite_self]

/-- A blank reference spells its base without the fragment. -/
theorem Url.resolve_blank (b : Url) : Url.resolve (some b) "" =
    if b.isOpaqueText then "" else ({ b with fragment := none } : Url).print := by
  have hparse : Url.parse "" = .error .noBase := rfl
  simp only [Url.resolve, hparse, Url.join_blank]
  by_cases hb : b.isOpaqueText = true
  · simp only [if_pos hb]
  · simp only [if_neg hb]

/-! Audits. -/

/-- What an audit of a page asks for, in terms of what scripts and links refer to. -/
structure AsksForReferences (base : Option Url) (html : String) (o : Options)
    (asked : List String) : Prop where
  mem_iff : ∀ x, x ∈ asked ↔ Wanted (Url.resolve base) html o x
  /-- It is for its references that a page asks, unless a link to a style sheet has a blank one and
  no other leads to the same address. -/
  referred_iff : (∀ x ∈ asked, RefersTo (Url.resolve base) html x) ↔
    (o.styles → [] ∈ sheetReferences html.toList →
      RefersTo (Url.resolve base) html (Url.resolve base ""))
  /-- For a blank reference of a link to a style sheet the page itself is asked for. -/
  own : ∀ b ∈ base, ¬ b.isOpaqueText → o.styles → [] ∈ sheetReferences html.toList →
    ({ b with fragment := none } : Url).print ∈ asked

theorem mem_plan_ofMarkup_iff :
    x ∈ o.plan (Artifacts.ofMarkup address html) ↔ Wanted address html o x := by
  rw [mem_plan_iff, Wanted, closed_mem_stylesheets_iff, external_mem_scripts_iff]

theorem referred_iff_of_plan :
    (∀ x ∈ o.plan (Artifacts.ofMarkup address html), RefersTo address html x) ↔
      (o.styles → [] ∈ sheetReferences html.toList → RefersTo address html (address "")) := by
  simp only [mem_plan_ofMarkup_iff]
  constructor
  · intro h hstyles hblank
    exact h _ (.inl ⟨hstyles, [], hblank, rfl⟩)
  · rintro h x (⟨hstyles, href, hm, rfl⟩ | ⟨-, ⟨src, hm, hne, rfl⟩, -⟩)
    · by_cases hblank : href = []
      · subst hblank
        exact h hstyles hm
      · exact ⟨href, List.mem_append_left _ hm, hblank, rfl⟩
    · exact ⟨src, List.mem_append_right _ hm, hne, rfl⟩

theorem asksForReferences_audit (base : Option String) (html : String) (o : Options)
    (answer : String → Fetch.Answer) (processors : Nat) (c : Catalog) :
    AsksForReferences (base.bind fun b => (Url.parse b).toOption) html o
      ((audit (Fetch.recording answer) processors c o (Batch.artifactsOf base html)).run []).2 := by
  rw [run_audit_recording, List.nil_append]
  refine ⟨fun x => mem_plan_ofMarkup_iff, referred_iff_of_plan, ?_⟩
  intro b hb hpath hstyles hblank
  refine mem_plan_ofMarkup_iff.2 (.inl ⟨hstyles, [], hblank, ?_⟩)
  rw [Option.mem_def.1 hb, String.ofList_nil, Url.resolve_blank, if_neg hpath]

/-- A page without any address on it asks for itself. -/
theorem page_asks_for_itself :
    let page := "file:///g/p.html"
    let html := "<link rel=\"stylesheet\" href=\"\">"
    let a := Batch.artifactsOf (some page) html
    let address := Url.resolve (Url.parse page).toOption
    page ∈ ((audit (Fetch.recording fun _ => Fetch.lost) 1 (.ofFeatures []) .default a).run []).2 ∧
      ¬ RefersTo address html page := by
  intro page html a address
  have hsheets : sheetReferences html.toList = [[]] := by decide +kernel
  have hscripts : scriptReferences html.toList = [] := by decide +kernel
  refine ⟨?_, ?_⟩
  · rw [run_audit_recording, List.nil_append]
    refine mem_plan_ofMarkup_iff.2 (.inl ⟨rfl, [], by simp [hsheets], ?_⟩)
    decide +kernel
  · rintro ⟨reference, hm, hne, -⟩
    simp [hsheets, hscripts, hne] at hm

end FeatureAudit
