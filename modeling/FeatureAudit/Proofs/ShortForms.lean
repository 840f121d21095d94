import FeatureAudit.Proofs.Recognition

/-! What findings in texts rest on: an id as it is, or what is left of it without `css-` or without
hyphens. The part behind `css-` has to be longer than two characters to be searched for. Of an id with
hyphens it is the id that has to, so less may be left of it. -/
namespace FeatureAudit

variable {c : Catalog} {page : Artifacts} {f : Feature} {x : Finding} {texts : List String}

/-- The texts of a page at hand in which features of styles are looked for. -/
def Artifacts.styleTexts (a : Artifacts) : List String :=
  a.inlineStyles ++ a.stylesheets.flatMap (·.rules)

/-- The texts of a page at hand in which features of scripts are looked for. -/
def Artifacts.scriptTexts (a : Artifacts) : List String := a.scripts.filterMap (·.text?)

/-- An id without its hyphens. -/
def withoutHyphens (id : String) : List Char := id.toList.filter (· != '-')

/-- A style text in small letters holds the id, or more than two characters that are left of it
without `css-`. -/
def GroundsInStyle (id text : String) : Prop :=
  let lower := Text.lowercase text.toList
  id.toList <:+: lower ∨
    ∃ rest, id.toList = "css-".toList ++ rest ∧ 2 < rest.length ∧ rest <:+: lower

/-- A script holds the id, or in letters A to Z of any case more than two characters that are left of
it without hyphens. -/
def GroundsInScript (id text : String) : Prop :=
  let rest := withoutHyphens id
  id.toList <:+: text.toList ∨
    2 < rest.length ∧ ∃ piece, piece <:+: text.toList ∧ Text.sameAscii piece rest

/-- A finding that does not rest on a form of one or two characters. -/
structure Finding.Grounded (page : Artifacts) (x : Finding) : Prop where
  style : x.kind = .css → ∃ text ∈ page.styleTexts, GroundsInStyle x.id text
  long : x.kind = .js → 2 < x.id.toList.length
  script : x.kind = .js → ∃ text ∈ page.scriptTexts, GroundsInScript x.id text

theorem groundsInStyle_of_shown {text : String} (h : ShownInStyle text f) :
    GroundsInStyle f.id text := by
  rcases h with ⟨-, hid⟩ | hrest
  · exact .inl hid
  · exact .inr hrest

/-- Scripts that show a feature by less than three characters do so on good grounds only if the id is
in one of them as well. -/
theorem groundsInScript_iff_of_shown (h : ∃ text ∈ texts, ShownInScript text f) :
    (∃ text ∈ texts, GroundsInScript f.id text) ↔
      2 < (withoutHyphens f.id).length ∨ ∃ text ∈ texts, f.id.toList <:+: text.toList := by
  constructor
  · rintro ⟨text, ht, hid | ⟨hlong, -⟩⟩
    · exact .inr ⟨text, ht, hid⟩
    · exact .inl hlong
  · rintro (hlong | ⟨text, ht, hid⟩)
    · obtain ⟨text, ht, -, hid | ⟨-, hpiece⟩⟩ := h
      · exact ⟨text, ht, .inl hid⟩
      · exact ⟨text, ht, .inr ⟨hlong, hpiece⟩⟩
    · exact ⟨text, ht, .inl hid⟩

/-- Only features of scripts are shown without good grounds. -/
theorem grounded_ofFeature_iff (h : c.WellFormed) {tags : List String}
    (hf : f ∈ c.shown page.styleTexts tags page.scriptTexts) :
    (Finding.ofFeature f).Grounded page ↔ (f.kind = .js → 2 < (withoutHyphens f.id).length ∨
      ∃ text ∈ page.scriptTexts, f.id.toList <:+: text.toList) := by
  have hshown := (mem_shown_iff h (shown_subperm.subset hf)).1 hf
  rcases hshown with ⟨hk, text, ht, hs⟩ | ⟨hk, -⟩ | ⟨hk, hs⟩
  · have hjs : f.kind ≠ .js := by simp [hk]
    refine iff_of_true ⟨fun _ => ⟨text, ht, groundsInStyle_of_shown hs⟩, ?_, ?_⟩ ?_
    all_goals exact fun he => (hjs he).elim
  · have hcss : f.kind ≠ .css := by simp [hk]
    have hjs : f.kind ≠ .js := by simp [hk]
    refine iff_of_true ⟨fun he => (hcss he).elim, ?_, ?_⟩ ?_
    all_goals exact fun he => (hjs he).elim
  · have hlong : 2 < f.id.toList.length := by
      obtain ⟨text, -, hlong, -⟩ := hs
      exact hlong
    have hscript := groundsInScript_iff_of_shown hs
    constructor
    · intro hg _
      exact hscript.1 (hg.script hk)
    · intro hgood
      have hcss : f.kind ≠ .css := by simp [hk]
      exact ⟨fun he => (hcss he).elim, fun _ => hlong, fun _ => hscript.2 (hgood hk)⟩

/-- A finding of an audit rests on the id or on a form of it that is long enough, unless it is one in
scripts of which none holds the id and of whose id no more than two characters are left without
hyphens. -/
theorem grounded_iff_of_mem_findings (fs : List Feature) (o : Options) (a : Artifacts)
    (answer : String → Fetch.Answer) (processors : Nat)
    (hx : x ∈ (Id.run (audit answer processors (.ofFeatures fs) o a)).findings) :
    let page := a.settled o answer
    x.Grounded page ↔ (x.kind = .js → 2 < (withoutHyphens x.id).length ∨
      ∃ text ∈ page.scriptTexts, x.id.toList <:+: text.toList) := by
  intro page
  rw [run_audit, ← report_eq_reportAtHand, report_eq_ofFindings_shown, texts_sourcesOf.1,
    texts_sourcesOf.2] at hx
  obtain ⟨f, hf, rfl⟩ := List.mem_map.1 hx
  exact grounded_ofFeature_iff (Catalog.wellFormed_ofFeatures fs) hf

/-- Two letters that are left of an id in a script, which another script holds as it is, and three
that are left of one in a style sheet that is fetched. -/
theorem grounded_iff_of_mem_findings_short :
    let feature (kind : Kind) (id : String) : Feature := ⟨id, id, "", none, kind, .limited, []⟩
    let fs := [feature .js "a-b", feature .css "css-has", feature .css "css-at"]
    let a : Artifacts := ⟨["at"], [.closed (some "u")], [], [.inline "ab", .inline "a-b"]⟩
    let answer (_ : String) : Fetch.Answer := .ok ":HAS(a)"
    let inStyles : Finding := .ofFeature (feature .css "css-has")
    let inScripts : Finding := .ofFeature (feature .js "a-b")
    (Id.run (audit answer 1 (.ofFeatures fs) .default a)).findings = [inStyles, inScripts] ∧
      inStyles.Grounded (a.settled .default answer) ∧
      inScripts.Grounded (a.settled .default answer) := by
  intro feature fs a answer inStyles inScripts
  have hfound : (Id.run (audit answer 1 (.ofFeatures fs) .default a)).findings =
      [inStyles, inScripts] := by decide +kernel
  refine ⟨hfound, ?_, ?_⟩
  · apply (grounded_iff_of_mem_findings fs .default a answer 1 (by simp [hfound])).2
    decide
  · apply (grounded_iff_of_mem_findings fs .default a answer 1 (by simp [hfound])).2
    decide

/-- An id of three characters is found by the two letters that are left of it. -/
theorem grounded_two_letters :
    let f : Feature := ⟨"a-b", "x", "", none, .js, .limited, []⟩
    let a : Artifacts := ⟨[], [], [], [.inline "ab"]⟩
    let answer (_ : String) : Fetch.Answer := .error (.status 404)
    Finding.ofFeature f ∈ (Id.run (audit answer 1 (.ofFeatures [f]) .default a)).findings ∧
      ¬ (Finding.ofFeature f).Grounded (a.settled .default answer) := by
  intro f a answer
  refine ⟨by decide +kernel, fun hg => ?_⟩
  obtain ⟨text, ht, hground⟩ := hg.script rfl
  obtain rfl : text = "ab" := by simpa [a, Artifacts.settled, Artifacts.scriptTexts,
    Options.settleScript, Script.text?] using ht
  rcases hground with hid | ⟨hlong, -⟩
  · exact absurd hid (by decide)
  · exact absurd hlong (by decide)

end FeatureAudit
