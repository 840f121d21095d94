import FeatureAudit.Audit.Basic
import Mathlib.Data.List.Infix

/-! What fetching does for an audit: it puts texts in the places of references, and a reference that
yields no text might as well not be there. -/
namespace FeatureAudit

variable {α : Type} {answer : String → Fetch.Answer} {o : Options} {p : FetchPlan}
  {address : String} {addresses : List String} {concurrency : Nat} {answers : List Fetch.Answer}

/-! Answers, whatever the order in which they arrive. -/

namespace Fetch

/-- The outcomes of fetching resources. Several workers send their messages in any order. -/
inductive Gathers (answer : String → Answer) (concurrency : Nat) (addresses : List String) :
    List Answer → Prop where
  | serial : workers concurrency addresses.length ≤ 1 →
      Gathers answer concurrency addresses (addresses.map answer)
  | parallel {messages : List (Nat × Answer)} : 1 < workers concurrency addresses.length →
      messages.Perm (addresses.zipIdx.map fun a => (a.2, answer a.1)) →
      Gathers answer concurrency addresses (collect addresses.length messages)

theorem lookup_of_perm {messages : List (Nat × Answer)} {i : Nat}
    (h : messages.Perm (addresses.zipIdx.map fun a => (a.2, answer a.1)))
    (hi : i < addresses.length) : messages.lookup i = addresses[i]?.map answer := by
  have hmem : ∀ i x, (i, x) ∈ messages ↔ addresses[i]?.map answer = some x := by
    intro i x
    simp [h.mem_iff, List.mk_mem_zipIdx_iff_getElem?]
  cases hl : messages.lookup i with
  | none =>
    have hm := (hmem i (answer addresses[i])).2 (by simp [hi])
    simpa using List.lookup_eq_none_iff.1 hl _ hm
  | some x =>
    obtain ⟨before, after, rfl, -⟩ := List.lookup_eq_some_iff.1 hl
    exact ((hmem i x).1 (by simp)).symm

theorem collect_of_perm {messages : List (Nat × Answer)}
    (h : messages.Perm (addresses.zipIdx.map fun a => (a.2, answer a.1))) :
    collect addresses.length messages = addresses.map answer := by
  refine List.ext_getElem? fun i => ?_
  by_cases hi : i < addresses.length
  · simp [collect, hi, lookup_of_perm h hi]
  · simp [collect, hi]

theorem gathers_eq (h : Gathers answer concurrency addresses answers) :
    answers = addresses.map answer := by
  cases h with
  | serial _ => rfl
  | parallel _ hp => exact collect_of_perm hp

theorem run_fetchAll (answer : String → Answer) :
    Id.run (fetchAll answer concurrency addresses) = addresses.map answer := by
  simp only [fetchAll]
  split
  · exact List.idRun_mapM
  · simp only [Id.run_bind, Id.run_pure, List.idRun_mapM]
    exact collect_of_perm (.refl _)

end Fetch

/-! Plans. -/

namespace FetchPlan

/-- The slot of an address is its place, and no address has two. -/
def Sound (p : FetchPlan) : Prop :=
  ∀ address i, p.slots.lookup address = some i ↔ p.addresses[i]? = some address

theorem sound_empty : empty.Sound := by simp [Sound, empty]

theorem sound_slot (h : p.Sound) : (p.slot address).2.Sound := by
  unfold slot
  cases hl : p.slots.lookup address with
  | some i => exact h
  | none =>
    intro other i
    have hnew : p.addresses[i]? ≠ some address := fun hi => by simp [(h address i).2 hi] at hl
    by_cases ho : other = address
    · subst ho
      grind
    · have := h other i
      grind

theorem addresses_slot_prefix : p.addresses <+: (p.slot address).2.addresses := by
  unfold slot
  cases p.slots.lookup address <;> simp

theorem getElem?_slot (h : p.Sound) :
    (p.slot address).2.addresses[(p.slot address).1]? = some address := by
  unfold slot
  cases hl : p.slots.lookup address with
  | some i => exact (h address i).1 hl
  | none => simp

/-- The texts of sources, whatever is fetched beyond what they need. -/
structure Yields (answer : String → Fetch.Answer) (p : FetchPlan)
    (planned : List Source × FetchPlan) (texts : List String) : Prop where
  sound : planned.2.Sound
  grows : p.addresses <+: planned.2.addresses
  texts : ∀ addresses, planned.2.addresses <+: addresses →
    planned.1.filterMap (Source.text? (addresses.map answer)) = texts

theorem yields_fetch (h : p.Sound) :
    Yields answer p (p.fetch address) (answer address).toOption.toList := by
  refine ⟨sound_slot h, addresses_slot_prefix, fun addresses hp => ?_⟩
  have hs : addresses[(p.slot address).1]? = some address := by
    have hs : (p.slot address).2.addresses[(p.slot address).1]? = some address := getElem?_slot h
    obtain ⟨hi, -⟩ := List.getElem?_eq_some_iff.1 hs
    obtain ⟨later, rfl⟩ := hp
    exact (List.getElem?_append_left hi).trans hs
  cases ha : (answer address).toOption <;> simp [fetch, Source.text?, hs, ha]

theorem yields_texts (h : p.Sound) {texts : List String} :
    Yields answer p (texts.map .text, p) texts := by
  refine ⟨h, List.prefix_rfl, fun addresses _ => ?_⟩
  rw [List.filterMap_map]
  exact List.filterMap_some

theorem yields_skipped (h : p.Sound) : Yields answer p ([.skipped], p) [] :=
  ⟨h, List.prefix_rfl, fun _ _ => rfl⟩

/-- What one thing plans stays in the places it was put while others plan theirs. -/
theorem yields_sources {step : FetchPlan → α → List Source × FetchPlan} {texts : α → List String}
    (hstep : ∀ p x, p.Sound → Yields answer p (step p x) (texts x)) (h : p.Sound) (xs : List α) :
    Yields answer p (sources step p xs) (xs.flatMap texts) := by
  induction xs generalizing p with
  | nil => exact ⟨h, List.prefix_rfl, fun _ _ => rfl⟩
  | cons x xs ih =>
    have hx := hstep p x h
    have hxs := ih hx.sound
    refine ⟨hxs.sound, hx.grows.trans hxs.grows, fun addresses hp => ?_⟩
    simp only [sources, List.filterMap_append, List.flatMap_cons]
    rw [hx.texts addresses (hxs.grows.trans hp), hxs.texts addresses hp]

end FetchPlan

/-! Pages whose texts are at hand. -/

/-- A style sheet with its rules in place; none if they cannot be had. -/
def Options.settleSheet (o : Options) (answer : String → Fetch.Answer) :
    Stylesheet → Option Stylesheet
  | .readable href rules => some (.readable href rules)
  | .closed (some href) =>
    if o.styles then (answer href).toOption.map fun text => .readable (some href) [text] else none
  | .closed none => none

/-- A script with its text in place; none if it cannot be had or is not to be fetched. -/
def Options.settleScript (o : Options) (answer : String → Fetch.Answer) : Script → Option Script
  | .inline text => some (.inline text)
  | .external src =>
    if o.scripts ∧ ∀ mark ∈ o.excluded, mark ≠ "" → ¬ mark.toList <:+: src.toList
    then (answer src).toOption.map .inline
    else none

/-- A page without references. -/
def Artifacts.settled (a : Artifacts) (o : Options) (answer : String → Fetch.Answer) : Artifacts :=
  { a with
    stylesheets := a.stylesheets.filterMap (o.settleSheet answer)
    scripts := a.scripts.filterMap (o.settleScript answer) }

def Stylesheet.rules : Stylesheet → List String
  | readable _ rules => rules
  | closed _ => []

def Script.text? : Script → Option String
  | inline text => some text
  | external _ => none

/-- The report on what is at hand. -/
def reportAtHand (c : Catalog) (a : Artifacts) : Report :=
  let styles := a.inlineStyles ++ a.stylesheets.flatMap (·.rules)
  .ofFindings (detectInStyles (c.section .css) styles ++
    detectInTags (c.section .html) a.distinctTags ++
    detectInScripts (c.section .js) (a.scripts.filterMap (·.text?)))

variable {c : Catalog} {a : Artifacts}

theorem excludes_eq_false_iff : o.excludes address = false ↔
    ∀ mark ∈ o.excluded, mark ≠ "" → ¬ mark.toList <:+: address.toList := by
  simp only [Options.excludes, List.any_eq_false, Bool.and_eq_true, not_and, Text.occurs_iff]
  simp

theorem yields_sheetSources (p : FetchPlan) (sheet : Stylesheet) (h : p.Sound) :
    FetchPlan.Yields answer p (o.sheetSources p sheet)
      ((o.settleSheet answer sheet).toList.flatMap (·.rules)) := by
  cases sheet with
  | readable href rules =>
    simpa [Options.sheetSources, Options.settleSheet, Stylesheet.rules] using
      FetchPlan.yields_texts h
  | closed href =>
    cases href with
    | none => exact FetchPlan.yields_skipped h
    | some href =>
      cases ho : o.styles with
      | false =>
        simpa [Options.sheetSources, Options.settleSheet, ho] using FetchPlan.yields_skipped h
      | true =>
        have hf : FetchPlan.Yields answer p (p.fetch href) _ := FetchPlan.yields_fetch h
        cases ha : (answer href).toOption <;>
          simpa [Options.sheetSources, Options.settleSheet, Stylesheet.rules, ho, ha] using hf

theorem yields_scriptSources (p : FetchPlan) (script : Script) (h : p.Sound) :
    FetchPlan.Yields answer p (o.scriptSources p script)
      ((o.settleScript answer script).toList.filterMap (·.text?)) := by
  cases script with
  | inline text =>
    have ht : FetchPlan.Yields answer p ([text].map .text, p) [text] := FetchPlan.yields_texts h
    simpa [Options.scriptSources, Options.settleScript, Script.text?] using ht
  | external src =>
    simp only [Options.scriptSources, Options.settleScript, ← excludes_eq_false_iff]
    cases ho : o.scripts with
    | false => simpa using FetchPlan.yields_skipped h
    | true =>
      cases hx : o.excludes src with
      | true => simpa using FetchPlan.yields_skipped h
      | false =>
        have hf : FetchPlan.Yields answer p (p.fetch src) _ := FetchPlan.yields_fetch h
        cases ha : (answer src).toOption <;> simpa [Script.text?, ha] using hf

/-- The sources of a page stand for the texts of its settled form. -/
theorem texts_sourcesOf :
    (o.sourcesOf a).styles.filterMap (Source.text? ((o.plan a).map answer)) =
        a.inlineStyles ++ (a.settled o answer).stylesheets.flatMap (·.rules) ∧
      (o.sourcesOf a).scripts.filterMap (Source.text? ((o.plan a).map answer)) =
        (a.settled o answer).scripts.filterMap (·.text?) := by
  have hsheets : FetchPlan.Yields answer _ _ _ :=
    FetchPlan.yields_sources (yields_sheetSources (o := o)) FetchPlan.sound_empty a.stylesheets
  have hscripts : FetchPlan.Yields answer _ _ _ :=
    FetchPlan.yields_sources (yields_scriptSources (o := o)) hsheets.sound a.scripts
  constructor
  · have ht := hsheets.texts (o.plan a) hscripts.grows
    simp only [Options.sourcesOf, List.filterMap_append, ht, Artifacts.settled,
      List.filterMap_eq_flatMap_toList (o.settleSheet answer), List.flatMap_assoc]
    simp [List.filterMap_map, Function.comp_def, Source.text?]
  · have ht := hscripts.texts (o.plan a) List.prefix_rfl
    simp only [Options.sourcesOf, ht, Artifacts.settled,
      List.filterMap_eq_flatMap_toList (o.settleScript answer), List.filterMap_flatMap]

theorem report_eq_reportAtHand (c : Catalog) :
    report c o a ((o.plan a).map answer) = reportAtHand c (a.settled o answer) := by
  simp only [report, reportAtHand, texts_sourcesOf]
  rfl

theorem run_audit {processors : Nat} :
    Id.run (audit answer processors c o a) = reportAtHand c (a.settled o answer) := by
  simp only [audit, Id.run_bind, Fetch.run_fetchAll, Id.run_pure]
  exact report_eq_reportAtHand c

/-- What is at hand is not asked for again. -/
theorem settled_settled (o' : Options) (other : String → Fetch.Answer) :
    (a.settled o answer).settled o' other = a.settled o answer := by
  have hsheet : ∀ sheet ∈ a.stylesheets.filterMap (o.settleSheet answer),
      o'.settleSheet other sheet = some sheet := by
    intro sheet hm
    obtain ⟨source, -, hs⟩ := List.mem_filterMap.1 hm
    cases source with
    | readable href rules => obtain rfl := Option.some.inj hs; rfl
    | closed href =>
      cases href with
      | none => simp [Options.settleSheet] at hs
      | some href =>
        simp only [Options.settleSheet] at hs
        split at hs
        · obtain ⟨text, -, rfl⟩ := Option.map_eq_some_iff.1 hs
          rfl
        · simp at hs
  have hscript : ∀ script ∈ a.scripts.filterMap (o.settleScript answer),
      o'.settleScript other script = some script := by
    intro script hm
    obtain ⟨source, -, hs⟩ := List.mem_filterMap.1 hm
    cases source with
    | inline text => obtain rfl := Option.some.inj hs; rfl
    | external src =>
      simp only [Options.settleScript] at hs
      split at hs
      · obtain ⟨text, -, rfl⟩ := Option.map_eq_some_iff.1 hs
        rfl
      · simp at hs
  have hkeep : ∀ {β : Type} {f : β → Option β} {xs : List β}, (∀ x ∈ xs, f x = some x) →
      xs.filterMap f = xs := fun h => by simpa using List.filterMap_congr h
  simp only [Artifacts.settled, hkeep hsheet, hkeep hscript]

/-- Whatever order answers come in, and however many are fetched at a time, an audit reports what it
reports on the settled page, for which nothing is fetched. -/
theorem audit_eq_audit_settled (c : Catalog) (o o' : Options) (a : Artifacts)
    (answer other : String → Fetch.Answer) (processors processors' : Nat) :
    Id.run (audit answer processors c o a) =
        Id.run (audit other processors' c o' (a.settled o answer)) ∧
      ∀ answers, Fetch.Gathers answer (o.effectiveConcurrency processors) (o.plan a) answers →
        report c o a answers = Id.run (audit other processors' c o' (a.settled o answer)) := by
  simp only [run_audit, settled_settled, true_and]
  intro answers h
  rw [Fetch.gathers_eq h]
  exact report_eq_reportAtHand c

/-- A sheet that is linked twice and is a script as well, a script that is left out and one that is
missing; the answer for the second address comes first. -/
theorem audit_eq_audit_settled_shared :
    let c : Catalog := .ofFeatures [⟨"css-grid", "Grid", "", none, .css, .widely, []⟩,
      ⟨"grid", "Grid", "", none, .js, .newly, []⟩]
    let o : Options := { Options.default with concurrency := some 2 }
    let a : Artifacts := ⟨[], [.closed (some "u"), .closed none, .closed (some "u")], [],
      [.external "v", .external "google-analytics", .external "u"]⟩
    let answer (address : String) : Fetch.Answer :=
      if address = "u" then .ok "display: grid" else .error (.status 404)
    let answers := Fetch.collect 2 [(1, answer "v"), (0, answer "u")]
    o.plan a = ["u", "v"] ∧ Fetch.Gathers answer 2 ["u", "v"] answers ∧
      report c o a answers = Id.run (audit answer 1 c o.offline (a.settled o answer)) := by
  intro c o a answer answers
  have hplan : o.plan a = ["u", "v"] := by decide
  have hgathers : Fetch.Gathers answer 2 ["u", "v"] answers :=
    .parallel (by decide) (List.Perm.swap _ _ _)
  refine ⟨hplan, hgathers, ?_⟩
  exact (audit_eq_audit_settled c o o.offline a answer answer 1 1).2 answers (hplan ▸ hgathers)

end FeatureAudit
