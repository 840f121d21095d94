import FeatureAudit.Proofs.Accounting

/-! With more on a page, or more answers, no finding gets lost: neither by the slots of what is
fetched besides, nor by repeated tags, nor by a scan that stops earlier. -/
namespace FeatureAudit

variable {ε α : Type} {es es' : List ε} {xs : List α} {a a' : Artifacts} {o : Options}
  {answer answer' : String → Fetch.Answer} {c : Catalog} {findings findings' : List Finding}

/-- All that is on one page is on another as well, in the same order. -/
structure Artifacts.Within (a a' : Artifacts) : Prop where
  inlineStyles : a.inlineStyles.Sublist a'.inlineStyles
  stylesheets : a.stylesheets.Sublist a'.stylesheets
  tagNames : a.tagNames.Sublist a'.tagNames
  scripts : a.scripts.Sublist a'.scripts

/-- What can be had by the first way of fetching can be had by the second, with the same text. -/
def Fetch.Extends (answer answer' : String → Fetch.Answer) : Prop :=
  ∀ address text, answer address = .ok text → answer' address = .ok text

/-- Each feature that one report tells of is in another, which counts no fewer of any maturity. -/
structure Report.Within (r r' : Report) : Prop where
  ids : r.findings.map (·.id) ⊆ r'.findings.map (·.id)
  total : r.summary.total ≤ r'.summary.total
  counts : ∀ m, r.summary.count m ≤ r'.summary.count m

/-! What is shown. -/

section FirstShown

variable {shows : ε → α → Prop} [∀ e x, Decidable (shows e x)]

/-- Apart from the order, what is first shown is what is shown at all. -/
theorem firstShown_perm :
    (firstShown shows es xs).Perm (xs.filter fun x => es.any fun e => shows e x) := by
  induction es generalizing xs with
  | nil => simp [firstShown]
  | cons e es ih =>
    let shown (x : α) : Bool := (e :: es).any fun e => shows e x
    -- of what any of the pieces shows, the first piece shows a part and the others the rest
    have hfirst : xs.filter (fun x => shows e x) =
        (xs.filter shown).filter fun x => shows e x := by
      rw [List.filter_filter]
      refine List.filter_congr fun x _ => ?_
      by_cases hx : shows e x <;> simp [shown, hx]
    have hrest : (xs.filter fun x => ¬ shows e x).filter (fun x => es.any fun e => shows e x) =
        (xs.filter shown).filter fun x => ¬ shows e x := by
      rw [List.filter_filter, List.filter_filter]
      refine List.filter_congr fun x _ => ?_
      by_cases hx : shows e x <;> simp [shown, hx]
    have hsplit := List.filter_append_perm (fun x => decide (shows e x)) (xs.filter shown)
    simp only [← decide_not] at hsplit
    rw [firstShown, hfirst]
    refine (List.Perm.append_left _ ih).trans ?_
    rw [hrest]
    exact hsplit

theorem mem_firstShown {x : α} :
    x ∈ firstShown shows es xs ↔ x ∈ xs ∧ ∃ e ∈ es, shows e x := by
  rw [firstShown_perm.mem_iff]
  simp

theorem firstShown_subperm_of_subset (h : es ⊆ es') :
    (firstShown shows es xs).Subperm (firstShown shows es' xs) := by
  have hfilter : (xs.filter fun x => es.any fun e => shows e x).Sublist
      (xs.filter fun x => es'.any fun e => shows e x) := by
    refine List.monotone_filter_right xs fun x hx => ?_
    obtain ⟨e, he, hs⟩ := List.any_eq_true.1 hx
    exact List.any_eq_true.2 ⟨e, h he, hs⟩
  exact firstShown_perm.subperm.trans (hfilter.subperm.trans firstShown_perm.symm.subperm)

end FirstShown

/-! What there is to look at. -/

namespace Artifacts

theorem mem_firsts [DecidableEq α] {x : α} {seen : List α} :
    x ∈ firsts seen xs ↔ x ∈ xs ∧ x ∉ seen := by
  induction xs generalizing seen with
  | nil => simp [firsts]
  | cons y ys ih =>
    by_cases hy : y ∈ seen <;> by_cases hx : x = y <;> simp_all [firsts]

/-- A tag that is repeated in other letters, or between blanks, is still there. -/
theorem distinctTags_subset (h : a.tagNames ⊆ a'.tagNames) : a.distinctTags ⊆ a'.distinctTags := by
  intro tag htag
  obtain ⟨hm, -⟩ := mem_firsts.1 htag
  obtain ⟨hm, hne⟩ := List.mem_filter.1 hm
  exact mem_firsts.2 ⟨List.mem_filter.2 ⟨List.map_subset _ h hm, hne⟩, by simp⟩

end Artifacts

theorem toOption_eq_some_iff {x : Except ε α} {y : α} : x.toOption = some y ↔ x = .ok y := by
  cases x <;> simp [Except.toOption]

namespace Options

theorem settleSheet_of_extends (h : Fetch.Extends answer answer') {sheet settled : Stylesheet}
    (hs : o.settleSheet answer sheet = some settled) :
    o.settleSheet answer' sheet = some settled := by
  cases sheet with
  | readable href rules => exact hs
  | closed href =>
    cases href with
    | none => exact hs
    | some href =>
      simp only [settleSheet] at hs ⊢
      split at hs
      · next ho =>
        obtain ⟨text, ht, rfl⟩ := Option.map_eq_some_iff.1 hs
        rw [if_pos ho, h href text (toOption_eq_some_iff.1 ht)]
        rfl
      · cases hs

theorem settleScript_of_extends (h : Fetch.Extends answer answer') {script settled : Script}
    (hs : o.settleScript answer script = some settled) :
    o.settleScript answer' script = some settled := by
  cases script with
  | inline text => exact hs
  | external src =>
    simp only [settleScript] at hs ⊢
    split at hs
    · next ho =>
      obtain ⟨text, ht, rfl⟩ := Option.map_eq_some_iff.1 hs
      rw [if_pos ho, h src text (toOption_eq_some_iff.1 ht)]
      rfl
    · cases hs

end Options

theorem filterMap_subset_of_imp {β : Type} {f g : α → Option β} {xs ys : List α}
    (h : xs ⊆ ys) (hfg : ∀ x y, f x = some y → g x = some y) : xs.filterMap f ⊆ ys.filterMap g := by
  intro y hy
  obtain ⟨x, hx, hf⟩ := List.mem_filterMap.1 hy
  exact List.mem_filterMap.2 ⟨x, h hx, hfg x y hf⟩

/-! Reports. -/

theorem within_ofFindings (h : findings.Subperm findings') :
    (Report.ofFindings findings).Within (.ofFindings findings') where
  ids := List.map_subset _ h.subset
  total := h.length_le
  counts m := by
    rw [Report.ofFindings, Report.ofFindings, count_ofFindings, count_ofFindings]
    exact h.countP_le _

theorem shown_subperm_of_subset {styles styles' tags tags' scripts scripts' : List String}
    (hstyles : styles ⊆ styles') (htags : tags ⊆ tags') (hscripts : scripts ⊆ scripts') :
    (c.shown styles tags scripts).Subperm (c.shown styles' tags' scripts') :=
  ((firstShown_subperm_of_subset hstyles).append (firstShown_subperm_of_subset htags)).append
    (firstShown_subperm_of_subset hscripts)

/-- The texts of a page are among those of a page with more on it, if no answer gets lost. -/
theorem texts_subset (h : a.Within a') (hf : Fetch.Extends answer answer') :
    (o.sourcesOf a).styles.filterMap (Source.text? ((o.plan a).map answer)) ⊆
        (o.sourcesOf a').styles.filterMap (Source.text? ((o.plan a').map answer')) ∧
      (o.sourcesOf a).scripts.filterMap (Source.text? ((o.plan a).map answer)) ⊆
        (o.sourcesOf a').scripts.filterMap (Source.text? ((o.plan a').map answer')) := by
  simp only [texts_sourcesOf, Artifacts.settled]
  constructor
  · intro text ht
    rcases List.mem_append.1 ht with ht | ht
    · exact List.mem_append_left _ (h.inlineStyles.subset ht)
    · have hsheets : a.stylesheets.filterMap (o.settleSheet answer) ⊆
          a'.stylesheets.filterMap (o.settleSheet answer') :=
        filterMap_subset_of_imp h.stylesheets.subset
          fun _ _ => Options.settleSheet_of_extends hf
      obtain ⟨sheet, hs, ht⟩ := List.mem_flatMap.1 ht
      exact List.mem_append_right _ (List.mem_flatMap.2 ⟨sheet, hsheets hs, ht⟩)
  · have hscripts : a.scripts.filterMap (o.settleScript answer) ⊆
        a'.scripts.filterMap (o.settleScript answer') :=
      filterMap_subset_of_imp h.scripts.subset fun _ _ => Options.settleScript_of_extends hf
    exact filterMap_subset_of_imp hscripts fun _ _ => id

theorem within_report (h : a.Within a') (hf : Fetch.Extends answer answer') :
    (report c o a ((o.plan a).map answer)).Within (report c o a' ((o.plan a').map answer')) := by
  obtain ⟨hstyles, hscripts⟩ := texts_subset (o := o) h hf
  have htags := Artifacts.distinctTags_subset h.tagNames.subset
  obtain ⟨fs, hperm, hsub⟩ := shown_subperm_of_subset (c := c) hstyles htags hscripts
  rw [report_eq_ofFindings_shown, report_eq_ofFindings_shown]
  exact within_ofFindings ⟨fs.map .ofFeature, hperm.map _, hsub.map _⟩

/-- A report grows with what is on the page and with what can be fetched, wherever it is put in, and
whatever the order in which answers arrive. -/
theorem within_audit (h : a.Within a') (hf : Fetch.Extends answer answer') (c : Catalog)
    (o : Options) (processors : Nat) :
    (Id.run (audit answer processors c o a)).Within (Id.run (audit answer' processors c o a')) ∧
      ∀ answers answers',
        Fetch.Gathers answer (o.effectiveConcurrency processors) (o.plan a) answers →
        Fetch.Gathers answer' (o.effectiveConcurrency processors) (o.plan a') answers' →
        (report c o a answers).Within (report c o a' answers') := by
  have hreport : (report c o a ((o.plan a).map answer)).Within
      (report c o a' ((o.plan a').map answer')) := within_report h hf
  refine ⟨?_, fun answers answers' hg hg' => ?_⟩
  · simp only [run_audit, ← report_eq_reportAtHand]
    exact hreport
  · rw [Fetch.gathers_eq hg, Fetch.gathers_eq hg']
    exact hreport

/-- A sheet in front of the others shifts the slots, a tag is there again in large letters, and a
script can be had by the second way of fetching only; the scan of the styles stops earlier. -/
theorem within_audit_shifted :
    let feature (kind : Kind) (id : String) : Feature := ⟨id, id, "", none, kind, .limited, []⟩
    let c : Catalog := .ofFeatures [feature .css "grid", feature .css "subgrid",
      feature .html "html-dialog", feature .js "fetch"]
    let a : Artifacts := ⟨["a: grid"], [.closed (some "v")], ["dialog"], [.external "w"]⟩
    let a' : Artifacts := ⟨["a: subgrid", "a: grid"], [.closed (some "u"), .closed (some "v")],
      [" DIALOG ", "dialog"], [.external "w", .external "v"]⟩
    let answer (address : String) : Fetch.Answer :=
      if address = "v" then .ok "a: grid" else .error (.status 404)
    let answer' (address : String) : Fetch.Answer :=
      if address = "w" then .ok "fetch()" else answer address
    let part := Id.run (audit answer 1 c .default a)
    let whole := Id.run (audit answer' 1 c .default a')
    a.Within a' ∧ Fetch.Extends answer answer' ∧ part.Within whole ∧
      part.findings.map (·.id) = ["grid", "html-dialog"] ∧
      whole.findings.map (·.id) = ["grid", "subgrid", "html-dialog", "fetch"] := by
  intro feature c a a' answer answer' part whole
  have h : a.Within a' := ⟨by decide, by decide, by decide, by decide⟩
  have hf : Fetch.Extends answer answer' := by
    intro address text ht
    by_cases hv : address = "v"
    · subst hv
      exact ht
    · simp [answer, hv] at ht
  exact ⟨h, hf, (within_audit h hf c .default 1).1, by decide +kernel, by decide +kernel⟩

end FeatureAudit
