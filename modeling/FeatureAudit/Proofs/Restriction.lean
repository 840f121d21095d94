import FeatureAudit.Proofs.Catalogs
import FeatureAudit.Proofs.Evidence
import FeatureAudit.Proofs.Fetching

/-! What is reported of a feature depends on no other feature: a catalog of fewer features gives the
same reports, less what they say of the features left out. -/
namespace FeatureAudit

variable {ε α β : Type} {es : List ε} {fs fs' : List Feature} {findings : List Finding}

/-- What pieces of evidence show, piece by piece; what one has shown is not looked for any more. -/
def firstShown (shows : ε → α → Prop) [∀ e x, Decidable (shows e x)] : List ε → List α → List α
  | [], _ => []
  | e :: es, xs =>
    xs.filter (fun x => shows e x) ++ firstShown shows es (xs.filter fun x => ¬ shows e x)

section FirstShown

variable {shows : ε → α → Prop} [∀ e x, Decidable (shows e x)] {xs : List α}

theorem filter_firstShown (keep : α → Bool) :
    (firstShown shows es xs).filter keep = firstShown shows es (xs.filter keep) := by
  induction es generalizing xs with
  | nil => rfl
  | cons e es ih =>
    simp only [firstShown, List.filter_append, ih, List.filter_filter, Bool.and_comm]

theorem map_firstShown (view : β → α) (ys : List β) :
    (firstShown (fun e y => shows e (view y)) es ys).map view =
      firstShown shows es (ys.map view) := by
  induction es generalizing ys with
  | nil => rfl
  | cons e es ih =>
    simp only [firstShown, List.map_append, ih, List.filter_map, Function.comp_def]

theorem firstShown_subperm : (firstShown shows es xs).Subperm xs := by
  induction es generalizing xs with
  | nil => exact List.nil_subperm
  | cons e es ih =>
    have hsplit := List.filter_append_perm (fun x => decide (shows e x)) xs
    simp only [← decide_not] at hsplit
    exact ((List.subperm_append_left _).2 ih).trans hsplit.subperm

/-- Places that are fresh are those first shown among the places not seen before. -/
theorem fresh_eq_firstShown [DecidableEq α] {seen : List α} :
    fresh (fun e => xs.filter fun x => shows e x) es seen =
      firstShown shows es (xs.filter (· ∉ seen)) := by
  induction es generalizing seen with
  | nil => rfl
  | cons e es ih =>
    have hnew : (xs.filter fun x => shows e x).filter (· ∉ seen) =
        (xs.filter (· ∉ seen)).filter fun x => shows e x := List.filter_comm _ _ _
    have hleft : xs.filter (· ∉ seen ++ (xs.filter (· ∉ seen)).filter fun x => shows e x) =
        (xs.filter (· ∉ seen)).filter fun x => ¬ shows e x := by
      refine (List.filter_congr fun x hx => ?_).trans List.filter_filter.symm
      by_cases hs : x ∈ seen <;> by_cases he : shows e x <;> simp [hx, hs, he]
    simp only [fresh, firstShown, hnew, ih, hleft]

end FirstShown

/-- A report in order is determined: the features first shown, in their turn. -/
theorem InOrder.eq_map_firstShown {shows : ε → Feature → Prop} [∀ e f, Decidable (shows e f)]
    (h : InOrder shows es fs findings) :
    findings = (firstShown shows es fs).map .ofFeature := by
  obtain ⟨places, rfl, hmem, hsorted⟩ := h
  let s : Section := ⟨.css, fs, [], []⟩
  let shown (e : ε) : List (Fin fs.length) :=
    (List.finRange fs.length).filter fun i => shows e (fs.get i)
  have hshown : ∀ e i, i ∈ shown e ↔ shows e (fs.get i) := by simp [shown]
  have hpieces : ∀ e, (shown e).Pairwise (· < ·) := fun e => (List.pairwise_lt_finRange _).filter _
  have hfresh : (fresh shown es []).Pairwise _ := sorted_fresh (s := s) hpieces
  have hmemFresh : ∀ i, i ∈ fresh shown es [] ↔ i ∈ places := by
    intro i
    rw [mem_fresh (s := s), hmem]
    simp [hshown]
  simp only [hshown] at hfresh
  have heq : places = fresh shown es [] := by
    refine List.Perm.eq_of_pairwise ?_ hsorted hfresh ?_
    · intro i j _ _ hij hji
      rcases hij with hij | hij <;> rcases hji with hji | hji <;> omega
    · refine (List.perm_ext_iff_of_nodup ?_ ?_).2 fun i => (hmemFresh i).symm
      · exact hsorted.imp fun hij he => by subst he; omega
      · exact hfresh.imp fun hij he => by subst he; omega
  have hturn : fresh shown es [] =
      firstShown (fun e i => shows e (fs.get i)) es (List.finRange fs.length) := by
    rw [fresh_eq_firstShown]
    simp
  have hfeatures : _ = firstShown shows es _ := map_firstShown fs.get (List.finRange fs.length)
  rw [List.map_get_finRange] at hfeatures
  rw [heq, hturn, ← hfeatures, List.map_map]
  rfl

/-! What audits find. -/

/-- A tag shows a feature whose id is its name, also behind other words and a hyphen. -/
def ShownByTag (tag : String) (f : Feature) : Prop :=
  f.id.toList = tag.toList ∨ ∃ front, f.id.toList = front ++ '-' :: tag.toList

theorem isNamed_iff {tag : String} {f : Feature} :
    isNamed f.id.toList tag.toList = true ↔ ShownByTag tag f := by
  simp only [isNamed, Bool.or_eq_true, beq_iff_eq, List.isSuffixOf_iff_suffix, ShownByTag]
  exact or_congr_right ⟨fun ⟨front, h⟩ => ⟨front, h.symm⟩, fun ⟨front, h⟩ => ⟨front, h.symm⟩⟩

instance (tag : String) (f : Feature) : Decidable (ShownByTag tag f) :=
  decidable_of_iff _ isNamed_iff

variable {c : Catalog} {o : Options} {a : Artifacts} {answers : List Fetch.Answer}

theorem detectInStyles_section (texts : List String) :
    detectInStyles (c.section .css) texts = (firstShown ShownInStyle texts c.css).map .ofFeature :=
  (inOrder_detect_placesIn (c.section .css) Text.lowercase rfl
    (fun _ _ => mem_placesIn_css Search.complete_overlapping) texts).eq_map_firstShown

theorem detectInScripts_section (texts : List String) :
    detectInScripts (c.section .js) texts = (firstShown ShownInScript texts c.js).map .ofFeature :=
  (inOrder_detect_placesIn (c.section .js) id rfl
    (fun _ _ => mem_placesIn_js Search.complete_overlapping) texts).eq_map_firstShown

theorem detectInTags_eq_map_firstShown (s : Section) (tags : List String) :
    detectInTags s tags = (firstShown ShownByTag tags s.features).map .ofFeature := by
  have horder : InOrder ShownByTag tags s.features (detectInTags s tags) := by
    apply inOrder_detect
    · exact fun _ => (List.pairwise_lt_finRange _).filter _
    · exact fun _ _ => by simp [isNamed_iff]
    · simp
  exact horder.eq_map_firstShown

theorem detectInTags_section (tags : List String) :
    detectInTags (c.section .html) tags = (firstShown ShownByTag tags c.html).map .ofFeature :=
  detectInTags_eq_map_firstShown _ tags

/-- The features that texts and tags show, kind by kind. -/
def Catalog.shown (c : Catalog) (styles tags scripts : List String) : List Feature :=
  firstShown ShownInStyle styles c.css ++ firstShown ShownByTag tags c.html ++
    firstShown ShownInScript scripts c.js

theorem report_eq_ofFindings_shown : report c o a answers =
    .ofFindings ((c.shown ((o.sourcesOf a).styles.filterMap (Source.text? answers)) a.distinctTags
      ((o.sourcesOf a).scripts.filterMap (Source.text? answers))).map .ofFeature) := by
  simp only [report, detectInStyles_section, detectInTags_section, detectInScripts_section,
    Catalog.shown, List.map_append]

/-! Fewer features. -/

theorem shown_filter {keep : Feature → Bool} (styles tags scripts : List String) :
    (Catalog.mk (c.css.filter keep) (c.html.filter keep) (c.js.filter keep)).shown
        styles tags scripts =
      (c.shown styles tags scripts).filter keep := by
  simp only [Catalog.shown, List.filter_append, filter_firstShown]

/-- Features out of distinct ones are told by their ids. -/
theorem filter_id_mem_of_sublist (hs : fs'.Sublist fs) (hn : (fs.map (·.id)).Nodup) :
    fs.filter (·.id ∈ fs'.map (·.id)) = fs' := by
  induction hs with
  | slnil => rfl
  | @cons fs' fs f hs ih =>
    obtain ⟨hf, hn⟩ := List.nodup_cons.1 hn
    have hout : f.id ∉ fs'.map (·.id) := fun hm => hf ((hs.map _).subset hm)
    rw [List.filter_cons_of_neg (by simpa using hout), ih hn]
  | @cons_cons fs' fs f hs ih =>
    obtain ⟨hf, hn⟩ := List.nodup_cons.1 hn
    have hother : ∀ g ∈ fs, g.id ≠ f.id := fun g hg he => hf (List.mem_map.2 ⟨g, hg, he⟩)
    have hrest : fs.filter (·.id ∈ (f :: fs').map (·.id)) = fs.filter (·.id ∈ fs'.map (·.id)) :=
      List.filter_congr fun g hg => by simp [hother g hg]
    rw [List.filter_cons_of_pos (by simp), hrest, ih hn]

theorem ofFeatures_of_nodup (hn : (fs.map (·.id)).Nodup) : Catalog.ofFeatures fs =
    ⟨fs.filter (·.kind = .css), fs.filter (·.kind = .html), fs.filter (·.kind = .js)⟩ := by
  have hkept : Catalog.keepFirst [] fs = fs := Catalog.keepFirst_of_nodup hn (by simp)
  simp only [Catalog.ofFeatures, hkept]

theorem ofFeatures_of_sublist (hs : fs'.Sublist fs) (hn : (fs.map (·.id)).Nodup) :
    let c := Catalog.ofFeatures fs
    let keep (f : Feature) : Bool := f.id ∈ fs'.map (·.id)
    Catalog.ofFeatures fs' = ⟨c.css.filter keep, c.html.filter keep, c.js.filter keep⟩ := by
  intro c keep
  have hkept : fs.filter keep = fs' := filter_id_mem_of_sublist hs hn
  simp only [c, ofFeatures_of_nodup hn, ofFeatures_of_nodup ((hs.map _).nodup hn),
    List.filter_comm keep, hkept]

/-- What a report says of features with certain ids. -/
def Report.restrict (r : Report) (ids : List String) : Report :=
  .ofFindings (r.findings.filter (·.id ∈ ids))

theorem report_ofFeatures_of_sublist (hs : fs'.Sublist fs) (hn : (fs.map (·.id)).Nodup) :
    report (.ofFeatures fs') o a answers =
      (report (.ofFeatures fs) o a answers).restrict (fs'.map (·.id)) := by
  rw [ofFeatures_of_sublist hs hn, report_eq_ofFindings_shown, report_eq_ofFindings_shown,
    shown_filter]
  simp only [Report.restrict, Report.ofFindings, List.filter_map]
  rfl

/-- An audit for some of the features asks for the same resources, and reports of these features
what an audit for all of them does, in the same order. -/
theorem audit_ofFeatures_of_sublist {m : Type → Type} [Monad m] [LawfulMonad m]
    (hs : fs'.Sublist fs) (hn : (fs.map (·.id)).Nodup) (fetch : String → m Fetch.Answer)
    (processors : Nat) (o : Options) (a : Artifacts) :
    audit fetch processors (.ofFeatures fs') o a =
        (·.restrict (fs'.map (·.id))) <$> audit fetch processors (.ofFeatures fs) o a ∧
      ∀ answers, (report (.ofFeatures fs') o a answers).findings =
        (report (.ofFeatures fs) o a answers).findings.filter (·.id ∈ fs'.map (·.id)) := by
  constructor
  · simp only [audit, report_ofFeatures_of_sublist hs hn, map_bind, map_pure]
  · intro answers
    rw [report_ofFeatures_of_sublist hs hn]
    rfl

/-- Ids inside one another; with fewer features the scan stops at another text. -/
theorem audit_ofFeatures_of_sublist_nested :
    let feature (kind : Kind) (id : String) : Feature := ⟨id, id, "", none, kind, .limited, []⟩
    let fs := [feature .css "grid", feature .js "grid-x", feature .css "subgrid",
      feature .html "html-grid", feature .css "css-grid"]
    let fs' := [feature .js "grid-x", feature .css "subgrid", feature .css "css-grid"]
    let a : Artifacts := ⟨["a: GRID"], [.closed (some "u")], ["grid"], [.inline "gridx()"]⟩
    let answer (_ : String) : Fetch.Answer := .ok "subgrid"
    let whole := Id.run (audit answer 1 (.ofFeatures fs) .default a)
    let part := Id.run (audit answer 1 (.ofFeatures fs') .default a)
    fs'.Sublist fs ∧ (fs.map (·.id)).Nodup ∧ part = whole.restrict (fs'.map (·.id)) ∧
      whole.findings.map (·.id) = ["grid", "css-grid", "subgrid", "html-grid", "grid-x"] ∧
      part.findings.map (·.id) = ["css-grid", "subgrid", "grid-x"] := by
  intro feature fs fs' a answer whole part
  have hs : fs'.Sublist fs := by decide
  have hn : (fs.map (·.id)).Nodup := by decide
  have hpart := (audit_ofFeatures_of_sublist (m := Id) hs hn answer 1 .default a).1
  exact ⟨hs, hn, hpart, by decide +kernel, by decide +kernel⟩

end FeatureAudit
