import FeatureAudit.Proofs.Restriction

/-! What every report keeps to: it tells of each feature once, as the catalog has it and kind by
kind, and its summary counts what it tells. -/
namespace FeatureAudit

variable {f : Feature} {fs : List Feature} {c : Catalog} {r : Report} {xs : List Finding}
  {styles tags scripts : List String} {o : Options} {a : Artifacts} {answers : List Fetch.Answer}

/-- The number of findings that a summary gives for a maturity. -/
def Summary.count (s : Summary) : Maturity → Nat
  | .widely => s.widely
  | .newly => s.newly
  | .limited => s.limited

/-- A report that tells of each feature once, as it is in a catalog, those of one kind together; its
summary counts the findings, and the findings of each maturity are part of them, in their order. -/
structure Report.Faithful (c : Catalog) (r : Report) : Prop where
  distinct : (r.findings.map (·.id)).Nodup
  found : ∀ x ∈ r.findings, ∃ f, c.get? x.id = some f ∧ x = .ofFeature f
  byKind : r.findings = Kind.all.flatMap fun k => r.findings.filter (·.kind = k)
  total : r.summary.total = r.findings.length
  buckets : r.summary.total = r.summary.widely + r.summary.newly + r.summary.limited
  counted : ∀ m, (r.ofMaturity m).length = r.summary.count m
  inOrder : ∀ m, (r.ofMaturity m).Sublist r.findings
  split : (Maturity.all.flatMap r.ofMaturity).Perm r.findings
  disjoint : ∀ m m', m ≠ m' → (r.ofMaturity m).Disjoint (r.ofMaturity m')

/-! Summaries. -/

theorem count_ofFindings (m : Maturity) :
    (Summary.ofFindings xs).count m = xs.countP (·.maturity = m) := by
  cases m <;> rfl

theorem length_ofMaturity (m : Maturity) :
    ((Report.ofFindings xs).ofMaturity m).length = (Summary.ofFindings xs).count m := by
  rw [count_ofFindings, List.countP_eq_length_filter]
  rfl

theorem ofMaturity_perm : (Maturity.all.flatMap r.ofMaturity).Perm r.findings :=
  flatMap_filter_perm Finding.maturity (by decide) fun x _ => by cases x.maturity <;> decide

theorem total_eq_buckets : (Summary.ofFindings xs).total = (Summary.ofFindings xs).widely +
    (Summary.ofFindings xs).newly + (Summary.ofFindings xs).limited := by
  have hsplit := (ofMaturity_perm (r := .ofFindings xs)).length_eq
  simp only [Maturity.all, List.flatMap_cons, List.flatMap_nil, List.length_append,
    length_ofMaturity, Summary.count, List.length_nil] at hsplit
  have htotal : (Summary.ofFindings xs).total = (Report.ofFindings xs).findings.length := rfl
  omega

theorem disjoint_ofMaturity {m m' : Maturity} (h : m ≠ m') :
    (r.ofMaturity m).Disjoint (r.ofMaturity m') := by
  intro x hx hx'
  have hm : x.maturity = m := by simpa using (List.mem_filter.1 hx).2
  have hm' : x.maturity = m' := by simpa using (List.mem_filter.1 hx').2
  exact h (hm.symm.trans hm')

/-! Features. -/

/-- No feature is shown that the catalog does not have, or more often than it has it. -/
theorem shown_subperm : (c.shown styles tags scripts).Subperm c.features := by
  have hsections : c.features = c.css ++ c.html ++ c.js := by
    simp [Catalog.features, Catalog.ofKind, Kind.all]
  rw [hsections]
  exact (firstShown_subperm.append firstShown_subperm).append firstShown_subperm

theorem kind_of_mem_firstShown {ε : Type} {shows : ε → Feature → Prop}
    [∀ e f, Decidable (shows e f)] {es : List ε} (h : c.WellFormed) {k : Kind}
    (hf : f ∈ firstShown shows es (c.ofKind k)) : f.kind = k :=
  h.kind_eq k f (firstShown_subperm.subset hf)

theorem shown_byKind (h : c.WellFormed) : c.shown styles tags scripts =
    Kind.all.flatMap fun k => (c.shown styles tags scripts).filter (·.kind = k) := by
  have hcss : ∀ f ∈ firstShown ShownInStyle styles c.css, f.kind = .css :=
    fun f hf => kind_of_mem_firstShown h hf
  have hhtml : ∀ f ∈ firstShown ShownByTag tags c.html, f.kind = .html :=
    fun f hf => kind_of_mem_firstShown h hf
  have hjs : ∀ f ∈ firstShown ShownInScript scripts c.js, f.kind = .js :=
    fun f hf => kind_of_mem_firstShown h hf
  simp only [Kind.all, List.flatMap_cons, List.flatMap_nil, Catalog.shown, List.filter_append,
    Catalog.filter_kind hcss, Catalog.filter_kind hhtml, Catalog.filter_kind hjs]
  simp

/-! Reports. -/

theorem faithful_ofFindings_shown (h : c.WellFormed) :
    (Report.ofFindings ((c.shown styles tags scripts).map .ofFeature)).Faithful c where
  distinct := by
    have hid : ((c.shown styles tags scripts).map Feature.id).Nodup := by
      have hsub : (c.shown styles tags scripts).Subperm c.features := shown_subperm
      obtain ⟨l, hl, hs⟩ := hsub
      exact (hl.map _).nodup_iff.1 ((hs.map _).nodup h.nodup)
    simpa [Report.ofFindings, Function.comp_def, Finding.ofFeature] using hid
  found x hx := by
    obtain ⟨f, hf, rfl⟩ := List.mem_map.1 hx
    exact ⟨f, Catalog.get?_of_mem h (shown_subperm.subset hf), rfl⟩
  byKind := by
    have hkinds : c.shown styles tags scripts = _ := shown_byKind h
    have hmap := congrArg (List.map Finding.ofFeature) hkinds
    rw [List.map_flatMap] at hmap
    simp only [Report.ofFindings, List.filter_map]
    exact hmap
  total := rfl
  buckets := total_eq_buckets
  counted := length_ofMaturity
  inOrder _ := List.filter_sublist
  split := ofMaturity_perm
  disjoint _ _ := disjoint_ofMaturity

/-- Whatever the answers, and in whatever order they come. -/
theorem faithful_audit (fs : List Feature) (o : Options) (a : Artifacts)
    (answer : String → Fetch.Answer) (processors : Nat) :
    (Id.run (audit answer processors (.ofFeatures fs) o a)).Faithful (.ofFeatures fs) ∧
      ∀ answers, (report (.ofFeatures fs) o a answers).Faithful (.ofFeatures fs) := by
  have hall : ∀ answers, (report (.ofFeatures fs) o a answers).Faithful (.ofFeatures fs) := by
    intro answers
    rw [report_eq_ofFindings_shown]
    exact faithful_ofFindings_shown (Catalog.wellFormed_ofFeatures fs)
  exact ⟨hall _, hall⟩

end FeatureAudit
