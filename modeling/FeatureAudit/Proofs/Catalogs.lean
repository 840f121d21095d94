import FeatureAudit.Proofs.Lookups

/-! What catalogs hold: of features with one id the first, each in the section of its kind. -/
namespace FeatureAudit

variable {f : Feature} {fs : List Feature} {seen : List String} {k : Kind} {c : Catalog}

/-- Sorting into boxes loses and repeats nothing, if there is one box for each key. -/
theorem flatMap_filter_perm {α κ : Type} [DecidableEq κ] (key : α → κ) {keys : List κ}
    (hn : keys.Nodup) {l : List α} (h : ∀ x ∈ l, key x ∈ keys) :
    (keys.flatMap fun k => l.filter (key · = k)).Perm l := by
  induction keys generalizing l with
  | nil => simp [List.eq_nil_iff_forall_not_mem.2 fun x hx => List.not_mem_nil (h x hx)]
  | cons k ks ih =>
    obtain ⟨hk, hn⟩ := List.nodup_cons.1 hn
    -- what is left for the other boxes does not belong into the first
    have hrest := ih hn (l := l.filter (key · ≠ k)) fun x hx => by
      obtain ⟨hx, hne⟩ := List.mem_filter.1 hx
      exact (List.mem_cons.1 (h x hx)).resolve_left (by simpa using hne)
    have hboxes : ks.flatMap (fun k' => (l.filter (key · ≠ k)).filter (key · = k')) =
        ks.flatMap fun k' => l.filter (key · = k') := by
      refine List.flatMap_congr fun k' hk' => ?_
      have hne : k' ≠ k := fun he => hk (he ▸ hk')
      rw [List.filter_filter]
      refine List.filter_congr fun x _ => ?_
      by_cases hx : key x = k' <;> simp [hx, hne]
    rw [hboxes] at hrest
    have hsplit := List.filter_append_perm (fun x => decide (key x = k)) l
    simp only [← decide_not] at hsplit
    exact (List.Perm.append_left _ hrest).trans hsplit

namespace Catalog

/-! The first of each id. -/

theorem keepFirst_sublist : (keepFirst seen fs).Sublist fs := by
  induction fs generalizing seen with
  | nil => exact .slnil
  | cons f fs ih =>
    simp only [keepFirst]
    split
    · exact ih.cons f
    · exact ih.cons_cons f

theorem id_notMem_of_mem_keepFirst (h : f ∈ keepFirst seen fs) : f.id ∉ seen := by
  induction fs generalizing seen with
  | nil => simp [keepFirst] at h
  | cons g fs ih =>
    simp only [keepFirst] at h
    split at h
    · exact ih h
    · next hg =>
      rcases List.mem_cons.1 h with rfl | h
      · exact hg
      · exact fun hm => ih h (List.mem_cons_of_mem _ hm)

theorem nodup_keepFirst : ((keepFirst seen fs).map (·.id)).Nodup := by
  induction fs generalizing seen with
  | nil => simp [keepFirst]
  | cons g fs ih =>
    simp only [keepFirst]
    split
    · exact ih
    · refine List.nodup_cons.2 ⟨fun hm => ?_, ih⟩
      obtain ⟨f, hf, he⟩ := List.mem_map.1 hm
      exact id_notMem_of_mem_keepFirst hf (by simp [he])

theorem keepFirst_of_nodup (hn : (fs.map (·.id)).Nodup) (hs : ∀ f ∈ fs, f.id ∉ seen) :
    keepFirst seen fs = fs := by
  induction fs generalizing seen with
  | nil => rfl
  | cons g fs ih =>
    obtain ⟨hg, hn⟩ := List.nodup_cons.1 hn
    rw [keepFirst, if_neg (hs g (by simp)), ih hn]
    intro f hf hm
    rcases List.mem_cons.1 hm with he | hm
    · exact hg (List.mem_map.2 ⟨f, hf, he⟩)
    · exact hs f (by simp [hf]) hm

theorem keepFirst_congr {seen' : List String} (h : ∀ f ∈ fs, f.id ∈ seen ↔ f.id ∈ seen') :
    keepFirst seen fs = keepFirst seen' fs := by
  induction fs generalizing seen seen' with
  | nil => rfl
  | cons f fs ih =>
    have hrest : ∀ g ∈ fs, g.id ∈ f.id :: seen ↔ g.id ∈ f.id :: seen' := fun g hg => by
      rw [List.mem_cons, List.mem_cons, h g (List.mem_cons_of_mem f hg)]
    simp only [keepFirst, h f List.mem_cons_self, ih hrest,
      ih fun g hg => h g (List.mem_cons_of_mem f hg)]

/-- What is kept of the features with other ids does not depend on those with a certain id. -/
theorem filter_keepFirst {key : String} : (keepFirst seen fs).filter (·.id ≠ key) =
    keepFirst seen (fs.filter (·.id ≠ key)) := by
  induction fs generalizing seen with
  | nil => rfl
  | cons f fs ih =>
    by_cases hf : f.id = key
    · have hseen : keepFirst (f.id :: seen) (fs.filter (·.id ≠ key)) =
          keepFirst seen (fs.filter (·.id ≠ key)) := by
        refine keepFirst_congr fun g hg => ?_
        have hne : g.id ≠ f.id := hf ▸ of_decide_eq_true (List.mem_filter.1 hg).2
        simp [hne]
      rw [List.filter_cons_of_neg (by simpa using hf), keepFirst]
      split
      · exact ih
      · rw [List.filter_cons_of_neg (by simpa using hf), ih, hseen]
    · rw [List.filter_cons_of_pos (by simpa using hf), keepFirst, keepFirst]
      split
      · exact ih
      · rw [List.filter_cons_of_pos (by simpa using hf), ih]

/-! Sections. -/

/-- The features stand in the sections of their kinds, and no two of them have one id. -/
structure WellFormed (c : Catalog) : Prop where
  kind_eq : ∀ k, ∀ f ∈ c.ofKind k, f.kind = k
  nodup : (c.features.map (·.id)).Nodup

theorem ofKind_ofFeatures : (ofFeatures fs).ofKind k = (keepFirst [] fs).filter (·.kind = k) := by
  cases k <;> rfl

theorem features_ofFeatures_perm : (ofFeatures fs).features.Perm (keepFirst [] fs) := by
  have hboxes := flatMap_filter_perm Feature.kind (show Kind.all.Nodup by decide)
    (l := keepFirst [] fs) fun f _ => by cases f.kind <;> decide
  have hsections : (ofFeatures fs).ofKind = fun k => (keepFirst [] fs).filter (·.kind = k) :=
    funext fun _ => ofKind_ofFeatures
  rwa [← hsections] at hboxes

theorem wellFormed_ofFeatures (fs : List Feature) : (ofFeatures fs).WellFormed where
  kind_eq k f hf := by
    rw [ofKind_ofFeatures] at hf
    simpa using (List.mem_filter.1 hf).2
  nodup := ((features_ofFeatures_perm.map _).nodup_iff).2 nodup_keepFirst

theorem filter_kind {k : Kind} (h : ∀ f ∈ fs, f.kind = k) (k' : Kind) :
    fs.filter (·.kind = k') = if k = k' then fs else [] := by
  split
  · next he => exact List.filter_eq_self.2 fun f hf => by simp [h f hf, he]
  · next hne => exact List.filter_eq_nil_iff.2 fun f hf => by simp [h f hf, hne]

/-- The features of a catalog, listed kind by kind, make up the same catalog again. -/
theorem ofFeatures_features (h : c.WellFormed) : ofFeatures c.features = c := by
  have hkept : keepFirst [] c.features = c.features := keepFirst_of_nodup h.nodup (by simp)
  have hsection : ∀ k, c.features.filter (·.kind = k) = c.ofKind k := by
    intro k
    simp only [features, Kind.all, List.flatMap_cons, List.flatMap_nil, List.filter_append,
      filter_kind (h.kind_eq _)]
    cases k <;> simp
  simp only [ofFeatures, hkept, hsection]
  rfl

theorem ofKind_sublist : (c.ofKind k).Sublist c.features := by
  rw [features, List.flatMap_def]
  exact List.sublist_flatten_of_mem (List.mem_map_of_mem (by cases k <;> decide))

theorem getOfKind?_eq_find? {id : String} (h : c.WellFormed) :
    c.getOfKind? k id = (c.ofKind k).find? (·.id = id) :=
  Section.get?_of_nodup ((ofKind_sublist.map _).nodup h.nodup)

theorem get?_eq_find? {id : String} (h : c.WellFormed) :
    c.get? id = c.features.find? (·.id = id) := by
  simp only [get?, getOfKind?_eq_find? h, features, List.find?_flatMap]

theorem get?_of_mem (h : c.WellFormed) (hf : f ∈ c.features) : c.get? f.id = some f := by
  rw [get?_eq_find? h]
  exact (find?_id_eq_some_iff h.nodup).2 ⟨hf, rfl⟩

end Catalog
end FeatureAudit
