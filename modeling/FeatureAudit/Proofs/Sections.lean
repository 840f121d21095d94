import FeatureAudit.Proofs.Catalogs
import Mathlib.Data.Finset.Card

/-! How a catalog stands for a list of features, in which ids may be repeated: each section holds the
features of its kind that are the first with their ids, and the places of ids lead to these. -/
namespace FeatureAudit.Catalog

variable {f : Feature} {fs : List Feature} {seen : List String} {id : String} {k : Kind}

/-- No feature before a place has the id of the feature there. -/
def IsFirst (fs : List Feature) (i : Fin fs.length) : Prop :=
  ∀ j < i, (fs.get j).id ≠ (fs.get i).id

instance : DecidablePred (IsFirst fs) := fun i =>
  inferInstanceAs (Decidable (∀ j < i, (fs.get j).id ≠ (fs.get i).id))

theorem isFirst_succ {i : Fin fs.length} :
    IsFirst (f :: fs) i.succ ↔ f.id ≠ (fs.get i).id ∧ IsFirst fs i := by
  simp [IsFirst, Fin.forall_fin_succ]

/-! What is kept. -/

theorem keepFirst_eq_map_get : keepFirst seen fs =
    ((List.finRange fs.length).filter fun i => (fs.get i).id ∉ seen ∧ IsFirst fs i).map fs.get := by
  induction fs generalizing seen with
  | nil => rfl
  | cons f fs ih =>
    have hfirst : IsFirst (f :: fs) 0 := fun j hj => absurd hj (Fin.not_lt_zero j)
    have hlater : ∀ i : Fin fs.length,
        (((f :: fs).get i.succ).id ∉ seen ∧ IsFirst (f :: fs) i.succ ↔
          (fs.get i).id ∉ f.id :: seen ∧ IsFirst fs i) := by
      intro i
      simp only [isFirst_succ, List.get_cons_succ', List.mem_cons, not_or]
      tauto
    simp only [List.length_cons, List.finRange_succ, List.filter_cons, List.filter_map,
      Function.comp_def, hlater]
    by_cases hf : f.id ∈ seen
    · have hseen : ∀ id, id ∈ f.id :: seen ↔ id ∈ seen := by
        intro id
        rw [List.mem_cons, or_iff_right_of_imp]
        rintro rfl
        exact hf
      rw [keepFirst, if_pos hf, ih, if_neg (by simp [hf]), List.map_map]
      simp only [hseen]
      rfl
    · rw [keepFirst, if_neg hf, ih, if_pos (by simp [hf, hfirst]), List.map_cons, List.map_map]
      rfl

theorem find?_keepFirst : (keepFirst seen fs).find? (·.id = id) =
    if id ∈ seen then none else fs.find? (·.id = id) := by
  induction fs generalizing seen with
  | nil => simp [keepFirst]
  | cons f fs ih =>
    by_cases hf : f.id ∈ seen <;> by_cases hid : f.id = id
    · subst hid
      simp [keepFirst, hf, ih]
    · simp [keepFirst, hf, ih, hid]
    · subst hid
      simp [keepFirst, hf]
    · simp [keepFirst, hf, ih, hid, Ne.symm hid]

theorem length_keepFirst : (keepFirst [] fs).length = (fs.map (·.id)).toFinset.card := by
  have hids : ((keepFirst [] fs).map (·.id)).toFinset = (fs.map (·.id)).toFinset := by
    ext id
    have hfind : (keepFirst [] fs).find? (·.id = id) = fs.find? (·.id = id) := by
      simp [find?_keepFirst]
    have hsome : ∀ gs : List Feature, id ∈ gs.map (·.id) ↔ (gs.find? (·.id = id)).isSome := by
      simp
    rw [List.mem_toFinset, List.mem_toFinset, hsome, hsome, hfind]
  rw [← hids, List.toFinset_card_of_nodup nodup_keepFirst, List.length_map]

/-! The catalog of a list. -/

theorem get?_ofFeatures : (ofFeatures fs).get? id = fs.find? (·.id = id) := by
  have hn : ((ofFeatures fs).features.map (·.id)).Nodup := (wellFormed_ofFeatures fs).nodup
  rw [get?_eq_find? (wellFormed_ofFeatures fs), find?_id_of_perm hn features_ofFeatures_perm]
  simp [find?_keepFirst]

theorem getOfKind?_ofFeatures :
    (ofFeatures fs).getOfKind? k id = (fs.find? (·.id = id)).filter (·.kind = k) := by
  rw [getOfKind?_eq_find? (wellFormed_ofFeatures fs), ofKind_ofFeatures,
    find?_id_filter nodup_keepFirst, find?_keepFirst]
  simp

theorem size_ofFeatures : (ofFeatures fs).size = (fs.map (·.id)).toFinset.card := by
  have hsize : (ofFeatures fs).size = (ofFeatures fs).features.length := by
    simp [size, features, Kind.all, ofKind, Nat.add_assoc]
  rw [hsize, features_ofFeatures_perm.length_eq, length_keepFirst]

/-- What a catalog made of a list of features holds, and what is found in it. -/
structure Represents (c : Catalog) (fs : List Feature) : Prop where
  /-- The features of the kind that are the first with their ids, in their order. -/
  sections : ∀ k, (c.section k).features =
    ((List.finRange fs.length).filter fun i => (fs.get i).kind = k ∧ IsFirst fs i).map fs.get
  distinct : (c.features.map (·.id)).Nodup
  found : ∀ id, c.get? id = fs.find? (·.id = id)
  foundInSection : ∀ k id, (c.section k).get? id = (fs.find? (·.id = id)).filter (·.kind = k)
  contained : ∀ k id,
    (c.section k).contains id ↔ ∃ f, fs.find? (·.id = id) = some f ∧ f.kind = k
  /-- An id leads to the place at which searches of texts report its feature. -/
  placed : ∀ k i, (c.section k).places.lookup ((c.section k).features.get i).id = some i
  listed : c.features =
    (c.section .css).features ++ (c.section .html).features ++ (c.section .js).features
  counted : c.size = (c.section .css).features.length + (c.section .html).features.length +
    (c.section .js).features.length
  total : c.size = (fs.map (·.id)).toFinset.card
  again : ofFeatures c.features = c

theorem represents_ofFeatures (fs : List Feature) : (ofFeatures fs).Represents fs where
  sections k := by
    change (ofFeatures fs).ofKind k = _
    rw [ofKind_ofFeatures, keepFirst_eq_map_get, List.filter_map, List.filter_filter]
    simp
  distinct := (wellFormed_ofFeatures fs).nodup
  found _ := get?_ofFeatures
  foundInSection _ _ := getOfKind?_ofFeatures
  contained k id := by
    have hfound : ((ofFeatures fs).section k).get? id = _ := getOfKind?_ofFeatures
    rw [Section.contains_eq_isSome, hfound, Option.isSome_iff_exists]
    simp [Option.filter_eq_some_iff]
  placed k i := by
    refine Section.lookup_id_get ?_ i
    exact (ofKind_sublist.map _).nodup (wellFormed_ofFeatures fs).nodup
  listed := by simp [features, Kind.all, Catalog.section, Section.ofFeatures]
  counted := rfl
  total := size_ofFeatures
  again := ofFeatures_features (wellFormed_ofFeatures fs)

/-- Of two features with one id the later is in no section, although the kinds differ. -/
example : ofFeatures [⟨"grid", "Grid", "", none, .css, .widely, []⟩,
      ⟨"grid", "Grid", "", none, .js, .newly, []⟩, ⟨"dialog", "Dialog", "", none, .html, .newly, []⟩] =
    ⟨[⟨"grid", "Grid", "", none, .css, .widely, []⟩],
      [⟨"dialog", "Dialog", "", none, .html, .newly, []⟩], []⟩ := by
  decide

end FeatureAudit.Catalog
