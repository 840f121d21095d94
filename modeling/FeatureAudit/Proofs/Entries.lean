import FeatureAudit.Proofs.Datasets
import FeatureAudit.Proofs.Nesting
import FeatureAudit.Proofs.Sections

/-! What becomes of the entries of a dataset: each that can be used is a feature, each other is
counted, and no entry has a say in what becomes of the others. -/
namespace FeatureAudit

variable {data data' entry : Json} {es es' : Json.Members} {id key : String} {f : Feature}
  {fs fs' : List Feature} {tally : Dataset.Tally}

namespace Dataset

/-- An object with an object `status` and a text `name`. -/
def Usable (entry : Json) : Prop :=
  ∃ members status name, entry = .object members ∧
    members.lookup "status" = some (.object status) ∧ members.lookup "name" = some (.text name)

/-- An object without an object `status`. -/
def LacksStatus (entry : Json) : Prop :=
  ∃ members, entry = .object members ∧ ∀ status, members.lookup "status" ≠ some (.object status)

/-- The support that an entry tells of; none if that is not an object. -/
def supportOf (entry : Json) : Json.Members :=
  match (entry.get? "status").bind (·.get? "support") with
  | some (.object support) => support
  | _ => []

/-- A feature is what an entry describes, with the name of the entry for its id. -/
structure Describes (id : String) (entry : Json) (f : Feature) : Prop where
  id_eq : f.id = id
  name_eq : entry.get? "name" = some (.text f.name)
  browserSupport_eq : f.browserSupport = supportOf entry

/-! Entries one by one. -/

theorem readEntry_eq_noStatus_iff (id : String) :
    readEntry id entry = .noStatus ↔ LacksStatus entry := by
  constructor
  · intro h
    unfold readEntry at h
    split at h
    · next members =>
      split at h
      · next hs => exact ⟨members, rfl, fun status hl => by simp [hl, Json.asObject?] at hs⟩
      · split at h <;> cases h
    · cases h
  · rintro ⟨members, rfl, h⟩
    have hs : (members.lookup "status").bind Json.asObject? = none := by
      refine Option.eq_none_iff_forall_ne_some.2 fun status hs => ?_
      obtain ⟨v, hl, hv⟩ := Option.bind_eq_some_iff.1 hs
      exact h status (Json.asObject?_eq_some_iff.1 hv ▸ hl)
    simp [readEntry, hs]

theorem usable_iff (id : String) : Usable entry ↔ ∃ f, readEntry id entry = .built f := by
  simp only [readEntry_eq_built_iff]
  constructor
  · rintro ⟨members, status, name, h⟩
    exact ⟨_, members, status, name, h.1, h.2.1, h.2.2, rfl⟩
  · rintro ⟨f, members, status, name, h⟩
    exact ⟨members, status, name, h.1, h.2.1, h.2.2.1⟩

instance : DecidablePred Usable := fun entry =>
  decidable_of_iff ((readEntry "" entry).feature?.isSome) <| by
    simp [Option.isSome_iff_exists, feature?_eq_some_iff, ← usable_iff]

instance : DecidablePred LacksStatus := fun _ =>
  decidable_of_iff _ (readEntry_eq_noStatus_iff "")

theorem describes_of_built (h : readEntry id entry = .built f) : Describes id entry f := by
  obtain ⟨members, status, name, rfl, hs, hn, rfl⟩ := readEntry_eq_built_iff.1 h
  refine ⟨rfl, hn, ?_⟩
  simp only [buildFeature, supportOf, Json.get?, hs, Option.bind_some]
  cases status.lookup "support" with
  | none => rfl
  | some v => cases v <;> rfl

/-! All entries. -/

/-- The feature that an entry gives, if it can be used. -/
def featureOf? (kv : String × Json) : Option Feature := (readEntry kv.1 kv.2).feature?

/-- The features that entries give. -/
def featuresOf (es : Json.Members) : List Feature := es.filterMap featureOf?

theorem describes_of_mem {kv : String × Json} (h : featureOf? kv = some f) :
    Describes kv.1 kv.2 f := describes_of_built (feature?_eq_some_iff.1 h)

theorem exists_featureOf?_iff {kv : String × Json} : (∃ f, featureOf? kv = some f) ↔ Usable kv.2 := by
  simp only [featureOf?, feature?_eq_some_iff, usable_iff kv.1]

/-- The features are those that the entries which can be used give, one each. -/
theorem forall₂_built : List.Forall₂ (fun kv f => readEntry kv.1 kv.2 = .built f)
    (es.filter (Usable ·.2)) (featuresOf es) := by
  induction es with
  | nil => exact .nil
  | cons kv es ih =>
    by_cases hu : Usable kv.2
    · obtain ⟨f, hf⟩ := exists_featureOf?_iff.2 hu
      rw [List.filter_cons_of_pos (by simpa using hu), featuresOf, List.filterMap_cons_some hf]
      exact .cons (feature?_eq_some_iff.1 hf) ih
    · have hnone : featureOf? kv = none :=
        Option.eq_none_iff_forall_ne_some.2 fun f hf => hu (exists_featureOf?_iff.1 ⟨f, hf⟩)
      rw [List.filter_cons_of_neg (by simpa using hu), featuresOf, List.filterMap_cons_none hnone]
      exact ih

theorem forall₂_featuresOf :
    List.Forall₂ (fun kv f => Describes kv.1 kv.2 f) (es.filter (Usable ·.2)) (featuresOf es) :=
  forall₂_built.imp fun _ _ => describes_of_built

theorem map_id_featuresOf (es : Json.Members) :
    (featuresOf es).map (·.id) = (es.filter (Usable ·.2)).map Prod.fst := by
  have hids : List.Forall₂ (· = ·) ((featuresOf es).map (·.id))
      ((es.filter (Usable ·.2)).map Prod.fst) := by
    rw [List.forall₂_map_left_iff, List.forall₂_map_right_iff]
    exact forall₂_featuresOf.flip.imp fun _ _ h => h.id_eq
  rwa [List.forall₂_eq_eq_eq] at hids

/-- Each outcome is counted once. -/
theorem length_outcomes (outcomes : List Outcome) : outcomes.length =
    (outcomes.filterMap Outcome.feature?).length + outcomes.count .noStatus +
      outcomes.count .malformed := by
  induction outcomes with
  | nil => rfl
  | cons o outcomes ih =>
    cases o <;> simp only [List.filterMap_cons, Outcome.feature?, List.length_cons, ih]
    · simp
      omega
    · simp
      omega
    · simp
      omega

/-- What is made of entries, and what is told of them. -/
structure Account (es : Json.Members) (fs : List Feature) (tally : Tally) : Prop where
  described : List.Forall₂ (fun kv f => Describes kv.1 kv.2 f) (es.filter (Usable ·.2)) fs
  entries : tally.entries = es.length
  built : tally.built = fs.length
  noStatus : tally.noStatus = es.countP (LacksStatus ·.2)
  total : tally.entries = tally.built + tally.noStatus + tally.malformed

theorem exists_tally (h : HasEntries data es) : ∃ tally, normalize data = .ok (featuresOf es, tally) ∧
    Account es (featuresOf es) tally := by
  let outcomes := es.map fun kv => readEntry kv.1 kv.2
  have hfeatures : outcomes.filterMap Outcome.feature? = featuresOf es := List.filterMap_map
  have hnoStatus : outcomes.count .noStatus = es.countP (LacksStatus ·.2) := by
    rw [List.count_eq_countP, List.countP_map]
    refine List.countP_congr fun kv _ => ?_
    simp [readEntry_eq_noStatus_iff]
  refine ⟨⟨outcomes.length, (featuresOf es).length, outcomes.count .noStatus,
    outcomes.count .malformed⟩, ?_, ?_⟩
  · rw [normalize, entries_eq_ok_iff.2 h, ← hfeatures]
    rfl
  · refine ⟨forall₂_featuresOf, List.length_map _, rfl, hnoStatus, ?_⟩
    rw [← hfeatures]
    exact length_outcomes outcomes

theorem account_of_normalize (h : HasEntries data es) (hn : normalize data = .ok (fs, tally)) :
    fs = featuresOf es ∧ Account es fs tally := by
  obtain ⟨tally', hn', ha⟩ := exists_tally h
  cases hn.symm.trans hn'
  exact ⟨rfl, ha⟩

theorem filter_featuresOf (key : String) :
    (featuresOf es).filter (·.id ≠ key) = featuresOf (es.filter (·.1 ≠ key)) := by
  rw [featuresOf, featuresOf, List.filter_filterMap, List.filterMap_filter]
  refine List.filterMap_congr fun kv _ => ?_
  cases hf : featureOf? kv with
  | none => simp
  | some f => simp [Option.filter, (describes_of_mem hf).id_eq]

end Dataset

namespace Catalog

/-- Nothing of what a dataset gives is lost in its catalog. -/
structure Keeps (c : Catalog) (es : Json.Members) (fs : List Feature) (tally : Dataset.Tally) : Prop
    where
  size : c.size = tally.built
  found : ∀ f ∈ fs, c.get? f.id = some f
  missing : ∀ id, (∀ entry, (id, entry) ∈ es → ¬ Dataset.Usable entry) → c.get? id = none

/-- Two catalogs differ in a feature with a certain id at most. -/
structure AgreeBut (key : String) (c c' : Catalog) : Prop where
  sections : ∀ k, (c.ofKind k).filter (·.id ≠ key) = (c'.ofKind k).filter (·.id ≠ key)
  found : ∀ id, id ≠ key → c.get? id = c'.get? id

theorem keeps_ofFeatures (hn : (es.map Prod.fst).Nodup)
    (h : Dataset.Account es (Dataset.featuresOf es) tally) :
    (ofFeatures (Dataset.featuresOf es)).Keeps es (Dataset.featuresOf es) tally := by
  have hids := Dataset.map_id_featuresOf es
  have hnodup : ((Dataset.featuresOf es).map (·.id)).Nodup := by
    rw [hids]
    exact (List.filter_sublist.map _).nodup hn
  refine ⟨?_, fun f hf => ?_, fun id hid => ?_⟩
  · rw [size_ofFeatures, List.toFinset_card_of_nodup hnodup, List.length_map, h.built]
  · rw [get?_ofFeatures]
    exact (find?_id_eq_some_iff hnodup).2 ⟨hf, rfl⟩
  · rw [get?_ofFeatures, List.find?_eq_none]
    intro f hf he
    have hm : id ∈ (es.filter (Dataset.Usable ·.2)).map Prod.fst := by
      rw [← hids, ← of_decide_eq_true he]
      exact List.mem_map_of_mem hf
    obtain ⟨kv, hkv, rfl⟩ := List.mem_map.1 hm
    obtain ⟨hentry, hu⟩ := List.mem_filter.1 hkv
    exact hid kv.2 hentry (of_decide_eq_true hu)

theorem agreeBut_ofFeatures (h : fs.filter (·.id ≠ key) = fs'.filter (·.id ≠ key)) :
    AgreeBut key (ofFeatures fs) (ofFeatures fs') where
  sections k := by
    have hswap : ∀ gs : List Feature, ((ofFeatures gs).ofKind k).filter (·.id ≠ key) =
        (keepFirst [] (gs.filter (·.id ≠ key))).filter (·.kind = k) := by
      intro gs
      rw [ofKind_ofFeatures, List.filter_comm, filter_keepFirst]
    rw [hswap, hswap, h]
  found id hne := by
    have hother : ∀ gs : List Feature,
        gs.find? (·.id = id) = (gs.filter (·.id ≠ key)).find? (·.id = id) := by
      intro gs
      rw [List.find?_filter]
      congr 1
      funext f
      by_cases hf : f.id = id <;> simp [hf, hne]
    rw [get?_ofFeatures, get?_ofFeatures, hother fs, hother fs', h]

end Catalog

namespace Dataset

/-- How a dataset is normalized, and what its catalog holds. -/
structure Accounted (data : Json) : Prop where
  fails : (∃ e, normalize data = .error e) ↔ (∀ root, data ≠ .object root) ∨
    ∃ root v, data = .object root ∧ root.lookup "features" = some v ∧ ∀ es, v ≠ .object es
  account : ∀ es, HasEntries data es →
    ∃ fs tally, normalize data = .ok (fs, tally) ∧ Account es fs tally
  /-- Where the names of entries are distinct, the catalog holds what is told of. -/
  keeps : ∀ es fs tally, HasEntries data es → (es.map Prod.fst).Nodup →
    normalize data = .ok (fs, tally) →
      Catalog.ofDataset data = .ok (.ofFeatures fs, tally) ∧ (Catalog.ofFeatures fs).Keeps es fs tally
  /-- They are distinct in whatever is read. -/
  distinct : ∀ text es, Json.parse text = .ok data → HasEntries data es → (es.map Prod.fst).Nodup
  /-- Where an entry is another, or missing, the others give what they gave. -/
  others : ∀ key es fs tally data' es' fs' tally', HasEntries data es → HasEntries data' es' →
    es.filter (·.1 ≠ key) = es'.filter (·.1 ≠ key) →
    normalize data = .ok (fs, tally) → normalize data' = .ok (fs', tally') →
      fs.filter (·.id ≠ key) = fs'.filter (·.id ≠ key) ∧
        Catalog.AgreeBut key (.ofFeatures fs) (.ofFeatures fs')

theorem exists_error_iff : (∃ e, normalize data = .error e) ↔ (∀ root, data ≠ .object root) ∨
    ∃ root v, data = .object root ∧ root.lookup "features" = some v ∧ ∀ es, v ≠ .object es := by
  constructor
  · rintro ⟨e, he⟩
    by_contra hno
    push Not at hno
    obtain ⟨⟨root, rfl⟩, hfeatures⟩ := hno
    obtain ⟨fs, tally, hn⟩ := normalize_of_readable ⟨root, rfl, fun v hv => hfeatures root v rfl hv⟩
    cases he.symm.trans hn
  · intro h
    refine normalize_of_not_readable ?_
    rintro ⟨root, rfl, hreadable⟩
    rcases h with h | ⟨root', v, he, hv, h⟩
    · exact h root rfl
    · cases he
      obtain ⟨es, rfl⟩ := hreadable v hv
      exact h es rfl

theorem nodup_of_parse {text : String} (hp : Json.parse text = .ok data) (h : HasEntries data es) :
    (es.map Prod.fst).Nodup := by
  have hnodup : ∀ {depth : Nat}, Json.Regular depth (.object es) → (es.map Prod.fst).Nodup := by
    intro depth hr
    cases depth with
    | zero => exact hr.elim
    | succ depth => exact hr.1
  have hdata : Json.Regular Json.maxDepth data := Json.ensured_regular.of_parse hp
  obtain ⟨root, rfl, hf | ⟨-, rfl⟩⟩ := h
  · exact hnodup (Json.ensured_regular.lookup hdata hf)
  · exact hnodup hdata

theorem accounted (data : Json) : Accounted data where
  fails := exists_error_iff
  account es h := by
    obtain ⟨tally, hn, ha⟩ := exists_tally h
    exact ⟨_, tally, hn, ha⟩
  keeps es fs tally h hd hn := by
    obtain ⟨rfl, ha⟩ := account_of_normalize h hn
    refine ⟨?_, Catalog.keeps_ofFeatures hd ha⟩
    rw [Catalog.ofDataset, hn]
  distinct _ _ := nodup_of_parse
  others key es fs tally data' es' fs' tally' h h' he hn hn' := by
    obtain ⟨rfl, -⟩ := account_of_normalize h hn
    obtain ⟨rfl, -⟩ := account_of_normalize h' hn'
    have hagree : (featuresOf es).filter (·.id ≠ key) = (featuresOf es').filter (·.id ≠ key) := by
      rw [filter_featuresOf, filter_featuresOf, he]
    exact ⟨hagree, Catalog.agreeBut_ofFeatures hagree⟩

/-- Four entries, of which two can be used, and the same in a dataset that lacks the first. -/
theorem accounted_mixed :
    let rest : Json.Members := [("a", .null), ("fetch", .object [("name", .text "Fetch"),
      ("status", .object [("support", .object [("b", .text "1")])])]), ("b", .object [])]
    let es := ("grid", .object [("status", .object []), ("name", .text "Grid")]) :: rest
    let data : Json := .object [("features", .object es)]
    let fetch : Feature := ⟨"fetch", "Fetch", "Fetch", none, .js, .limited, [("b", .text "1")]⟩
    let fs : List Feature := [⟨"grid", "Grid", "Grid", none, .css, .limited, []⟩, fetch]
    HasEntries data es ∧ HasEntries (.object rest) rest ∧ (es.map Prod.fst).Nodup ∧
      normalize data = .ok (fs, ⟨4, 2, 1, 1⟩) ∧
      normalize (.object rest) = .ok ([fetch], ⟨3, 1, 1, 1⟩) ∧
      (Catalog.ofFeatures fs).Keeps es fs ⟨4, 2, 1, 1⟩ ∧
      Catalog.AgreeBut "grid" (.ofFeatures fs) (.ofFeatures [fetch]) := by
  intro rest es data fetch fs
  have hes : HasEntries data es := ⟨_, rfl, .inl (by decide +kernel)⟩
  have hrest : HasEntries (.object rest) rest := ⟨_, rfl, .inr ⟨by decide +kernel, rfl⟩⟩
  have hd : (es.map Prod.fst).Nodup := by decide +kernel
  have hn : normalize data = .ok (fs, ⟨4, 2, 1, 1⟩) := by decide +kernel
  have hn' : normalize (.object rest) = .ok ([fetch], ⟨3, 1, 1, 1⟩) := by decide +kernel
  have hagree : es.filter (·.1 ≠ "grid") = rest.filter (·.1 ≠ "grid") := by decide +kernel
  have h := accounted data
  exact ⟨hes, hrest, hd, hn, hn', (h.keeps es fs _ hes hd hn).2,
    (h.others "grid" es fs _ _ rest _ _ hes hrest hagree hn hn').2⟩

end Dataset
end FeatureAudit
