import FeatureAudit.Catalog.Basic

/-! Which datasets can be read, and what their catalogs are made of. -/
namespace FeatureAudit

variable {data entry : Json} {es : Json.Members} {id text : String} {f : Feature} {fs : List Feature}
  {tally : Dataset.Tally} {c : Catalog}

namespace Json

theorem asObject?_eq_some_iff {v : Json} {ms : Members} : v.asObject? = some ms ↔ v = .object ms := by
  cases v <;> simp [asObject?]

theorem asText?_eq_some_iff {v : Json} {s : String} : v.asText? = some s ↔ v = .text s := by
  cases v <;> simp [asText?]

end Json

namespace Dataset

/-- The entries of a dataset are the members of its member `features`, or else its own members. -/
def HasEntries (data : Json) (es : Json.Members) : Prop :=
  ∃ root, data = .object root ∧
    (root.lookup "features" = some (.object es) ∨ root.lookup "features" = none ∧ es = root)

theorem entries_eq_ok_iff : entries data = .ok es ↔ HasEntries data es := by
  constructor
  · intro h
    unfold entries at h
    split at h
    · next root =>
      refine ⟨root, rfl, ?_⟩
      split at h
      · next features hf =>
        cases h
        exact .inl hf
      · cases h
      · next hf =>
        cases h
        exact .inr ⟨hf, rfl⟩
    · cases h
  · rintro ⟨root, rfl, hf | ⟨hf, rfl⟩⟩ <;> simp [entries, hf]

/-- An object, and so is its member `features` if it has one. -/
def Readable (data : Json) : Prop :=
  ∃ root, data = .object root ∧ ∀ v ∈ root.lookup "features", ∃ es, v = .object es

theorem readable_iff : Readable data ↔ ∃ es, entries data = .ok es := by
  simp only [entries_eq_ok_iff]
  constructor
  · rintro ⟨root, rfl, h⟩
    cases hf : root.lookup "features" with
    | none => exact ⟨root, root, rfl, .inr ⟨hf, rfl⟩⟩
    | some v =>
      obtain ⟨es, rfl⟩ := h v hf
      exact ⟨es, root, rfl, .inl hf⟩
  · rintro ⟨es, root, rfl, hf | ⟨hf, rfl⟩⟩
    · exact ⟨root, rfl, by simp [hf]⟩
    · exact ⟨es, rfl, by simp [hf]⟩

theorem normalize_of_not_readable (h : ¬ Readable data) : ∃ e, normalize data = .error e := by
  cases he : entries data with
  | error e => exact ⟨e, by rw [normalize, he]; rfl⟩
  | ok es => exact (h (readable_iff.2 ⟨es, he⟩)).elim

theorem normalize_of_readable (h : Readable data) : ∃ fs tally, normalize data = .ok (fs, tally) := by
  obtain ⟨es, he⟩ := readable_iff.1 h
  exact ⟨_, _, by rw [normalize, he]; rfl⟩

/-- What a dataset gives, entry by entry. -/
theorem normalize_eq_ok (h : normalize data = .ok (fs, tally)) :
    ∃ es, entries data = .ok es ∧ tally.built = fs.length ∧
      fs = es.filterMap fun kv => (readEntry kv.1 kv.2).feature? := by
  cases he : entries data with
  | error e => rw [normalize, he] at h; cases h
  | ok es =>
    rw [normalize, he] at h
    cases h
    exact ⟨es, rfl, rfl, List.filterMap_map⟩

theorem feature?_eq_some_iff {o : Outcome} : o.feature? = some f ↔ o = .built f := by
  cases o <;> simp [Outcome.feature?]

theorem readEntry_eq_built_iff : readEntry id entry = .built f ↔
    ∃ members status name, entry = .object members ∧
      members.lookup "status" = some (.object status) ∧
      members.lookup "name" = some (.text name) ∧ f = buildFeature id name members status := by
  constructor
  · intro h
    unfold readEntry at h
    split at h
    · next members =>
      split at h
      · cases h
      · next status hs =>
        split at h
        · cases h
        · next name hn =>
          cases h
          simp only [Option.bind_eq_some_iff, Json.asObject?_eq_some_iff,
            Json.asText?_eq_some_iff, exists_eq_right] at hs hn
          exact ⟨members, status, name, rfl, hs, hn, rfl⟩
    · cases h
  · rintro ⟨members, status, name, rfl, hs, hn, rfl⟩
    simp [readEntry, hs, hn, Json.asObject?, Json.asText?]

/-- A dataset as a value, or as a text that has to be read first. -/
inductive Source where
  | value (data : Json)
  | text (s : String)

def Source.Readable : Source → Prop
  | .value data => Dataset.Readable data
  | .text s => ∃ data, Json.parse s = .ok data ∧ Dataset.Readable data

end Dataset

namespace Catalog

variable {d : Dataset.Source}

def ofSource : Dataset.Source → Except Error (Catalog × Dataset.Tally)
  | .value data => ofDataset data
  | .text s => ofDatasetText s

theorem ofDatasetText_of_parse (h : Json.parse text = .ok data) :
    ofDatasetText text = ofDataset data := by
  simp only [ofDatasetText, Dataset.normalizeText, h, ofDataset]

theorem ofSource_of_not_readable (h : ¬ d.Readable) : ∃ e, ofSource d = .error (.dataset e) := by
  have hvalue : ∀ {data}, ¬ Dataset.Readable data → ∃ e, ofDataset data = .error (.dataset e) := by
    intro data hr
    obtain ⟨e, he⟩ := Dataset.normalize_of_not_readable hr
    exact ⟨e, by rw [ofDataset, he]⟩
  cases d with
  | value data => exact hvalue h
  | text s =>
    cases hp : Json.parse s with
    | error e => exact ⟨.notJson e, by simp only [ofSource, ofDatasetText, Dataset.normalizeText, hp]⟩
    | ok data =>
      rw [ofSource, ofDatasetText_of_parse hp]
      exact hvalue fun hr => h ⟨data, hp, hr⟩

theorem ofSource_of_readable (h : d.Readable) : ∃ c tally, ofSource d = .ok (c, tally) := by
  have hvalue : ∀ {data}, Dataset.Readable data → ∃ c tally, ofDataset data = .ok (c, tally) := by
    intro data hr
    obtain ⟨fs, tally, hn⟩ := Dataset.normalize_of_readable hr
    exact ⟨.ofFeatures fs, tally, by rw [ofDataset, hn]⟩
  cases d with
  | value data => exact hvalue h
  | text s =>
    obtain ⟨data, hp, hr⟩ := h
    rw [ofSource, ofDatasetText_of_parse hp]
    exact hvalue hr

/-- A catalog is made of the features of a dataset that can be read. -/
theorem exists_normalize_of_ofSource (h : ofSource d = .ok (c, tally)) :
    ∃ data fs, Dataset.normalize data = .ok (fs, tally) ∧ c = .ofFeatures fs := by
  obtain ⟨data, hd⟩ : ∃ data, ofDataset data = .ok (c, tally) := by
    cases d with
    | value data => exact ⟨data, h⟩
    | text s =>
      cases hp : Json.parse s with
      | error e => simp only [ofSource, ofDatasetText, Dataset.normalizeText, hp] at h; cases h
      | ok data =>
        rw [ofSource, ofDatasetText_of_parse hp] at h
        exact ⟨data, h⟩
  unfold ofDataset at hd
  split at hd
  · next fs t hn =>
    cases hd
    exact ⟨data, fs, hn, rfl⟩
  · cases hd

/-- A catalog is made of the features that the tally counts. -/
theorem exists_features_of_ofSource (h : ofSource d = .ok (c, tally)) :
    ∃ fs, c = .ofFeatures fs ∧ tally.built = fs.length := by
  obtain ⟨data, fs, hn, rfl⟩ := exists_normalize_of_ofSource h
  obtain ⟨-, -, hbuilt, -⟩ := Dataset.normalize_eq_ok hn
  exact ⟨fs, rfl, hbuilt⟩

end Catalog
end FeatureAudit
