import FeatureAudit.Proofs.Catalogs
import FeatureAudit.Proofs.Datasets
import FeatureAudit.Proofs.Values

/-! What a text yields nests no deeper than lists and objects may nest where they are read, and the
names in its objects are distinct. -/
namespace FeatureAudit

variable {α β σ ε : Type} {s t : List Char} {first : Bool} {fuel depth : Nat} {j : Json}
  {ms : Json.Members}

/-- A chain of steps goes well if each of them does. -/
theorem bind_eq_ok {x : Except ε α} {f : α → Except ε β} {y : β} :
    x >>= f = .ok y ↔ ∃ a, x = .ok a ∧ f a = .ok y := by
  cases x <;> simp [bind, Except.bind]

namespace Json

/-! What holds of each item, or is kept by each member, holds of what is read. -/

theorem forall_of_items {item : Reader α} {P : α → Prop} {xs : List α}
    (hitem : ∀ s x t, item s = .ok (x, t) → P x) (h : items item fuel first s = .ok (xs, t)) :
    ∀ x ∈ xs, P x := by
  induction fuel generalizing first s xs with
  | zero => cases h
  | succ fuel ih =>
    rw [items, bind_eq_ok] at h
    obtain ⟨next, _, h⟩ := h
    cases next with
    | none => cases h; simp
    | some u =>
      simp only [bind_eq_ok] at h
      obtain ⟨⟨x, u⟩, hx, ⟨xs, u⟩, hxs, h⟩ := h
      cases h
      exact List.forall_mem_cons.2 ⟨hitem _ _ _ hx, ih hxs⟩

theorem invariant_of_members {member : σ → String → Reader σ} {I : σ → Prop} {x y : σ}
    (hmember : ∀ x k s y t, I x → member x k s = .ok (y, t) → I y) (hx : I x)
    (h : members member fuel first x s = .ok (y, t)) : I y := by
  induction fuel generalizing first s x with
  | zero => cases h
  | succ fuel ih =>
    rw [members, bind_eq_ok] at h
    obtain ⟨next, _, h⟩ := h
    cases next with
    | none => cases h; exact hx
    | some u =>
      simp only [bind_eq_ok] at h
      obtain ⟨⟨k, u⟩, _, ⟨z, u⟩, hz, h⟩ := h
      exact ih (hmember _ _ _ _ _ hx hz) h

theorem of_listOf {body : Reader α} {x : α} (h : listOf body s = .ok (x, t)) :
    ∃ u, body s = .ok (x, u) := by
  unfold listOf at h
  split at h
  · cases h
  · next hb =>
    obtain ⟨_, _, h⟩ := bind_eq_ok.1 h
    cases h
    exact ⟨_, hb⟩

theorem of_objectOf {body : Reader α} {x : α} (h : objectOf body s = .ok (x, t)) :
    ∃ u, body s = .ok (x, u) := by
  unfold objectOf at h
  split at h
  · cases h
  · next hb =>
    obtain ⟨_, _, h⟩ := bind_eq_ok.1 h
    cases h
    exact ⟨_, hb⟩

theorem mapError_eq_ok {ε' : Type} {x : Except ε α} {f : ε → ε'} {y : α} :
    x.mapError f = .ok y ↔ x = .ok y := by
  cases x <;> simp [Except.mapError]

theorem of_readAll {reader : Reader α} {text : String} {x : α} (h : readAll reader text = .ok x) :
    ∃ t, reader text.toList = .ok (x, t) := by
  simp only [readAll, mapError_eq_ok, bind_eq_ok] at h
  obtain ⟨⟨y, t⟩, hr, h⟩ := h
  split at h
  · cases h
    exact ⟨t, hr⟩
  · cases h

/-! Depth. -/

/-- Neither a list nor an object. -/
def Flat : Json → Prop
  | .list _ | .object _ => False
  | .null | .bool _ | .number _ | .text _ => True

theorem regular_of_flat (h : Flat j) : Regular depth j := by
  cases depth <;> cases j <;> first | exact h.elim | trivial

theorem regular_succ (h : Regular depth j) : Regular (depth + 1) j := by
  induction depth generalizing j with
  | zero =>
    cases j with
    | list xs => exact h.elim
    | object ms => exact h.elim
    | _ => exact regular_of_flat trivial
  | succ depth ih =>
    cases j with
    | list xs => exact fun x hx => ih (h x hx)
    | object ms => exact ⟨h.1, fun m hm => ih (h.2 m hm)⟩
    | _ => exact regular_of_flat trivial

/-- Other numbers do not change how deep a value nests. -/
theorem regular_mapNumbers {g : Number → Number} :
    Regular depth (j.mapNumbers g) ↔ Regular depth j := by
  induction depth generalizing j with
  | zero =>
    cases j with
    | list xs => rw [mapNumbers_list]; exact Iff.rfl
    | object ms => rw [mapNumbers_object]; exact Iff.rfl
    | _ => exact Iff.rfl
  | succ depth ih =>
    cases j with
    | list xs =>
      rw [mapNumbers_list]
      simp only [Regular, List.forall_mem_map, ih]
    | object ms =>
      have hkeys : (ms.map fun m => (m.1, m.2.mapNumbers g)).map Prod.fst = ms.map Prod.fst := by
        simp
      rw [mapNumbers_object]
      simp only [Regular, hkeys, List.forall_mem_map, ih]
    | _ => exact Iff.rfl

theorem mem_of_mem_insert {k : String} {v : Json} {m : String × Json} (h : m ∈ insert k v ms) :
    m = (k, v) ∨ m ∈ ms := by
  induction ms with
  | nil => simpa [insert] using h
  | cons n ms ih =>
    rw [insert] at h
    split at h
    · rcases List.mem_cons.1 h with h | h
      · exact .inl h
      · exact .inr (List.mem_cons_of_mem _ h)
    · rcases List.mem_cons.1 h with h | h
      · exact .inr (h ▸ List.mem_cons_self)
      · exact (ih h).imp_right (List.mem_cons_of_mem _)

/-- No member of an object is made up. -/
theorem mem_of_mem_ofWritten {m : String × Json} (h : m ∈ ofWritten ms) : m ∈ ms := by
  have step : ∀ (ws acc : Members), m ∈ ws.foldl (fun ms kv => insert kv.1 kv.2 ms) acc →
      m ∈ ws ∨ m ∈ acc := by
    intro ws
    induction ws with
    | nil => exact fun acc h => .inr h
    | cons w ws ih =>
      intro acc h
      rcases ih _ h with h | h
      · exact .inl (List.mem_cons_of_mem _ h)
      · rcases mem_of_mem_insert h with rfl | h
        · exact .inl List.mem_cons_self
        · exact .inr h
  exact (step ms [] h).resolve_right (by simp)

/-- What a value is made of when it has been read. -/
theorem readValue_cases {gather : Members → Members} (h : readValue gather depth s = .ok (j, t)) :
    (Flat j ∧ ∀ n ∈ j.numbers, ∃ negative s t, readNumber negative s = .ok (n, t)) ∨
      ∃ d, depth = d + 1 ∧
      ((∃ xs, j = .list xs ∧ ∀ x ∈ xs, ∃ s t, readValue gather d s = .ok (x, t)) ∨
      ∃ ms, j = .object (gather ms) ∧ ∀ m ∈ ms, ∃ s t, readValue gather d s = .ok (m.2, t)) := by
  rw [readValue.eq_def] at h
  split at h
  case h_1 => cases h
  case h_7 =>
    cases depth with
    | zero => cases h
    | succ d =>
      obtain ⟨⟨xs, u⟩, hxs, h⟩ := bind_eq_ok.1 h
      cases h
      obtain ⟨u, hxs⟩ := of_listOf hxs
      exact .inr ⟨d, rfl, .inl ⟨xs, rfl, forall_of_items (fun s x t hx => ⟨s, t, hx⟩) hxs⟩⟩
  case h_8 =>
    cases depth with
    | zero => cases h
    | succ d =>
      obtain ⟨⟨ms, u⟩, hms, h⟩ := bind_eq_ok.1 h
      cases h
      obtain ⟨u, hms⟩ := of_objectOf hms
      refine .inr ⟨d, rfl, .inr ⟨ms, rfl, ?_⟩⟩
      let I (ms : Members) : Prop := ∀ m ∈ ms, ∃ s t, readValue gather d s = .ok (m.2, t)
      refine invariant_of_members (I := I) (fun ms k s ms' t hI hm => ?_) (by simp [I]) hms
      simp only [bind_eq_ok] at hm
      obtain ⟨_, _, ⟨v, _⟩, hv, hm⟩ := hm
      cases hm
      intro m hm
      rcases List.mem_append.1 hm with hm | hm
      · exact hI m hm
      · cases List.mem_singleton.1 hm
        exact ⟨_, _, hv⟩
  case h_5 =>
    obtain ⟨⟨n, u⟩, hn, h⟩ := bind_eq_ok.1 h
    cases h
    refine .inl ⟨trivial, fun m hm => ?_⟩
    obtain rfl : m = n := by simpa [numbers] using hm
    exact ⟨_, _, _, hn⟩
  case h_9 =>
    split at h
    · obtain ⟨⟨n, u⟩, hn, h⟩ := bind_eq_ok.1 h
      cases h
      refine .inl ⟨trivial, fun m hm => ?_⟩
      obtain rfl : m = n := by simpa [numbers] using hm
      exact ⟨_, _, _, hn⟩
    · cases h
  -- words and strings
  all_goals
    obtain ⟨_, _, h⟩ := bind_eq_ok.1 h
    cases h
    exact .inl ⟨trivial, by simp [numbers]⟩

theorem regular_of_readValue (h : readValue ofWritten depth s = .ok (j, t)) : Regular depth j := by
  induction depth using Nat.strongRecOn generalizing s j t with
  | ind depth ih =>
    rcases readValue_cases h with ⟨hflat, -⟩ | ⟨d, rfl, ⟨xs, rfl, hxs⟩ | ⟨ms, rfl, hms⟩⟩
    · exact regular_of_flat hflat
    · intro x hx
      obtain ⟨s, t, hx⟩ := hxs x hx
      exact ih d (Nat.lt_succ_self d) hx
    · refine ⟨nodup_ofWritten ms, fun m hm => ?_⟩
      obtain ⟨s, t, hm⟩ := hms m (mem_of_mem_ofWritten hm)
      exact ih d (Nat.lt_succ_self d) hm

/-- A property of values and of how deep they may nest, which all values have that are read, and
with an object what it holds. -/
structure Ensured (P : Nat → Json → Prop) : Prop where
  read : ∀ {depth : Nat} {s : List Char} {j : Json} {t : List Char},
    readValue ofWritten depth s = .ok (j, t) → P depth j
  member : ∀ {depth : Nat} {ms : Members}, P (depth + 1) (.object ms) → ∀ m ∈ ms, P depth m.2
  succ : ∀ {depth : Nat} {j : Json}, P depth j → P (depth + 1) j
  empty : ∀ {depth : Nat}, P (depth + 1) (.object [])

theorem ensured_regular : Ensured Regular where
  read := regular_of_readValue
  member h := h.2
  succ := regular_succ
  empty := ⟨by simp, by simp⟩

variable {P : Nat → Json → Prop}

theorem Ensured.of_parse (hP : Ensured P) {text : String} (h : parse text = .ok j) :
    P maxDepth j := by
  obtain ⟨t, h⟩ := of_readAll h
  exact hP.read h

theorem Ensured.lookup (hP : Ensured P) {k : String} (h : P (depth + 1) (.object ms))
    (hk : ms.lookup k = some j) : P depth j := by
  obtain ⟨l, r, rfl, _⟩ := List.lookup_eq_some_iff.1 hk
  exact hP.member h (k, j) (by simp)

end Json

/-! Features. -/

open Json

/-- A snapshot can hold the feature: what browsers support may nest as deep as is left when the list
and the feature have taken a level each. -/
def Feature.Storable (f : Feature) : Prop :=
  Regular (maxDepth - 2) (.object f.browserSupport)

variable {P : Nat → Json → Prop}

/-- What browsers support has a property, at the depth that a snapshot leaves to it. -/
def Feature.Has (P : Nat → Json → Prop) (f : Feature) : Prop :=
  P (maxDepth - 2) (.object f.browserSupport)

namespace Dataset

theorem of_entries (hP : Ensured P) (hj : P maxDepth j) (h : entries j = .ok ms) :
    ∀ m ∈ ms, P (maxDepth - 1) m.2 := by
  obtain ⟨root, rfl, hf | ⟨-, rfl⟩⟩ := entries_eq_ok_iff.1 h
  · have hfeatures : P (maxDepth - 1) (.object ms) := hP.lookup hj hf
    exact fun m hm => hP.succ (hP.member hfeatures m hm)
  · exact hP.member hj

theorem has_of_readEntry (hP : Ensured P) {id : String} {f : Feature} (hj : P (maxDepth - 1) j)
    (h : readEntry id j = .built f) : f.Has P := by
  obtain ⟨members, status, name, rfl, hs, -, rfl⟩ := readEntry_eq_built_iff.1 h
  have hstatus : P (maxDepth - 2) (.object status) := hP.lookup hj hs
  simp only [Feature.Has, buildFeature]
  cases hsupport : (status.lookup "support").bind asObject? with
  | none => exact hP.empty
  | some support =>
    obtain ⟨j, hlookup, hobject⟩ := Option.bind_eq_some_iff.1 hsupport
    exact hP.succ (hP.lookup hstatus (asObject?_eq_some_iff.1 hobject ▸ hlookup))

theorem has_of_normalizeText (hP : Ensured P) {text : String} {fs : List Feature} {tally : Tally}
    (h : normalizeText text = .ok (fs, tally)) : ∀ f ∈ fs, f.Has P := by
  unfold normalizeText at h
  split at h
  · next data hdata =>
    obtain ⟨es, hes, -, rfl⟩ := normalize_eq_ok h
    intro f hf
    obtain ⟨m, hm, hf⟩ := List.mem_filterMap.1 hf
    exact has_of_readEntry hP (of_entries hP (hP.of_parse hdata) hes m hm)
      (feature?_eq_some_iff.1 hf)
  · cases h

end Dataset

theorem of_anyObject (hP : Ensured P) (h : anyObject (depth + 1) s = .ok (ms, t)) :
    P (depth + 1) (.object ms) := by
  unfold anyObject at h
  split at h
  · obtain ⟨⟨j, u⟩, hread, h⟩ := bind_eq_ok.1 h
    split at h
    · next hj =>
      cases hj
      cases h
      exact hP.read hread
    · cases h
      exact hP.empty
  · cases h

theorem of_onlyOnce {name : String} {given x : Option α} {reader : Reader α}
    (h : onlyOnce name given reader s = .ok (x, t)) :
    ∃ y u, x = some y ∧ reader u = .ok (y, t) := by
  unfold onlyOnce at h
  split at h
  · cases h
  · simp only [bind_eq_ok] at h
    obtain ⟨u, _, ⟨y, t⟩, hread, h⟩ := h
    cases h
    exact ⟨y, u, rfl, hread⟩

theorem of_element {reader : Reader α} {x : α} (h : element first reader s = .ok (some x, t)) :
    ∃ u, reader u = .ok (x, t) := by
  simp only [element, bind_eq_ok] at h
  obtain ⟨next, _, h⟩ := h
  cases next with
  | none => cases h
  | some u =>
    obtain ⟨⟨y, t⟩, hread, h⟩ := bind_eq_ok.1 h
    cases h
    exact ⟨u, hread⟩

namespace Feature

/-- What has been read for browsers, if anything, has a property. -/
def Draft.Has (P : Nat → Json → Prop) (d : Draft) : Prop :=
  ∀ ms ∈ d.browserSupport, P (maxDepth - 2) (.object ms)

theorem Draft.has_readMember (hP : Ensured P) {d d' : Draft} {k : String} (hd : d.Has P)
    (h : readMember (maxDepth - 2) d k s = .ok (d', t)) : d'.Has P := by
  unfold readMember at h
  split at h
  case h_7 =>
    obtain ⟨⟨x, u⟩, hx, h⟩ := bind_eq_ok.1 h
    cases h
    obtain ⟨ms, u, rfl, hms⟩ := of_onlyOnce hx
    intro ms' hms'
    cases hms'
    exact of_anyObject hP hms
  case h_8 =>
    simp only [unknownMember, bind_eq_ok] at h
    obtain ⟨_, _, _, _, h⟩ := h
    cases h
    exact hd
  all_goals
    obtain ⟨_, _, h⟩ := bind_eq_ok.1 h
    cases h
    exact hd

theorem Draft.has_complete (hP : Ensured P) {d : Draft} {f : Feature} (hd : d.Has P)
    (h : d.complete = .ok f) : f.Has P := by
  unfold complete at h
  iterate 5 obtain ⟨_, _, h⟩ := bind_eq_ok.1 h
  cases h
  simp only [Feature.Has]
  cases hs : d.browserSupport with
  | none => exact hP.empty
  | some ms => exact hd ms hs

theorem has_of_fromObject (hP : Ensured P) {f : Feature}
    (h : fromObject (maxDepth - 2) s = .ok (f, t)) : f.Has P := by
  simp only [fromObject, bind_eq_ok] at h
  obtain ⟨⟨d, u⟩, hd, h⟩ := h
  have hdraft : d.Has P := by
    refine invariant_of_members (fun _ _ _ _ _ => Draft.has_readMember hP) ?_ hd
    intro ms hms
    cases hms
  split at h
  · next hf =>
    cases h
    exact Draft.has_complete hP hdraft hf
  · cases h

theorem has_of_fromList (hP : Ensured P) {f : Feature}
    (h : fromList (maxDepth - 2) s = .ok (f, t)) : f.Has P := by
  unfold fromList at h
  -- only what is read last matters here
  iterate 11 obtain ⟨_, _, h⟩ := bind_eq_ok.1 h
  obtain ⟨⟨support, u⟩, hs, h⟩ := bind_eq_ok.1 h
  cases h
  simp only [Feature.Has]
  cases support with
  | none => exact hP.empty
  | some ms =>
    obtain ⟨_, hms⟩ := of_element hs
    exact of_anyObject hP hms

theorem has_of_read (hP : Ensured P) {f : Feature}
    (h : Feature.read (maxDepth - 1) s = .ok (f, t)) : f.Has P := by
  unfold Feature.read record at h
  split at h
  · obtain ⟨u, h⟩ := of_listOf h
    exact has_of_fromList hP h
  · obtain ⟨u, h⟩ := of_objectOf h
    exact has_of_fromObject hP h
  · cases h

end Feature

theorem has_of_snapshot (hP : Ensured P) {text : String} {fs : List Feature}
    (h : Snapshot.parse text = .ok fs) : ∀ f ∈ fs, f.Has P := by
  obtain ⟨t, h⟩ := of_readAll h
  unfold Json.sequence at h
  split at h
  · obtain ⟨u, h⟩ := of_listOf h
    exact forall_of_items (fun _ _ _ => Feature.has_of_read hP) h
  · cases h

namespace Catalog

theorem mem_of_mem_ofFeatures {f : Feature} {fs : List Feature} (h : f ∈ (ofFeatures fs).features) :
    f ∈ fs :=
  keepFirst_sublist.subset (features_ofFeatures_perm.subset h)

/-- Whatever text a catalog comes from, its features have what reading ensures. -/
theorem has_of_text (hP : Ensured P) {c : Catalog}
    (h : (∃ text tally, ofDatasetText text = .ok (c, tally)) ∨ ∃ text, ofSnapshot text = .ok c) :
    c.WellFormed ∧ ∀ f ∈ c.features, f.Has P := by
  rcases h with ⟨text, tally, h⟩ | ⟨text, h⟩
  · unfold ofDatasetText at h
    split at h
    · next fs tally hfs =>
      cases h
      exact ⟨wellFormed_ofFeatures fs,
        fun f hf => Dataset.has_of_normalizeText hP hfs f (mem_of_mem_ofFeatures hf)⟩
    · cases h
  · unfold ofSnapshot at h
    split at h
    · next fs hfs =>
      cases h
      exact ⟨wellFormed_ofFeatures fs,
        fun f hf => has_of_snapshot hP hfs f (mem_of_mem_ofFeatures hf)⟩
    · cases h

/-- A snapshot can hold them. -/
theorem storable_of_text {c : Catalog}
    (h : (∃ text tally, ofDatasetText text = .ok (c, tally)) ∨ ∃ text, ofSnapshot text = .ok c) :
    c.WellFormed ∧ ∀ f ∈ c.features, f.Storable := has_of_text ensured_regular h

end Catalog
end FeatureAudit
