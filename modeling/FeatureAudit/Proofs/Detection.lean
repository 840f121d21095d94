import FeatureAudit.Audit.Detect
import FeatureAudit.Proofs.Search
import Mathlib.Data.Fintype.Card

/-! What a scan of a section reports: each feature that some piece of evidence shows, once, by the
first piece that shows it and then by its place. -/
namespace FeatureAudit

variable {ε α : Type} {s : Section} {c : Collector s} {ps seen : List (Fin s.features.length)}
  {skip : ε → Bool} {shown : ε → List (Fin s.features.length)} {es : List ε}

/-- The report of features that pieces of evidence show, said without a scan. -/
def InOrder (shows : ε → Feature → Prop) [∀ e f, Decidable (shows e f)] (evidence : List ε)
    (fs : List Feature) (findings : List Finding) : Prop :=
  let first (i : Fin fs.length) : Nat := evidence.findIdx fun e => shows e (fs.get i)
  ∃ places : List (Fin fs.length),
    findings = places.map (fun i => .ofFeature (fs.get i)) ∧
    (∀ i, i ∈ places ↔ ∃ e ∈ evidence, shows e (fs.get i)) ∧
    places.Pairwise fun i j => first i < first j ∨ first i = first j ∧ i < j

/-! The places that pieces of evidence add to those seen. -/

/-- What each piece shows that has not been seen before. -/
def fresh [DecidableEq α] (shown : ε → List α) : List ε → List α → List α
  | [], _ => []
  | e :: es, seen =>
    let new := (shown e).filter (· ∉ seen)
    new ++ fresh shown es (seen ++ new)

theorem fresh_of_full (h : ∀ i, i ∈ seen) : fresh shown es seen = [] := by
  induction es generalizing seen with
  | nil => rfl
  | cons e es ih => simp [fresh, h, ih]

theorem mem_fresh {i : Fin s.features.length} :
    i ∈ fresh shown es seen ↔ i ∉ seen ∧ ∃ e ∈ es, i ∈ shown e := by
  induction es generalizing seen with
  | nil => simp [fresh]
  | cons e es ih =>
    by_cases hi : i ∈ shown e <;> by_cases hs : i ∈ seen <;> simp [fresh, ih, hi, hs]

/-- A place that is fresh after the first piece is not shown by it, so its first piece is a later
one. -/
theorem sorted_fresh (h : ∀ e, (shown e).Pairwise (· < ·)) :
    (fresh shown es seen).Pairwise fun i j =>
      es.findIdx (i ∈ shown ·) < es.findIdx (j ∈ shown ·) ∨
        es.findIdx (i ∈ shown ·) = es.findIdx (j ∈ shown ·) ∧ i < j := by
  induction es generalizing seen with
  | nil => exact .nil
  | cons e es ih =>
    have hlater : ∀ j ∈ fresh shown es (seen ++ (shown e).filter (· ∉ seen)), j ∉ shown e := by
      intro j hj he
      simpa [he, em] using (mem_fresh.1 hj).1
    simp only [fresh, List.findIdx_cons]
    refine List.pairwise_append.2 ⟨?_, ?_, ?_⟩
    · refine ((h e).filter _).imp_of_mem fun hi hj hlt => Or.inr ⟨?_, hlt⟩
      simp [(List.mem_filter.1 hi).1, (List.mem_filter.1 hj).1]
    · refine ih.imp_of_mem fun hi hj hlt => ?_
      simpa [hlater _ hi, hlater _ hj] using hlt
    · intro i hi j hj
      simp [(List.mem_filter.1 hi).1, hlater j hj]

/-! Collectors. -/

/-- A collector has found places in an order. -/
def Collector.Holds (c : Collector s) (ps : List (Fin s.features.length)) : Prop :=
  c.seen = ps.reverse ∧ c.findings = ps.map fun i => .ofFeature (s.features.get i)

theorem holds_start : (Collector.start s).Holds [] := ⟨rfl, rfl⟩

theorem holds_record (h : c.Holds ps) (i : Fin s.features.length) :
    (c.record i).Holds (if i ∈ ps then ps else ps ++ [i]) := by
  obtain ⟨hs, hf⟩ := h
  by_cases hi : i ∈ ps <;> simp [Collector.record, Collector.Holds, hs, hf, hi]

theorem holds_foldl_record {is : List (Fin s.features.length)} (h : c.Holds ps) (hn : is.Nodup) :
    (is.foldl Collector.record c).Holds (ps ++ is.filter (· ∉ ps)) := by
  induction is generalizing c ps with
  | nil => simpa using h
  | cons i is ih =>
    obtain ⟨hi, hn⟩ := List.nodup_cons.1 hn
    have hnext := ih (holds_record h i) hn
    by_cases hp : i ∈ ps
    · simpa [hp] using hnext
    · have hrest : is.filter (· ∉ ps ++ [i]) = is.filter (· ∉ ps) := by
        refine List.filter_congr fun j hj => ?_
        have : j ≠ i := fun he => hi (he ▸ hj)
        simp [this]
      rw [if_neg hp, hrest] at hnext
      simpa [hp] using hnext

/-- No place is found twice, so a full collector has found every place. -/
theorem mem_of_isFull (h : c.Holds ps) (hn : ps.Nodup) (hf : c.isFull) (i : Fin s.features.length) :
    i ∈ ps := by
  have hcard : ps.toFinset.card = Fintype.card (Fin s.features.length) := by
    simpa [Collector.isFull, h.1, List.toFinset_card_of_nodup hn] using hf
  rw [← List.mem_toFinset, Finset.eq_univ_of_card _ hcard]
  exact Finset.mem_univ i

/-- One piece of evidence adds what it shows for the first time. -/
theorem nodup_append_fresh (hn : ps.Nodup) {is : List (Fin s.features.length)} (hi : is.Nodup) :
    (ps ++ is.filter (· ∉ ps)).Nodup := by
  refine List.nodup_append.2 ⟨hn, hi.filter _, fun i hp j hj he => ?_⟩
  subst he
  simp_all

/-- The scan finds the fresh places, whether or not it stops before the evidence ends. -/
theorem holds_scan (hd : ∀ e, (shown e).Nodup) (hk : ∀ e, skip e → shown e = [])
    (h : c.Holds ps) (hn : ps.Nodup) :
    (s.scan skip shown es c).Holds (ps ++ fresh shown es ps) := by
  induction es generalizing c ps with
  | nil => simpa [Section.scan, fresh] using h
  | cons e es ih =>
    simp only [Section.scan, fresh]
    split
    · next he => simpa [hk e he] using ih h hn
    · have hnext := holds_foldl_record h (hd e)
      have hnodup := nodup_append_fresh hn (hd e)
      split
      · next hf =>
        rw [fresh_of_full (mem_of_isFull hnext hnodup hf), List.append_nil]
        exact hnext
      · rw [← List.append_assoc]
        exact ih hnext hnodup

theorem inOrder_detect {shows : ε → Feature → Prop} [∀ e f, Decidable (shows e f)]
    (hs : ∀ e, (shown e).Pairwise (· < ·)) (hm : ∀ e i, i ∈ shown e ↔ shows e (s.features.get i))
    (hk : ∀ e, skip e → shown e = []) : InOrder shows es s.features (s.detect skip shown es) := by
  have hfirst : ∀ i, es.findIdx (fun e => decide (shows e (s.features.get i))) =
      es.findIdx (i ∈ shown ·) := by
    intro i
    simp only [hm]
  refine ⟨fresh shown es [], ?_, fun i => by simp [mem_fresh, hm], ?_⟩
  · have hd : ∀ e, (shown e).Nodup := fun e => (hs e).imp fun hlt => hlt.ne
    have hholds : (s.scan skip shown es (.start s)).Holds _ :=
      holds_scan hd hk holds_start List.nodup_nil
    simp only [Section.detect]
    split
    · next he =>
      have hz : s.features.length = 0 := by simpa using he
      have hnil : fresh shown es [] = [] :=
        List.eq_nil_iff_forall_not_mem.2 fun i => by have := i.isLt; omega
      simp [hnil]
    · exact hholds.2
  · simpa only [hfirst] using sorted_fresh hs

end FeatureAudit
