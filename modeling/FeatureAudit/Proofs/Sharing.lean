import FeatureAudit.Audit.Inspector
import FeatureAudit.Proofs.Accounting
import FeatureAudit.Proofs.Datasets

/-! An inspector that several jobs share, one step of one job at a time. An audit takes the catalog
out and then works with it; a refresh makes a catalog and then puts it in force. Whatever the order of
the steps, an audit is done with the catalog that was in force when the audit took it, and a refresh
changes the catalog at one step or not at all. -/
namespace FeatureAudit

variable {ι : Type} {c : Catalog} {d : Dataset.Source} {i : Inspector} {k j : ι}

def Inspector.refreshFrom (i : Inspector) :
    Dataset.Source → Except Catalog.Error Dataset.Tally × Inspector
  | .value data => i.refresh data
  | .text s => i.refreshText s

theorem Inspector.refreshFrom_eq : i.refreshFrom d =
    ((i.slot.fill (Catalog.ofSource d)).1,
      { i with slot := (i.slot.fill (Catalog.ofSource d)).2 }) := by
  cases d <;> rfl

/-- Without features there is nothing to find. -/
theorem findings_audit_nil (answer : String → Fetch.Answer) (processors : Nat) (o : Options)
    (page : Artifacts) :
    (Id.run (audit answer processors (.ofFeatures []) o page)).findings = [] := by
  have hfaithful := (faithful_audit [] o page answer processors).1
  refine List.eq_nil_iff_forall_not_mem.2 fun x hx => ?_
  obtain ⟨f, hf, -⟩ := hfaithful.found x hx
  cases hf

theorem eq_of_split_at_first {before before' later later' : List ι}
    (hs : before ++ k :: later = before' ++ k :: later') (hk : k ∉ before) (hk' : k ∉ before') :
    before = before' ∧ later = later' := by
  rcases List.append_eq_append_iff.1 hs with ⟨mid, rfl, h⟩ | ⟨mid, rfl, h⟩ <;> cases mid with
    | nil => simp_all
    | cons x mid =>
      obtain ⟨rfl, -⟩ := List.cons.inj h
      simp at hk hk'

/-! Jobs. -/

/-- What is asked of an inspector. An audit may go through several pages with the catalog that it
has taken. -/
inductive Job where
  | audit (pages : List Artifacts)
  | refresh (d : Dataset.Source)
  | replace (c : Catalog)

/-- How far a job is. -/
inductive Progress where
  | waiting
  | auditing (taken : Except Catalog.Error Catalog) (answers : List (Except Catalog.Error Report))
  | made (answer : Except Catalog.Error (Catalog × Dataset.Tally))
  | refreshed (answer : Except Catalog.Error Dataset.Tally)
  | replaced

def Progress.answers : Progress → List (Except Catalog.Error Report)
  | auditing _ answers => answers
  | _ => []

/-- An inspector as it is at the start, the jobs that share it, and what addresses lead to. -/
structure Sharing (ι : Type) where
  inspector : Inspector
  jobs : ι → Job
  answer : String → Fetch.Answer
  processors : Nat

namespace Sharing

structure State (ι : Type) where
  inspector : Inspector
  progress : ι → Progress

variable [DecidableEq ι] {u : Sharing ι} {s : State ι} {steps before : List ι}
  {pages : List Artifacts}

def State.proceed (s : State ι) (k : ι) (p : Progress) : State ι :=
  { s with progress := Function.update s.progress k p }

/-- The audit of a page with the catalog that was taken, if there was one. -/
def auditWith (u : Sharing ι) (taken : Except Catalog.Error Catalog) (page : Artifacts) :
    Except Catalog.Error Report :=
  taken.map fun c => Id.run (audit u.answer u.processors c u.inspector.options page)

/-- The next step of a job; one that is done takes no more steps. -/
def step (u : Sharing ι) (s : State ι) (k : ι) : State ι :=
  match u.jobs k, s.progress k with
  | .audit _, .waiting => s.proceed k (.auditing s.inspector.catalog [])
  | .audit pages, .auditing taken answers =>
    match pages[answers.length]? with
    | some page => s.proceed k (.auditing taken (answers ++ [u.auditWith taken page]))
    | none => s
  | .refresh d, .waiting => s.proceed k (.made (Catalog.ofSource d))
  | .refresh _, .made made =>
    let (answer, slot) := s.inspector.slot.fill made
    { s with inspector := { s.inspector with slot } }.proceed k (.refreshed answer)
  | .replace c, .waiting => { s with inspector := s.inspector.replace c }.proceed k .replaced
  | _, _ => s

def start (u : Sharing ι) : State ι := ⟨u.inspector, fun _ => .waiting⟩

/-- The state behind steps of the jobs in some order. -/
def after (u : Sharing ι) (steps : List ι) : State ι := steps.foldl u.step u.start

theorem after_concat : u.after (steps ++ [k]) = u.step (u.after steps) k := by
  simp [after]

/-! The catalogs that are put in force, told from the order of the steps alone. -/

/-- The catalog that the next step of a job puts in force, if it does: a replacement does at its
first step, and a refresh at its second if a catalog was made at the first. -/
def swap? (u : Sharing ι) (before : List ι) (k : ι) : Option Catalog :=
  match u.jobs k with
  | .audit _ => none
  | .refresh d => if before.count k = 1 then (Catalog.ofSource d).toOption.map Prod.fst else none
  | .replace c => if k ∈ before then none else some c

/-- The catalogs put in force, one after the other. -/
def swaps (u : Sharing ι) (steps : List ι) : List Catalog :=
  steps.zipIdx.filterMap fun (k, n) => u.swap? (steps.take n) k

/-- The catalog put in force last, or else the one at the start. -/
def inForce (u : Sharing ι) (steps : List ι) : Catalog.Slot :=
  ⟨(u.swaps steps).getLast?.or u.inspector.slot.catalog?⟩

theorem swaps_concat : u.swaps (steps ++ [k]) = u.swaps steps ++ (u.swap? steps k).toList := by
  have hbefore : (steps.zipIdx.filterMap fun (j, n) => u.swap? ((steps ++ [k]).take n) j) =
      u.swaps steps := by
    refine List.filterMap_congr fun x hx => ?_
    have hn : x.2 ≤ steps.length := by
      have := List.mem_zipIdx hx
      omega
    simp only [List.take_append_of_le_length hn]
  simp only [swaps, List.zipIdx_append, List.filterMap_append, hbefore]
  congr 1
  cases hs : u.swap? steps k <;> simp [hs]

theorem inForce_concat : u.inForce (steps ++ [k]) =
    match u.swap? steps k with
    | some c => (u.inForce steps).replace c
    | none => u.inForce steps := by
  rw [inForce, swaps_concat]
  cases u.swap? steps k with
  | none => simp [inForce]
  | some c => simp [Catalog.Slot.replace]

/-! What a step does. -/

theorem progress_step_of_ne (h : j ≠ k) : (u.step s k).progress j = s.progress j := by
  unfold step
  split
  · simp [State.proceed, h]
  · split
    · simp [State.proceed, h]
    · rfl
  · simp [State.proceed, h]
  · simp [State.proceed, h]
  · simp [State.proceed, h]
  · rfl

/-- An audit goes through its pages in turn; behind the last one nothing changes. -/
theorem step_auditing {taken : Except Catalog.Error Catalog} {n : Nat}
    (hj : u.jobs k = .audit pages)
    (hp : s.progress k = .auditing taken ((pages.take n).map (u.auditWith taken))) :
    (u.step s k).inspector = s.inspector ∧
      (u.step s k).progress k = .auditing taken ((pages.take (n + 1)).map (u.auditWith taken)) := by
  unfold step
  rw [hj, hp]
  dsimp only
  rw [List.length_map, List.length_take]
  rcases Nat.lt_or_ge n pages.length with hn | hn
  · have hnext : pages.take (n + 1) = pages.take n ++ [pages[n]] := by
      rw [List.take_add_one, List.getElem?_eq_getElem hn, Option.toList_some]
    rw [Nat.min_eq_left (Nat.le_of_lt hn), List.getElem?_eq_getElem hn, hnext, List.map_append]
    exact ⟨rfl, Function.update_self ..⟩
  · rw [Nat.min_eq_right hn, List.getElem?_eq_none (Nat.le_refl _)]
    rw [List.take_of_length_le hn] at hp
    exact ⟨rfl, by rw [hp, List.take_of_length_le (Nat.le_succ_of_le hn)]⟩

theorem step_made {made : Except Catalog.Error (Catalog × Dataset.Tally)}
    (hj : u.jobs k = .refresh d) (hp : s.progress k = .made made) :
    (u.step s k).inspector = { s.inspector with slot := (s.inspector.slot.fill made).2 } ∧
      (u.step s k).progress k = .refreshed (made.map Prod.snd) := by
  unfold step
  rw [hj, hp]
  cases made <;> simp [State.proceed, Catalog.Slot.fill, Except.map]

/-! What a run of steps leads to. -/

/-- How far a job is behind a run of steps, told from the order of the steps. -/
inductive Reached (u : Sharing ι) (steps : List ι) (k : ι) : Progress → Prop where
  | waiting (hk : k ∉ steps) : Reached u steps k .waiting
  | auditing {pages : List Artifacts} {before later : List ι} (hj : u.jobs k = .audit pages)
      (hs : steps = before ++ k :: later) (hk : k ∉ before) :
      Reached u steps k (.auditing (u.inForce before).current
        ((pages.take (later.count k)).map (u.auditWith (u.inForce before).current)))
  | made {d : Dataset.Source} (hj : u.jobs k = .refresh d) (hk : steps.count k = 1) :
      Reached u steps k (.made (Catalog.ofSource d))
  | refreshed {d : Dataset.Source} (hj : u.jobs k = .refresh d) (hk : 2 ≤ steps.count k) :
      Reached u steps k (.refreshed ((Catalog.ofSource d).map Prod.snd))
  | replaced {c : Catalog} (hj : u.jobs k = .replace c) (hk : k ∈ steps) :
      Reached u steps k .replaced

/-- A state that is the one behind a run of steps. -/
structure Tracks (u : Sharing ι) (steps : List ι) (s : State ι) : Prop where
  inspector : s.inspector = ⟨u.inForce steps, u.inspector.options⟩
  reached : ∀ k, u.Reached steps k (s.progress k)

theorem Reached.concat {p : Progress} (h : u.Reached steps j p) (hne : j ≠ k) :
    u.Reached (steps ++ [k]) j p := by
  have hcount : (steps ++ [k]).count j = steps.count j := by
    rw [List.count_append, List.count_singleton, beq_false_of_ne hne.symm]
    rfl
  cases h with
  | waiting hk => exact .waiting (by simp [hk, hne])
  | @auditing pages before later hj hs hk =>
    have hlater : (later ++ [k]).count j = later.count j := by
      rw [List.count_append, List.count_singleton, beq_false_of_ne hne.symm]
      rfl
    rw [← hlater]
    exact .auditing hj (by simp [hs]) hk
  | made hj hk => exact .made hj (by rw [hcount, hk])
  | refreshed hj hk => exact .refreshed hj (by rw [hcount]; exact hk)
  | replaced hj hk => exact .replaced hj (by simp [hk])

theorem tracks_start : u.Tracks [] u.start where
  inspector := by simp [start, inForce, swaps]
  reached _ := .waiting (by simp)

/-- One step of a job moves that job on, and changes the catalog in force just if it is a swap. -/
theorem tracks_step (h : u.Tracks steps s) (k : ι) : u.Tracks (steps ++ [k]) (u.step s k) := by
  suffices hown : (u.step s k).inspector = ⟨u.inForce (steps ++ [k]), u.inspector.options⟩ ∧
      u.Reached (steps ++ [k]) k ((u.step s k).progress k) by
    refine ⟨hown.1, fun j => ?_⟩
    by_cases hj : j = k
    · subst hj
      exact hown.2
    · rw [progress_step_of_ne hj]
      exact (h.reached j).concat hj
  have hcount : (steps ++ [k]).count k = steps.count k + 1 := by simp
  have hreached := h.reached k
  generalize hp : s.progress k = p at hreached
  cases hreached with
  | waiting hk =>
    have hzero : steps.count k = 0 := List.count_eq_zero.2 hk
    cases hj : u.jobs k with
    | audit pages =>
      have hstep : u.step s k = s.proceed k (.auditing s.inspector.catalog []) := by
        simp only [step, hj, hp]
      have hswap : u.swap? steps k = none := by simp only [swap?, hj]
      rw [inForce_concat, hswap, hstep]
      refine ⟨h.inspector, ?_⟩
      have hcatalog : s.inspector.catalog = (u.inForce steps).current := by
        rw [h.inspector]
        rfl
      have hauditing : u.Reached (steps ++ [k]) k (.auditing (u.inForce steps).current
          ((pages.take (List.count k [])).map (u.auditWith (u.inForce steps).current))) :=
        .auditing hj rfl hk
      simpa [State.proceed, hcatalog] using hauditing
    | refresh d =>
      have hstep : u.step s k = s.proceed k (.made (Catalog.ofSource d)) := by
        simp only [step, hj, hp]
      have hswap : u.swap? steps k = none := by simp [swap?, hj, hzero]
      rw [inForce_concat, hswap, hstep]
      refine ⟨h.inspector, ?_⟩
      have hmade : u.Reached (steps ++ [k]) k (.made (Catalog.ofSource d)) := .made hj (by omega)
      simpa [State.proceed] using hmade
    | replace c =>
      have hstep : u.step s k =
          { s with inspector := s.inspector.replace c }.proceed k .replaced := by
        simp only [step, hj, hp]
      have hswap : u.swap? steps k = some c := by simp only [swap?, hj, if_neg hk]
      rw [inForce_concat, hswap, hstep]
      refine ⟨?_, ?_⟩
      · simp [State.proceed, Inspector.replace, h.inspector]
      · have hreplaced : u.Reached (steps ++ [k]) k .replaced := .replaced hj (by simp)
        simpa [State.proceed] using hreplaced
  | @auditing pages before later hj hs hk =>
    obtain ⟨hinspector, hprogress⟩ := step_auditing hj hp
    have hswap : u.swap? steps k = none := by simp only [swap?, hj]
    rw [inForce_concat, hswap, hinspector, hprogress]
    refine ⟨h.inspector, ?_⟩
    have hlater : (later ++ [k]).count k = later.count k + 1 := by simp
    rw [← hlater]
    exact .auditing hj (by simp [hs]) hk
  | @made d hj hk =>
    obtain ⟨hinspector, hprogress⟩ := step_made hj hp
    rw [hinspector, hprogress, h.inspector, inForce_concat]
    refine ⟨?_, .refreshed hj (by omega)⟩
    cases hd : Catalog.ofSource d with
    | error e => simp [swap?, hj, hk, hd, Catalog.Slot.fill, Except.toOption]
    | ok made => simp [swap?, hj, hk, hd, Catalog.Slot.fill, Except.toOption]
  | @refreshed d hj hk =>
    have hstep : u.step s k = s := by simp only [step, hj, hp]
    have hswap : u.swap? steps k = none := by
      have hne : steps.count k ≠ 1 := by omega
      simp only [swap?, hj, if_neg hne]
    rw [inForce_concat, hswap, hstep, hp]
    exact ⟨h.inspector, .refreshed hj (by omega)⟩
  | @replaced c hj hk =>
    have hstep : u.step s k = s := by simp only [step, hj, hp]
    have hswap : u.swap? steps k = none := by simp only [swap?, hj, if_pos hk]
    rw [inForce_concat, hswap, hstep, hp]
    exact ⟨h.inspector, .replaced hj (by simp)⟩

theorem tracks_after (u : Sharing ι) (steps : List ι) : u.Tracks steps (u.after steps) := by
  induction steps using List.reverseRecOn with
  | nil => exact tracks_start
  | append_singleton steps k ih =>
    rw [after_concat]
    exact tracks_step ih k

/-! What the jobs are answered. -/

theorem inspector_after : (u.after steps).inspector = ⟨u.inForce steps, u.inspector.options⟩ :=
  (tracks_after u steps).inspector

/-- An audit done as a whole is one with the catalog in force. -/
theorem run_audit_after (page : Artifacts) :
    Id.run ((u.after steps).inspector.audit u.answer u.processors page) =
      u.auditWith (u.inForce steps).current page := by
  rw [inspector_after, Inspector.audit, Inspector.catalog]
  cases (u.inForce steps).current <;> rfl

theorem answers_after {later : List ι} (hj : u.jobs k = .audit pages)
    (hs : steps = before ++ k :: later) (hk : k ∉ before) :
    ((u.after steps).progress k).answers =
      (pages.take (later.count k)).map (u.auditWith (u.inForce before).current) := by
  have hreached := (tracks_after u steps).reached k
  generalize (u.after steps).progress k = p at hreached
  cases hreached with
  | waiting hk' => exact (hk' (by simp [hs])).elim
  | @auditing pages' before' later' hj' hs' hk' =>
    obtain ⟨rfl, rfl⟩ := eq_of_split_at_first (hs'.symm.trans hs) hk' hk
    obtain rfl : pages' = pages := Job.audit.inj (hj'.symm.trans hj)
    rfl
  | made hj' => cases hj'.symm.trans hj
  | refreshed hj' => cases hj'.symm.trans hj
  | replaced hj' => cases hj'.symm.trans hj

theorem progress_after_refresh (hj : u.jobs k = .refresh d) (hk : 2 ≤ steps.count k) :
    (u.after steps).progress k = .refreshed ((Catalog.ofSource d).map Prod.snd) := by
  have hreached := (tracks_after u steps).reached k
  generalize (u.after steps).progress k = p at hreached
  cases hreached with
  | waiting hk' => rw [List.count_eq_zero.2 hk'] at hk; omega
  | auditing hj' => cases hj'.symm.trans hj
  | made hj' hk' => omega
  | refreshed hj' =>
    cases hj'.symm.trans hj
    rfl
  | replaced hj' => cases hj'.symm.trans hj

/-- A step that puts nothing in force leaves the inspector as it is. -/
theorem inspector_after_concat (h : u.swap? before k = none) :
    (u.after (before ++ [k])).inspector = (u.after before).inspector := by
  rw [inspector_after, inspector_after, inForce_concat, h]

theorem isFilled_inForce (later : List ι) (h : (u.inForce before).isFilled) :
    (u.inForce (before ++ later)).isFilled := by
  induction later using List.reverseRecOn with
  | nil => simpa using h
  | append_singleton later k ih =>
    rw [← List.append_assoc, inForce_concat]
    cases u.swap? (before ++ later) k with
    | none => exact ih
    | some c => rfl

/-- What the steps of jobs that share an inspector come to: those of whole audits and refreshes. -/
structure Undivided (u : Sharing ι) (steps : List ι) : Prop where
  /-- Of the catalogs put in force the last one counts, or else the one at the start. -/
  inForce : (u.after steps).inspector = ⟨u.inForce steps, u.inspector.options⟩
  /-- An audit is done with the catalog in force at its first step, and fails just if none was put
  there before that step nor was there one at the start. -/
  audits : ∀ k pages before later, u.jobs k = .audit pages → steps = before ++ k :: later →
    k ∉ before → ((u.after steps).progress k).answers =
      (pages.take (later.count k)).map fun page =>
        match (u.swaps before).getLast?, u.inspector.slot.catalog? with
        | some c, _ => .ok (Id.run (audit u.answer u.processors c u.inspector.options page))
        | none, some c => .ok (Id.run (audit u.answer u.processors c u.inspector.options page))
        | none, none => .error .unavailable
  /-- It is answered as if it were done as a whole at its first step. -/
  wholeAudits : ∀ k pages before later, u.jobs k = .audit pages → steps = before ++ k :: later →
    k ∉ before → ((u.after steps).progress k).answers =
      (pages.take (later.count k)).map fun page =>
        Id.run ((u.after before).inspector.audit u.answer u.processors page)
  /-- A refresh acts and is answered as if it were done as a whole at its second step. -/
  wholeRefreshes : ∀ k d before later, u.jobs k = .refresh d → steps = before ++ k :: later →
    before.count k = 1 →
      (u.after (before ++ [k])).inspector = ((u.after before).inspector.refreshFrom d).2 ∧
      (u.after steps).progress k = .refreshed ((u.after before).inspector.refreshFrom d).1
  readable : ∀ k d, u.jobs k = .refresh d → d.Readable → 2 ≤ steps.count k →
    ∃ tally, (u.after steps).progress k = .refreshed (.ok tally)
  /-- A refresh with a dataset that cannot be read is refused and changes nothing. -/
  unreadable : ∀ k d, u.jobs k = .refresh d → ¬ d.Readable →
    (2 ≤ steps.count k → ∃ e, (u.after steps).progress k = .refreshed (.error (.dataset e))) ∧
    ∀ before later, steps = before ++ k :: later →
      (u.after (before ++ [k])).inspector = (u.after before).inspector
  /-- Once there is a catalog, there is one ever after. -/
  filled : ∀ before later, steps = before ++ later → (u.after before).inspector.slot.isFilled →
    (u.after steps).inspector.slot.isFilled
  /-- While the catalog of a dataset without features is in force, audits find nothing and do not
  fail. -/
  empty : ∀ k d c tally before later, u.jobs k = .refresh d →
    Catalog.ofSource d = .ok (c, tally) → tally.built = 0 → steps = before ++ k :: later →
    before.count k = 1 → u.swaps steps = u.swaps (before ++ [k]) → ∀ page, ∃ r,
      Id.run ((u.after steps).inspector.audit u.answer u.processors page) = .ok r ∧ r.findings = []

/-- Whatever jobs share an inspector, and in whatever order they take their steps. -/
theorem undivided_after (u : Sharing ι) (steps : List ι) : u.Undivided steps where
  inForce := inspector_after
  audits k pages before later hj hs hk := by
    rw [answers_after hj hs hk]
    refine List.map_congr_left fun page _ => ?_
    rw [inForce]
    cases (u.swaps before).getLast? with
    | some c => rfl
    | none => cases u.inspector.slot.catalog? <;> rfl
  wholeAudits k pages before later hj hs hk := by
    rw [answers_after hj hs hk]
    exact List.map_congr_left fun page _ => (run_audit_after page).symm
  wholeRefreshes k d before later hj hs hk := by
    have htwice : 2 ≤ steps.count k := by
      rw [hs, List.count_append, List.count_cons_self]
      omega
    rw [Inspector.refreshFrom_eq, progress_after_refresh hj htwice, inspector_after,
      inspector_after, inForce_concat]
    cases hd : Catalog.ofSource d with
    | error e => simp [swap?, hj, hk, hd, Catalog.Slot.fill, Except.toOption, Except.map]
    | ok made => simp [swap?, hj, hk, hd, Catalog.Slot.fill, Except.toOption, Except.map]
  readable k d hj hd hk := by
    obtain ⟨c, tally, hok⟩ := Catalog.ofSource_of_readable hd
    exact ⟨tally, by rw [progress_after_refresh hj hk, hok]; rfl⟩
  unreadable k d hj hd := by
    obtain ⟨e, he⟩ := Catalog.ofSource_of_not_readable hd
    refine ⟨fun hk => ⟨e, by rw [progress_after_refresh hj hk, he]; rfl⟩, fun before later _ => ?_⟩
    refine inspector_after_concat ?_
    simp [swap?, hj, he, Except.toOption]
  filled before later hs h := by
    rw [inspector_after] at h ⊢
    rw [hs]
    exact isFilled_inForce later h
  empty k d c tally before later hj hd hb hs hk hswaps page := by
    obtain ⟨fs, rfl, hfs⟩ := Catalog.exists_features_of_ofSource hd
    obtain rfl : fs = [] := List.eq_nil_of_length_eq_zero (hfs.symm.trans hb)
    have hswap : u.swap? before k = some (.ofFeatures []) := by
      simp [swap?, hj, hk, hd, Except.toOption]
    have hlast : (u.inForce steps).current = .ok (.ofFeatures []) := by
      rw [inForce, hswaps, swaps_concat, hswap]
      simp [Catalog.Slot.current]
    rw [run_audit_after, hlast]
    exact ⟨_, rfl, findings_audit_nil ..⟩

/-- An audit that begins between the two steps of a refresh, and one that begins behind both. -/
example :
    let u : Sharing Nat := ⟨.ofOptions .default,
      fun k => if k = 1 then .refresh (.value (.object [])) else .audit [.empty],
      fun _ => .error .noSource, 1⟩
    let s := u.after [1, 0, 1, 2, 0, 2]
    (s.progress 0).answers = [.error .unavailable] ∧
      (s.progress 2).answers = [.ok (.ofFindings [])] := by decide +kernel

end Sharing
end FeatureAudit
