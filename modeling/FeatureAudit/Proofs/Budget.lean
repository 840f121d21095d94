import FeatureAudit.Proofs.Arrival
import FeatureAudit.Proofs.Requests
import Mathlib.Algebra.Order.BigOperators.Group.List
import Mathlib.Algebra.Order.Ring.Nat

/-! How many resources a batch fetches at the same time. Pages that are scanned at the same time share
the fetches, so that all of them together have no more workers than one page would have by itself, or
than there are pages. -/
namespace FeatureAudit

variable {processors pages threads concurrency : Nat} {o : Options} {answer : String → Fetch.Answer}

/-! Workers. -/

namespace Fetch

variable {addresses : List String} {p q : Pool}

theorem workers_le (concurrency count : Nat) : workers concurrency count ≤ max 1 concurrency := by
  unfold workers
  split <;> omega

/-- So many pages have so many workers at most. -/
theorem sum_workers_le {counts : List Nat} (h : counts.length ≤ pages) (hc : 1 ≤ concurrency) :
    (counts.map (workers concurrency)).sum ≤ pages * concurrency := by
  have hone : ∀ n ∈ counts.map (workers concurrency), n ≤ concurrency := by
    intro n hn
    obtain ⟨count, -, rfl⟩ := List.mem_map.1 hn
    have := workers_le concurrency count
    omega
  calc (counts.map (workers concurrency)).sum
    _ ≤ (counts.map (workers concurrency)).length • concurrency := List.sum_le_card_nsmul _ _ hone
    _ = counts.length * concurrency := by rw [List.length_map, Nat.nsmul_eq_mul]
    _ ≤ pages * concurrency := Nat.mul_le_mul_right _ h

namespace Pool

/-- A worker is at one address at a time. -/
theorem busy_step (hs : Step answer addresses threads p q) (h : p.busy.length ≤ threads) :
    q.busy.length ≤ threads := by
  cases hs with
  | take hfree hi => exact hfree
  | send hi ha hroom => exact (List.length_erase_le).trans h
  | arrive hsent => exact h

theorem busy_of_reached (h : p.Reached answer concurrency addresses) :
    p.busy.length ≤ workers concurrency addresses.length := by
  induction h with
  | refl => exact Nat.zero_le _
  | tail _ hs ih => exact busy_step hs ih

end Pool
end Fetch

/-! Shares. -/

namespace Options

theorem one_le_effectiveConcurrency (processors : Nat) (o : Options) :
    1 ≤ o.effectiveConcurrency processors := Nat.le_max_left _ _

theorem one_le_effectiveThreads (processors : Nat) (o : Options) :
    1 ≤ o.effectiveThreads processors := Nat.le_max_left _ _

/-- What is shared is the fetches and nothing else, and nobody is left without any. -/
theorem exists_share (processors pages : Nat) (o : Options) :
    ∃ share, 0 < share ∧ o.perPage processors pages = { o with concurrency := some share } :=
  ⟨_, Nat.le_max_left _ _, rfl⟩

/-- The shares of all pages add up to what is shared, unless there is less than one for each. -/
theorem mul_share_le (h : 1 ≤ pages) :
    pages * (o.perPage processors pages).effectiveConcurrency processors ≤
      max pages (o.effectiveConcurrency processors) := by
  have hshare : (o.perPage processors pages).effectiveConcurrency processors =
      max 1 (o.effectiveConcurrency processors / pages) := by
    simp [perPage, effectiveConcurrency, Nat.max_eq_right h]
  rw [hshare, ← Nat.mul_max_mul_left, Nat.mul_one]
  have := Nat.mul_div_le (o.effectiveConcurrency processors) pages
  omega

end Options

/-! Batches. -/

namespace Batch

/-- Whether so many pages are scanned one after the other. -/
abbrev OneByOne (processors : Nat) (o : Options) (pages : Nat) : Prop :=
  o.effectiveThreads processors ≤ 1 ∨ pages ≤ 1

/-- How many of so many pages are scanned at the same time at most. -/
def pageThreads (processors : Nat) (o : Options) (pages : Nat) : Nat :=
  if OneByOne processors o pages then 1 else o.effectiveThreads processors

/-- The options with which each of so many pages is scanned. -/
def pageOptions (processors : Nat) (o : Options) (pages : Nat) : Options :=
  if OneByOne processors o pages then o else o.perPage processors (o.effectiveThreads processors)

theorem mul_pageThreads_le (processors : Nat) (o : Options) (pages : Nat) :
    pageThreads processors o pages *
        (pageOptions processors o pages).effectiveConcurrency processors ≤
      max (o.effectiveThreads processors) (o.effectiveConcurrency processors) := by
  unfold pageThreads pageOptions
  split
  · rw [Nat.one_mul]
    exact Nat.le_max_right _ _
  · exact Options.mul_share_le (o.one_le_effectiveThreads processors)

/-- Puts together the reports on pages: in their order, or from messages that hold their places. -/
def putTogether (processors : Nat) (o : Options) (targets : List String)
    (reports : List (Option Report)) : Writer :=
  if OneByOne processors o targets.length then .ofReports (targets.zip reports)
  else Reorder.ofMessages targets (reports.zipIdx.map Prod.swap)

/-- A batch scans its pages with the options for so many of them. -/
theorem scanPages_eq {m : Type → Type} [Monad m] [LawfulMonad m] (disk : Disk m)
    (fetch : String → m Fetch.Answer) (processors : Nat) (c : Catalog) (o : Options)
    (base : Option String) (paths : List Disk.Path) :
    scanPages disk fetch processors c o base paths =
      putTogether processors o (paths.map target) <$>
        paths.mapM (scanPage disk fetch processors c (pageOptions processors o paths.length) base) := by
  unfold scanPages putTogether pageOptions
  rw [List.length_map]
  by_cases h : OneByOne processors o paths.length
  · simp only [if_pos h]
    exact bind_pure_comp _ _
  · simp only [if_neg h]
    rw [Fetch.mapM_zipIdx, bind_map_left, bind_pure_comp]

/-! Batches step by step. -/

/-- The pages of a batch, each known by its place: those that no thread has taken up yet, and those
that are being scanned, with the pools that fetch their resources. -/
structure Crew where
  waiting : List Nat
  scanning : List (Nat × Fetch.Pool)

variable {plans : List (List String)} {s t : Crew}

namespace Crew

/-- For each page there is a list of the addresses to fetch. A page that cannot be read has none. -/
def start (plans : List (List String)) : Crew := ⟨List.range plans.length, []⟩

/-- A free thread takes up any page that waits. The pool of some page makes a step. A thread is done
with a page whose resources have all arrived. -/
inductive Step (answer : String → Fetch.Answer) (plans : List (List String))
    (threads concurrency : Nat) : Crew → Crew → Prop where
  | take {s : Crew} {i : Nat} {plan : List String} :
      s.scanning.length < threads → i ∈ s.waiting → plans[i]? = some plan →
      Step answer plans threads concurrency s
        ⟨s.waiting.erase i, (i, .start plan) :: s.scanning⟩
  | fetch {s : Crew} {before after : List (Nat × Fetch.Pool)} {i : Nat} {plan : List String}
      {p q : Fetch.Pool} : s.scanning = before ++ (i, p) :: after → plans[i]? = some plan →
      Fetch.Pool.Step answer plan (Fetch.workers concurrency plan.length) p q →
      Step answer plans threads concurrency s { s with scanning := before ++ (i, q) :: after }
  | leave {s : Crew} {before after : List (Nat × Fetch.Pool)} {i : Nat} {p : Fetch.Pool} :
      s.scanning = before ++ (i, p) :: after → p.Done →
      Step answer plans threads concurrency s { s with scanning := before ++ after }

/-- What a batch may come to. -/
def Reached (answer : String → Fetch.Answer) (plans : List (List String))
    (threads concurrency : Nat) (s : Crew) : Prop :=
  Relation.ReflTransGen (Step answer plans threads concurrency) (.start plans) s

/-- The number of fetches that are under way, for all pages together. -/
def underWay (s : Crew) : Nat := (s.scanning.map fun page => page.2.busy.length).sum

/-- There is a thread for each page that is being scanned, and its pool has come to where it is by
itself. -/
structure Staffed (answer : String → Fetch.Answer) (plans : List (List String))
    (threads concurrency : Nat) (s : Crew) : Prop where
  threads : s.scanning.length ≤ threads
  pools : ∀ page ∈ s.scanning, ∃ plan, plans[page.1]? = some plan ∧
    page.2.Reached answer concurrency plan

theorem staffed_start : (start plans).Staffed answer plans threads concurrency := by
  constructor <;> simp [start]

theorem staffed_step (hs : Step answer plans threads concurrency s t)
    (h : s.Staffed answer plans threads concurrency) :
    t.Staffed answer plans threads concurrency := by
  cases hs with
  | @take i plan hfree hi hplan =>
    refine ⟨hfree, fun page hpage => ?_⟩
    rcases List.mem_cons.1 hpage with rfl | hpage
    · exact ⟨plan, hplan, .refl⟩
    · exact h.pools page hpage
  | @fetch before after i plan p q hscanning hplan hstep =>
    have hlength := h.threads
    have hpools := h.pools
    simp only [hscanning, List.length_append, List.length_cons, List.forall_mem_append,
      List.forall_mem_cons] at hlength hpools
    obtain ⟨hbefore, ⟨plan', hplan', hreached⟩, hafter⟩ := hpools
    obtain rfl : plan = plan' := Option.some.inj (hplan.symm.trans hplan')
    refine ⟨by simpa using hlength, ?_⟩
    simp only [List.forall_mem_append, List.forall_mem_cons]
    exact ⟨hbefore, ⟨plan, hplan, hreached.tail hstep⟩, hafter⟩
  | @leave before after i p hscanning hdone =>
    have hlength := h.threads
    have hpools := h.pools
    simp only [hscanning, List.length_append, List.length_cons, List.forall_mem_append,
      List.forall_mem_cons] at hlength hpools
    refine ⟨by simp only [List.length_append]; omega, ?_⟩
    exact List.forall_mem_append.2 ⟨hpools.1, hpools.2.2⟩

theorem staffed_of_reached (h : s.Reached answer plans threads concurrency) :
    s.Staffed answer plans threads concurrency := by
  induction h with
  | refl => exact staffed_start
  | tail _ hs ih => exact staffed_step hs ih

/-- No more fetches are under way than the pages that are being scanned have workers. -/
theorem exists_counts (h : s.Staffed answer plans threads concurrency) :
    ∃ counts : List Nat, counts.length = s.scanning.length ∧
      s.underWay ≤ (counts.map (Fetch.workers concurrency)).sum := by
  let count (page : Nat × Fetch.Pool) : Nat := (plans[page.1]?.getD []).length
  refine ⟨s.scanning.map count, List.length_map _, ?_⟩
  rw [List.map_map]
  refine List.sum_le_sum fun page hpage => ?_
  obtain ⟨plan, hplan, hreached⟩ := h.pools page hpage
  simpa [count, hplan] using Fetch.Pool.busy_of_reached hreached

end Crew

/-- Batches of so many pages keep to what may be fetched at the same time. -/
structure Thrifty (processors : Nat) (o : Options) (pages : Nat) : Prop where
  share : ∀ threads, ∃ share, 0 < share ∧
    o.perPage processors threads = { o with concurrency := some share }
  /-- Of pages with any numbers of addresses, as many as may be scanned at the same time. -/
  workers : ∀ counts : List Nat, counts.length ≤ pageThreads processors o pages →
    (counts.map (Fetch.workers
      ((pageOptions processors o pages).effectiveConcurrency processors))).sum ≤
        max (o.effectiveThreads processors) (o.effectiveConcurrency processors)
  /-- No more pages than that are scanned at any time, and no more fetches are under way. -/
  underWay : ∀ (answer : String → Fetch.Answer) (plans : List (List String)) (s : Crew),
    s.Reached answer plans (pageThreads processors o pages)
      ((pageOptions processors o pages).effectiveConcurrency processors) →
    s.scanning.length ≤ pageThreads processors o pages ∧
      s.underWay ≤ max (o.effectiveThreads processors) (o.effectiveConcurrency processors)
  /-- Each page is scanned with the options that are meant here. -/
  scanned : ∀ {m : Type → Type} [Monad m] [LawfulMonad m] (disk : Disk m)
    (fetch : String → m Fetch.Answer) (c : Catalog) (base : Option String) (paths : List Disk.Path),
    paths.length = pages → scanPages disk fetch processors c o base paths =
      putTogether processors o (paths.map target) <$>
        paths.mapM (scanPage disk fetch processors c (pageOptions processors o pages) base)

theorem sum_workers_pageOptions_le {counts : List Nat}
    (h : counts.length ≤ pageThreads processors o pages) :
    (counts.map (Fetch.workers
      ((pageOptions processors o pages).effectiveConcurrency processors))).sum ≤
        max (o.effectiveThreads processors) (o.effectiveConcurrency processors) :=
  (Fetch.sum_workers_le h (Options.one_le_effectiveConcurrency _ _)).trans
    (mul_pageThreads_le processors o pages)

theorem thrifty_scanPages (processors : Nat) (o : Options) (pages : Nat) :
    Thrifty processors o pages where
  share _ := Options.exists_share _ _ _
  workers _ := sum_workers_pageOptions_le
  underWay answer plans s hs := by
    have hstaffed := Crew.staffed_of_reached hs
    obtain ⟨counts, hlength, hle⟩ := Crew.exists_counts hstaffed
    have hpages : counts.length ≤ pageThreads processors o pages := hlength ▸ hstaffed.threads
    exact ⟨hstaffed.threads, hle.trans (sum_workers_pageOptions_le hpages)⟩
  scanned disk fetch c base paths hp := by
    subst hp
    exact scanPages_eq disk fetch processors c o base paths

/-- Three pages at a time share eight fetches, which gives each of them two. -/
example :
    let o := { Options.default with concurrency := some 8, threads := some 3 }
    [1, 5, 9].map (Fetch.workers ((pageOptions 1 o 4).effectiveConcurrency 1)) = [1, 2, 2] := by
  decide

end Batch
end FeatureAudit
