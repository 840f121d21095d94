import FeatureAudit.Proofs.Fetching
import Mathlib.Data.List.Perm.Lattice
import Mathlib.Logic.Relation

/-! A pool of workers that fetches resources, step by step. Whoever takes up which address, and
whichever answer comes first, all answers arrive and each is put in the place of its address. -/
namespace FeatureAudit.Fetch

open scoped List

/-- What has become of the addresses of a list, each known by its place: no worker has taken it up
yet, a worker is at it, its message is on the way, or its message has arrived. Messages on the way
keep their order; of those that have arrived the latest comes first. -/
structure Pool where
  waiting : List Nat
  busy : List Nat
  sent : List (Nat × Answer)
  arrived : List (Nat × Answer)

variable {answer : String → Answer} {addresses : List String} {concurrency threads i : Nat}
  {messages : List (Nat × Answer)} {p q : Pool}

namespace Pool

def start (addresses : List String) : Pool := ⟨List.range addresses.length, [], [], []⟩

/-- There is no more to come. -/
def Done (p : Pool) : Prop := p.waiting = [] ∧ p.busy = [] ∧ p.sent = []

/-- A free worker takes up any address that waits. A worker sends what it got, provided there is room
on the way, which holds one message an address. The message on the way that was sent first arrives. -/
inductive Step (answer : String → Answer) (addresses : List String) (threads : Nat) :
    Pool → Pool → Prop where
  | take {p : Pool} {i : Nat} : p.busy.length < threads → i ∈ p.waiting →
      Step answer addresses threads p
        { p with waiting := p.waiting.erase i, busy := i :: p.busy }
  | send {p : Pool} {i : Nat} {address : String} : i ∈ p.busy → addresses[i]? = some address →
      p.sent.length < addresses.length →
      Step answer addresses threads p
        { p with busy := p.busy.erase i, sent := p.sent ++ [(i, answer address)] }
  | arrive {p : Pool} {message : Nat × Answer} {sent : List (Nat × Answer)} :
      p.sent = message :: sent →
      Step answer addresses threads p { p with sent, arrived := message :: p.arrived }

/-- Any number of steps. -/
abbrev Run (answer : String → Answer) (addresses : List String) (threads : Nat) :
    Pool → Pool → Prop := Relation.ReflTransGen (Step answer addresses threads)

/-! What a step keeps. -/

/-- The places of all addresses, stage by stage. -/
def places (p : Pool) : List Nat := p.waiting ++ (p.busy ++ (p.sent ++ p.arrived).map Prod.fst)

theorem places_step (hs : Step answer addresses threads p q) : q.places ~ p.places := by
  cases hs with
  | @take i hfree hi =>
    calc p.waiting.erase i ++ i :: (p.busy ++ (p.sent ++ p.arrived).map Prod.fst)
      _ ~ (i :: p.waiting.erase i ++ (p.busy ++ (p.sent ++ p.arrived).map Prod.fst)) :=
        List.perm_middle
      _ ~ p.places := (List.perm_cons_erase hi).symm.append_right _
  | @send i address hi ha hroom =>
    refine List.Perm.append_left _ ?_
    have hmessage : (p.sent ++ [(i, answer address)] ++ p.arrived).Perm
        ((i, answer address) :: (p.sent ++ p.arrived)) := by
      rw [List.append_assoc]
      exact List.perm_middle
    calc p.busy.erase i ++ (p.sent ++ [(i, answer address)] ++ p.arrived).map Prod.fst
      _ ~ (p.busy.erase i ++ i :: (p.sent ++ p.arrived).map Prod.fst) :=
        (hmessage.map Prod.fst).append_left _
      _ ~ (i :: p.busy.erase i ++ (p.sent ++ p.arrived).map Prod.fst) := List.perm_middle
      _ ~ (p.busy ++ (p.sent ++ p.arrived).map Prod.fst) :=
        (List.perm_cons_erase hi).symm.append_right _
  | @arrive message sent hsent =>
    have hmessage : (sent ++ message :: p.arrived).Perm (p.sent ++ p.arrived) := by
      rw [hsent]
      exact List.perm_middle
    exact ((hmessage.map Prod.fst).append_left _).append_left _

/-- Each address is at one stage, and messages hold the answers for their places. -/
structure Sound (answer : String → Answer) (addresses : List String) (p : Pool) : Prop where
  once : p.places ~ List.range addresses.length
  own : ∀ m ∈ p.sent ++ p.arrived, addresses[m.1]?.map answer = some m.2

theorem sound_start : (start addresses).Sound answer addresses := by
  constructor <;> simp [start, places]

theorem sound_step (h : p.Sound answer addresses) (hs : Step answer addresses threads p q) :
    q.Sound answer addresses := by
  refine ⟨(places_step hs).trans h.once, fun m hm => ?_⟩
  cases hs with
  | take hfree hi => exact h.own m hm
  | @send i address hi ha hroom =>
    simp only [List.mem_append, List.mem_singleton, or_assoc] at hm
    rcases hm with hm | rfl | hm
    · exact h.own m (List.mem_append_left _ hm)
    · simp [ha]
    · exact h.own m (List.mem_append_right _ hm)
  | @arrive message sent hsent =>
    refine h.own m ?_
    rw [hsent]
    exact List.perm_middle.subset hm

theorem sound_run (h : Run answer addresses threads (start addresses) p) :
    p.Sound answer addresses := by
  induction h with
  | refl => exact sound_start
  | tail _ hs ih => exact sound_step ih hs

/-! How a run goes on and ends. -/

theorem getElem?_of_mem_places (h : p.Sound answer addresses) (hi : i ∈ p.places) :
    ∃ address, addresses[i]? = some address := by
  have hlt : i < addresses.length := List.mem_range.1 (h.once.subset hi)
  exact ⟨_, List.getElem?_eq_getElem hlt⟩

/-- No worker has to wait with its message: there are never more on the way than addresses that no
worker is at. -/
theorem room_of_busy (h : p.Sound answer addresses) (hi : i ∈ p.busy) :
    p.sent.length < addresses.length := by
  have hall := h.once.length_eq
  have hbusy := List.length_pos_of_mem hi
  simp only [places, List.length_append, List.length_map, List.length_range] at hall
  omega

theorem exists_step (ht : 0 < threads) (h : p.Sound answer addresses) (hd : ¬ p.Done) :
    ∃ q, Step answer addresses threads p q := by
  obtain ⟨waiting, busy, sent, arrived⟩ := p
  cases sent with
  | cons message sent => exact ⟨_, .arrive rfl⟩
  | nil =>
    cases busy with
    | cons i busy =>
      obtain ⟨address, ha⟩ := getElem?_of_mem_places h (i := i) (by simp [places])
      exact ⟨_, .send List.mem_cons_self ha (room_of_busy h List.mem_cons_self)⟩
    | nil =>
      cases waiting with
      | cons i waiting => exact ⟨_, .take ht List.mem_cons_self⟩
      | nil => exact (hd ⟨rfl, rfl, rfl⟩).elim

/-- The number of steps that are left. -/
def left (p : Pool) : Nat := 3 * p.waiting.length + 2 * p.busy.length + p.sent.length

theorem left_step (hs : Step answer addresses threads p q) : q.left < p.left := by
  cases hs with
  | take hfree hi =>
    have := List.length_erase_of_mem hi
    have := List.length_pos_of_mem hi
    simp only [left, List.length_cons]
    omega
  | send hi ha hroom =>
    have := List.length_erase_of_mem hi
    have := List.length_pos_of_mem hi
    simp only [left, List.length_append, List.length_singleton]
    omega
  | arrive hsent =>
    simp only [left, hsent, List.length_cons]
    omega

theorem wellFounded_step : WellFounded fun q p => Step answer addresses threads p q :=
  Subrelation.wf left_step (measure left).wf

/-! What has arrived in the end. -/

theorem arrived_perm_of_done (h : p.Sound answer addresses) (hd : p.Done) :
    p.arrived ~ addresses.zipIdx.map fun a => (a.2, answer a.1) := by
  obtain ⟨waiting, busy, sent, arrived⟩ := p
  obtain ⟨rfl, rfl, rfl⟩ := hd
  have honce : arrived.map Prod.fst ~ List.range addresses.length := h.once
  have hown : ∀ m ∈ arrived, addresses[m.1]?.map answer = some m.2 := h.own
  have hnodup : arrived.Nodup := (honce.nodup_iff.2 List.nodup_range).of_map _
  have hnodup' : (addresses.zipIdx.map fun a => (a.2, answer a.1)).Nodup := by
    refine List.Nodup.of_map Prod.fst ?_
    simp [Function.comp_def, List.zipIdx_map_snd, List.nodup_range']
  rw [List.perm_ext_iff_of_nodup hnodup hnodup']
  rintro ⟨i, x⟩
  have hmessage : (i, x) ∈ addresses.zipIdx.map (fun a => (a.2, answer a.1)) ↔
      addresses[i]?.map answer = some x := by
    simp [List.mk_mem_zipIdx_iff_getElem?]
  rw [hmessage]
  refine ⟨hown (i, x), fun hx => ?_⟩
  -- the place has a message, and no message but this is its own
  obtain ⟨address, ha, -⟩ := Option.map_eq_some_iff.1 hx
  have hi : i ∈ arrived.map Prod.fst :=
    honce.symm.subset (List.mem_range.2 (List.getElem?_eq_some_iff.1 ha).1)
  obtain ⟨m, hm, rfl⟩ := List.mem_map.1 hi
  obtain rfl : m.2 = x := Option.some.inj ((hown m hm).symm.trans hx)
  exact hm

/-- One worker is enough for the messages to arrive in any order, depending on what it takes up. -/
theorem run_of_perm (ht : 0 < threads) (hown : ∀ m ∈ messages, addresses[m.1]?.map answer = some m.2)
    {waiting : List Nat} (hw : waiting ~ messages.map Prod.fst) (arrived : List (Nat × Answer)) :
    Run answer addresses threads ⟨waiting, [], [], arrived⟩ ⟨[], [], [], messages.reverse ++ arrived⟩ := by
  induction messages generalizing waiting arrived with
  | nil =>
    obtain rfl : waiting = [] := hw.eq_nil
    exact .refl
  | cons m messages ih =>
    obtain ⟨i, x⟩ := m
    obtain ⟨address, ha, rfl⟩ := Option.map_eq_some_iff.1 (hown (i, x) List.mem_cons_self)
    have hi : i ∈ waiting := hw.symm.subset List.mem_cons_self
    have hrest : waiting.erase i ~ messages.map Prod.fst := by
      have := hw.erase i
      rwa [List.map_cons, List.erase_cons_head] at this
    have hroom : 0 < addresses.length :=
      Nat.zero_lt_of_lt (List.getElem?_eq_some_iff.1 ha).1
    have hgo := ih (fun m hm => hown m (List.mem_cons_of_mem _ hm)) hrest
      ((i, answer address) :: arrived)
    rw [List.reverse_cons, List.append_assoc]
    refine Relation.ReflTransGen.head (.take ht hi) ?_
    refine Relation.ReflTransGen.head (.send List.mem_cons_self ha hroom) ?_
    refine Relation.ReflTransGen.head (.arrive rfl) ?_
    simpa using hgo

end Pool

theorem workers_pos (concurrency count : Nat) : 0 < workers concurrency count := by
  unfold workers
  split <;> omega

/-- What a pool for the addresses may come to. -/
def Pool.Reached (answer : String → Answer) (concurrency : Nat) (addresses : List String)
    (p : Pool) : Prop :=
  Run answer addresses (workers concurrency addresses.length) (.start addresses) p

/-- Fetching resources gives each its own answer, at its own place, whatever comes first. -/
structure Orderly (answer : String → Answer) (concurrency : Nat) (addresses : List String) : Prop
    where
  own : ∀ answers : List Answer, Gathers answer concurrency addresses answers →
    answers.length = addresses.length ∧
      ∀ (i : Nat) address, addresses[i]? = some address → answers[i]? = some (answer address)
  /-- One after the other, or through any number of workers. -/
  alike : ∀ concurrency' answers answers', Gathers answer concurrency addresses answers →
    Gathers answer concurrency' addresses answers' → answers = answers'
  fetched : Gathers answer concurrency addresses (Id.run (fetchAll answer concurrency addresses))
  /-- The orders in which the messages from a pool may arrive are all orders. -/
  orders : ∀ messages, (messages ~ addresses.zipIdx.map fun a => (a.2, answer a.1)) ↔
    ∃ p : Pool, p.Reached answer concurrency addresses ∧ p.Done ∧ p.arrived = messages
  /-- A pool is not stuck before it is done, and it does get done. -/
  goesOn : ∀ p : Pool, p.Reached answer concurrency addresses → ¬ p.Done →
    ∃ q, Pool.Step answer addresses (workers concurrency addresses.length) p q
  ends : WellFounded fun q p =>
    Pool.Step answer addresses (workers concurrency addresses.length) p q
  /-- Then an answer is there for each place, and nothing has to stand for one. -/
  complete : ∀ p : Pool, p.Reached answer concurrency addresses → p.Done →
    ∀ (i : Nat) address, addresses[i]? = some address → p.arrived.lookup i = some (answer address)

theorem reached_of_perm (h : messages ~ addresses.zipIdx.map fun a => (a.2, answer a.1)) :
    Pool.Reached answer concurrency addresses ⟨[], [], [], messages⟩ := by
  have hown : ∀ m ∈ messages.reverse, addresses[m.1]?.map answer = some m.2 := by
    intro m hm
    obtain ⟨a, ha, rfl⟩ := List.mem_map.1 (h.subset (List.mem_reverse.1 hm))
    simp [List.mk_mem_zipIdx_iff_getElem?.1 ha]
  have hplaces : messages.map Prod.fst ~ List.range addresses.length := by
    simpa [Function.comp_def, List.zipIdx_map_snd, List.range_eq_range'] using h.map Prod.fst
  have hreverse : messages.reverse.map Prod.fst ~ messages.map Prod.fst :=
    (List.reverse_perm messages).map _
  have hrun := Pool.run_of_perm (workers_pos concurrency addresses.length) hown
    (hreverse.trans hplaces).symm []
  rwa [List.reverse_reverse, List.append_nil] at hrun

theorem orderly_fetchAll (answer : String → Answer) (concurrency : Nat) (addresses : List String) :
    Orderly answer concurrency addresses where
  own answers h := by
    rw [gathers_eq h]
    refine ⟨List.length_map _, fun i address ha => ?_⟩
    simp [ha]
  alike concurrency' answers answers' h h' := (gathers_eq h).trans (gathers_eq h').symm
  fetched := by
    rw [run_fetchAll]
    by_cases hw : workers concurrency addresses.length ≤ 1
    · exact .serial hw
    · rw [← collect_of_perm (.refl _)]
      exact .parallel (by omega) (.refl _)
  orders messages := by
    refine ⟨fun h => ⟨_, reached_of_perm h, ⟨rfl, rfl, rfl⟩, rfl⟩, ?_⟩
    rintro ⟨p, hr, hd, rfl⟩
    exact Pool.arrived_perm_of_done (Pool.sound_run hr) hd
  goesOn p hr hd := Pool.exists_step (workers_pos _ _) (Pool.sound_run hr) hd
  ends := Pool.wellFounded_step
  complete p hr hd i address ha := by
    have hi : i < addresses.length := (List.getElem?_eq_some_iff.1 ha).1
    rw [lookup_of_perm (Pool.arrived_perm_of_done (Pool.sound_run hr) hd) hi, ha]
    rfl

end FeatureAudit.Fetch
