import FeatureAudit.Proofs.Pool
import Mathlib.Data.List.Perm.Subperm

/-! What an audit asks for: the addresses that a page mentions for fetching, each once, in the order
in which they are first mentioned. -/
namespace FeatureAudit

variable {α β : Type} {answer : String → Fetch.Answer} {o : Options} {a : Artifacts}
  {p : FetchPlan} {address : String} {addresses said : List String} {concurrency : Nat}

/-! Lists of what is mentioned, perhaps repeatedly. -/

/-- All that is said, each once, in the order in which it is first said. -/
structure FirstMentions [DecidableEq α] (said listed : List α) : Prop where
  mem_iff : ∀ x, x ∈ listed ↔ x ∈ said
  ordered : listed.Pairwise fun x y => said.idxOf x < said.idxOf y

section FirstMentions

variable [DecidableEq α] {said listed : List α}

theorem firstMentions_nil : FirstMentions ([] : List α) [] := ⟨by simp, .nil⟩

theorem FirstMentions.nodup (h : FirstMentions said listed) : listed.Nodup :=
  h.ordered.imp fun hlt he => by simp [he] at hlt

/-- Another mention lists what has not been mentioned before. -/
theorem FirstMentions.concat (h : FirstMentions said listed) (x : α) :
    FirstMentions (said ++ [x]) (if x ∈ listed then listed else listed ++ [x]) := by
  have hold : ∀ y ∈ listed, (said ++ [x]).idxOf y = said.idxOf y := fun y hy =>
    List.idxOf_append_of_mem ((h.mem_iff y).1 hy)
  have hordered : listed.Pairwise fun y z => (said ++ [x]).idxOf y < (said ++ [x]).idxOf z :=
    h.ordered.imp_of_mem fun hy hz hlt => by rwa [hold _ hy, hold _ hz]
  by_cases hx : x ∈ listed
  · rw [if_pos hx]
    refine ⟨fun y => ?_, hordered⟩
    have hsaid : x ∈ said := (h.mem_iff x).1 hx
    rw [h.mem_iff, List.mem_append, List.mem_singleton, or_iff_left_of_imp]
    rintro rfl
    exact hsaid
  · rw [if_neg hx]
    have hsaid : x ∉ said := fun hs => hx ((h.mem_iff x).2 hs)
    refine ⟨fun y => by simp [h.mem_iff], List.pairwise_append.2 ⟨hordered, by simp, ?_⟩⟩
    intro y hy z hz
    obtain rfl := List.mem_singleton.1 hz
    rw [hold y hy, List.idxOf_append_of_notMem hsaid]
    have hlt := List.idxOf_lt_length_of_mem ((h.mem_iff y).1 hy)
    omega

end FirstMentions

/-! What a page mentions. -/

namespace Options

/-- The address at which a style sheet is to be fetched. -/
def sheetAddress? (o : Options) : Stylesheet → Option String
  | .closed (some href) => if o.styles then some href else none
  | .closed none | .readable _ _ => none

/-- The address at which a script is to be fetched. -/
def scriptAddress? (o : Options) : Script → Option String
  | .external src =>
    if o.scripts ∧ ∀ mark ∈ o.excluded, mark ≠ "" → ¬ mark.toList <:+: src.toList then some src
    else none
  | .inline _ => none

/-- The addresses that a page mentions for fetching, those of style sheets first. -/
def mentions (o : Options) (a : Artifacts) : List String :=
  a.stylesheets.filterMap o.sheetAddress? ++ a.scripts.filterMap o.scriptAddress?

theorem mem_mentions_iff : address ∈ o.mentions a ↔
    (o.styles ∧ .closed (some address) ∈ a.stylesheets) ∨
      (o.scripts ∧ .external address ∈ a.scripts ∧
        ∀ mark ∈ o.excluded, mark ≠ "" → ¬ mark.toList <:+: address.toList) := by
  have hsheet : ∀ sheet, o.sheetAddress? sheet = some address ↔
      o.styles ∧ sheet = .closed (some address) := by
    intro sheet
    cases sheet with
    | readable href rules => simp [sheetAddress?]
    | closed href => cases href <;> simp [sheetAddress?]
  have hscript : ∀ script, o.scriptAddress? script = some address ↔
      script = .external address ∧ o.scripts ∧
        ∀ mark ∈ o.excluded, mark ≠ "" → ¬ mark.toList <:+: address.toList := by
    intro script
    cases script with
    | inline text => simp [scriptAddress?]
    | external src =>
      simp only [scriptAddress?, Option.ite_none_right_eq_some, Option.some.injEq,
        Script.external.injEq]
      constructor
      · rintro ⟨hw, rfl⟩
        exact ⟨rfl, hw⟩
      · rintro ⟨rfl, hw⟩
        exact ⟨hw, rfl⟩
  simp [mentions, hsheet, hscript, and_left_comm]

end Options

/-! Plans. -/

namespace FetchPlan

/-- A plan lists the addresses mentioned so far. -/
structure Lists (p : FetchPlan) (said : List String) : Prop where
  sound : p.Sound
  first : FirstMentions said p.addresses

theorem addresses_slot (h : p.Sound) : (p.slot address).2.addresses =
    if address ∈ p.addresses then p.addresses else p.addresses ++ [address] := by
  unfold slot
  cases hl : p.slots.lookup address with
  | some i =>
    have hm : address ∈ p.addresses := List.mem_of_getElem? ((h address i).1 hl)
    rw [if_pos hm]
  | none =>
    have hm : address ∉ p.addresses := by
      intro hm
      obtain ⟨i, hi⟩ := List.getElem?_of_mem hm
      simp [(h address i).2 hi] at hl
    rw [if_neg hm]

theorem lists_fetch (h : p.Lists said) :
    (p.fetch address).2.Lists (said ++ [address]) := by
  refine ⟨sound_slot h.sound, ?_⟩
  change FirstMentions _ (p.slot address).2.addresses
  rw [addresses_slot h.sound]
  exact h.first.concat address

theorem lists_sources {step : FetchPlan → α → List Source × FetchPlan}
    {wanted : α → Option String}
    (hstep : ∀ p x said, p.Lists said → (step p x).2.Lists (said ++ (wanted x).toList))
    (h : p.Lists said) (xs : List α) :
    (sources step p xs).2.Lists (said ++ xs.filterMap wanted) := by
  rw [List.filterMap_eq_flatMap_toList]
  induction xs generalizing p said with
  | nil => simpa [sources] using h
  | cons x xs ih =>
    rw [List.flatMap_cons, ← List.append_assoc]
    exact ih (hstep p x said h)

end FetchPlan

namespace Options

theorem lists_sheetSources (p : FetchPlan) (sheet : Stylesheet) (said : List String)
    (h : p.Lists said) :
    (o.sheetSources p sheet).2.Lists (said ++ (o.sheetAddress? sheet).toList) := by
  cases sheet with
  | readable href rules => simpa [sheetSources, sheetAddress?] using h
  | closed href =>
    cases href with
    | none => simpa [sheetSources, sheetAddress?] using h
    | some href =>
      cases ho : o.styles with
      | false => simpa [sheetSources, sheetAddress?, ho] using h
      | true => simpa [sheetSources, sheetAddress?, ho] using FetchPlan.lists_fetch h

theorem lists_scriptSources (p : FetchPlan) (script : Script) (said : List String)
    (h : p.Lists said) :
    (o.scriptSources p script).2.Lists (said ++ (o.scriptAddress? script).toList) := by
  cases script with
  | inline text => simpa [scriptSources, scriptAddress?] using h
  | external src =>
    simp only [scriptSources, scriptAddress?, ← excludes_eq_false_iff]
    cases ho : o.scripts with
    | false => simpa using h
    | true =>
      cases hx : o.excludes src with
      | true => simpa using h
      | false => simpa using FetchPlan.lists_fetch h

theorem firstMentions_plan (o : Options) (a : Artifacts) :
    FirstMentions (o.mentions a) (o.plan a) := by
  have hempty : FetchPlan.empty.Lists [] := ⟨FetchPlan.sound_empty, firstMentions_nil⟩
  have hsheets : FetchPlan.Lists _ _ :=
    FetchPlan.lists_sources (lists_sheetSources (o := o)) hempty a.stylesheets
  have hscripts : FetchPlan.Lists _ _ :=
    FetchPlan.lists_sources (lists_scriptSources (o := o)) hsheets a.scripts
  exact hscripts.first

end Options

/-! Requests. -/

namespace Fetch

/-- Answers, and takes down what was asked for. -/
def recording (answer : String → Answer) (address : String) : StateM (List String) Answer := do
  modify (· ++ [address])
  return answer address

variable {m : Type → Type} [Monad m] [LawfulMonad m] {fetch : String → m Answer}

/-- Functions that agree on lists of the right length need not agree on others. -/
theorem map_mapM_congr {γ : Type} {f : α → m β} {g g' : List β → γ} {xs : List α}
    (h : ∀ ys, ys.length = xs.length → g ys = g' ys) : g <$> xs.mapM f = g' <$> xs.mapM f := by
  induction xs generalizing g g' with
  | nil => simp [h]
  | cons x xs ih =>
    have hrest : ∀ y, (fun ys => g (y :: ys)) <$> xs.mapM f =
        (fun ys => g' (y :: ys)) <$> xs.mapM f := fun y => ih fun ys hys => h _ (by simp [hys])
    simp only [List.mapM_cons, map_bind, bind_pure_comp, Functor.map_map]
    exact bind_congr hrest

theorem mapM_zipIdx (f : α → m β) (xs : List α) (k : Nat) :
    ((xs.zipIdx k).mapM fun (x, i) => do return (i, ← f x)) =
      (fun ys => (ys.zipIdx k).map Prod.swap) <$> xs.mapM f := by
  induction xs generalizing k with
  | nil => simp
  | cons x xs ih =>
    simp only [List.zipIdx_cons, List.mapM_cons, ih, bind_assoc, pure_bind, map_bind, map_pure,
      bind_map_left, List.map_cons, Prod.swap_prod_mk]

theorem lookup_zipIdx (answers : List Answer) (i k : Nat) :
    ((answers.zipIdx k).map Prod.swap).lookup (k + i) = answers[i]? := by
  induction answers generalizing i k with
  | nil => rfl
  | cons x answers ih =>
    cases i with
    | zero => simp
    | succ i =>
      have hi := ih i (k + 1)
      rw [Nat.add_right_comm, Nat.add_assoc] at hi
      have hne : (k + (i + 1) == k) = false := by simp
      rw [List.zipIdx_cons, List.map_cons, Prod.swap_prod_mk, List.lookup_cons, hne]
      exact hi

theorem collect_zipIdx (answers : List Answer) :
    collect answers.length (answers.zipIdx.map Prod.swap) = answers := by
  refine List.ext_getElem? fun i => ?_
  have hl := lookup_zipIdx answers i 0
  rw [Nat.zero_add] at hl
  by_cases hi : i < answers.length
  · simp [collect, hi, hl]
  · simp [collect, hi]

/-- Whoever is asked is asked for each address in turn, and for nothing else. -/
theorem fetchAll_eq_mapM : fetchAll fetch concurrency addresses = addresses.mapM fetch := by
  unfold fetchAll
  split
  · rfl
  · calc _
      _ = (fun answers => collect addresses.length (answers.zipIdx.map Prod.swap)) <$>
          addresses.mapM fetch := by
        rw [mapM_zipIdx, bind_map_left, bind_pure_comp]
      _ = id <$> addresses.mapM fetch := map_mapM_congr fun answers ha => ha ▸ collect_zipIdx answers
      _ = addresses.mapM fetch := id_map _

theorem run_mapM_recording (log : List String) :
    (addresses.mapM (recording answer)).run log =
      pure (addresses.map answer, log ++ addresses) := by
  induction addresses generalizing log with
  | nil => simp
  | cons address addresses ih => simp [recording, ih]

namespace Pool

open scoped List

/-- The addresses that some worker has taken up. -/
def asked (addresses : List String) (p : Pool) : List String :=
  (p.busy ++ (p.sent ++ p.arrived).map Prod.fst).filterMap (addresses[·]?)

theorem waiting_asked_perm {p : Pool} (h : p.Sound answer addresses) :
    p.waiting.filterMap (addresses[·]?) ++ p.asked addresses ~ addresses := by
  have hall : (List.range addresses.length).filterMap (addresses[·]?) = addresses := by
    have hsome : (List.range addresses.length).map (addresses[·]?) = addresses.map some :=
      List.ext_getElem (by simp) (by simp)
    have hid : ((List.range addresses.length).map (addresses[·]?)).filterMap id = addresses := by
      rw [hsome, List.filterMap_map]
      exact List.filterMap_some
    rwa [List.filterMap_map] at hid
  calc p.waiting.filterMap (addresses[·]?) ++ p.asked addresses
    _ = p.places.filterMap (addresses[·]?) := List.filterMap_append.symm
    _ ~ (List.range addresses.length).filterMap (addresses[·]?) := h.once.filterMap _
    _ = addresses := hall

theorem asked_subperm {p : Pool} (h : p.Sound answer addresses) : p.asked addresses <+~ addresses :=
  (List.sublist_append_right _ _).subperm.trans (waiting_asked_perm h).subperm

theorem asked_perm_of_done {p : Pool} (h : p.Sound answer addresses) (hd : p.Done) :
    p.asked addresses ~ addresses := by
  simpa [hd.1] using waiting_asked_perm h

end Pool
end Fetch

/-! Audits. -/

/-- An audit asks for each address of its plan once, and for no others. -/
structure AsksOnce (o : Options) (a : Artifacts) : Prop where
  nodup : (o.plan a).Nodup
  mem_iff : ∀ address, address ∈ o.plan a ↔
    (o.styles ∧ .closed (some address) ∈ a.stylesheets) ∨
      (o.scripts ∧ .external address ∈ a.scripts ∧
        ∀ mark ∈ o.excluded, mark ≠ "" → ¬ mark.toList <:+: address.toList)
  first : FirstMentions (o.mentions a) (o.plan a)
  /-- Whatever the answers do to the world, they are asked for one after the other. -/
  serial : ∀ {m : Type → Type} [Monad m] [LawfulMonad m] (fetch : String → m Fetch.Answer)
    (processors : Nat) (c : Catalog),
    audit fetch processors c o a = report c o a <$> (o.plan a).mapM fetch
  recorded : ∀ (answer : String → Fetch.Answer) (processors : Nat) (c : Catalog) (log : List String),
    (audit (Fetch.recording answer) processors c o a).run log =
      (Id.run (audit answer processors c o a), log ++ o.plan a)
  /-- The same holds of workers at any time, and when they are done. -/
  pool : ∀ (answer : String → Fetch.Answer) (concurrency : Nat) (p : Fetch.Pool),
    p.Reached answer concurrency (o.plan a) →
      (p.asked (o.plan a)).Subperm (o.plan a) ∧ (p.Done → (p.asked (o.plan a)).Perm (o.plan a))
  offline : o.offline.plan a = []
  leftOut : ∀ address mark, mark ∈ o.excluded → mark ≠ "" → mark.toList <:+: address.toList →
    (address ∈ o.plan a ↔ o.styles ∧ .closed (some address) ∈ a.stylesheets)
  /-- An empty mark leaves nothing out. -/
  unmarked : ({ o with excluded := o.excluded.filter (· ≠ "") } : Options).plan a = o.plan a

variable {m : Type → Type} [Monad m] [LawfulMonad m] {fetch : String → m Fetch.Answer}
  {processors : Nat} {c : Catalog}

theorem audit_eq_map_mapM :
    audit fetch processors c o a = report c o a <$> (o.plan a).mapM fetch := by
  rw [audit, Fetch.fetchAll_eq_mapM, bind_pure_comp]

theorem run_audit_recording (log : List String) :
    (audit (Fetch.recording answer) processors c o a).run log =
      (Id.run (audit answer processors c o a), log ++ o.plan a) := by
  have hid : Id.run (audit answer processors c o a) = report c o a ((o.plan a).map answer) := by
    rw [run_audit, report_eq_reportAtHand]
  rw [audit_eq_map_mapM, StateT.run_map, Fetch.run_mapM_recording, map_pure, hid]
  rfl

theorem excludes_filter : ({ o with excluded := o.excluded.filter (· ≠ "") } : Options).excludes =
    o.excludes := by
  funext address
  rw [Bool.eq_iff_iff, ← not_iff_not, Bool.not_eq_true, Bool.not_eq_true, excludes_eq_false_iff,
    excludes_eq_false_iff]
  simp only [List.mem_filter, decide_eq_true_eq]
  exact ⟨fun h mark hm hne => h mark ⟨hm, hne⟩ hne, fun h mark hm => h mark hm.1⟩

theorem plan_filter :
    ({ o with excluded := o.excluded.filter (· ≠ "") } : Options).plan a = o.plan a := by
  have hscript : ({ o with excluded := o.excluded.filter (· ≠ "") } : Options).scriptSources =
      o.scriptSources := by
    funext p script
    cases script with
    | inline text => rfl
    | external src => simp only [Options.scriptSources, excludes_filter]
  rw [Options.plan, Options.sourcesOf, hscript]
  rfl

theorem mem_plan_iff : address ∈ o.plan a ↔
    (o.styles ∧ .closed (some address) ∈ a.stylesheets) ∨
      (o.scripts ∧ .external address ∈ a.scripts ∧
        ∀ mark ∈ o.excluded, mark ≠ "" → ¬ mark.toList <:+: address.toList) :=
  ((Options.firstMentions_plan o a).mem_iff address).trans Options.mem_mentions_iff

theorem asksOnce_audit (o : Options) (a : Artifacts) : AsksOnce o a where
  nodup := (Options.firstMentions_plan o a).nodup
  mem_iff _ := mem_plan_iff
  first := Options.firstMentions_plan o a
  serial _ _ _ := audit_eq_map_mapM
  recorded _ _ _ := run_audit_recording
  pool _ _ _ hr :=
    have hp := Fetch.Pool.sound_run hr
    ⟨Fetch.Pool.asked_subperm hp, Fetch.Pool.asked_perm_of_done hp⟩
  offline := by
    refine List.eq_nil_iff_forall_not_mem.2 fun address hm => ?_
    simpa [Options.offline] using mem_plan_iff.1 hm
  leftOut address mark hm hne hin := by
    rw [mem_plan_iff]
    exact or_iff_left fun hs => hs.2.2 mark hm hne hin
  unmarked := plan_filter

/-- A script whose address is left out, but is that of a sheet as well. -/
example : ({ Options.default with excluded := ["", "ads"] }).plan
    ⟨[], [.closed (some "ads.css"), .closed none, .closed (some "ads.css")], [],
      [.external "ads.js", .external "a.js", .external "ads.css", .external "a.js"]⟩ =
    ["ads.css", "a.js"] := by
  decide

end FeatureAudit
