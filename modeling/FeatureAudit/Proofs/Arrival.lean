import FeatureAudit.Batch.Basic
import FeatureAudit.Proofs.Fetching

/-! Batches whose pages are scanned at the same time: in whatever order their reports arrive, what
is written is what scanning one page after the other writes. -/
namespace FeatureAudit.Batch

variable {targets : List String} {reports : List (Option Report)} {received : List Nat}
  {s : Reorder} {fuel i : Nat} {r : Option Report} {messages : List (Nat × Option Report)}

/-! What a writer writes. -/

namespace Writer

/-- The reports on the pages that could be read, each with the name of its page. -/
def items (reports : List (String × Option Report)) : List Json :=
  reports.filterMap fun p => p.2.map (pageJson p.1)

/-- How many pages could be read and how many not, and how many findings there are. -/
def tally (reports : List (String × Option Report)) : Stats :=
  let read := reports.filterMap Prod.snd
  ⟨read.length, reports.countP (·.2.isNone), (read.flatMap Report.findings).length⟩

theorem writeItems_concat (xs : List Json) (x : Json) : Json.writeItems (xs ++ [x]) =
    Json.writeItems xs ++ (if xs = [] then [] else [',']) ++ Json.write x := by
  induction xs with
  | nil => simp [Json.writeItems]
  | cons y ys ih => cases ys <;> simp_all [Json.writeItems]

theorem ofReports_concat (ps : List (String × Option Report)) (p : String × Option Report) :
    ofReports (ps ++ [p]) = (ofReports ps).next p.1 p.2 := by simp [ofReports]

theorem ofReports_eq (ps : List (String × Option Report)) : ofReports ps =
    ⟨String.ofList ('[' :: Json.writeItems (items ps)), (items ps).isEmpty, tally ps⟩ := by
  induction ps using List.reverseRecOn with
  | nil => rfl
  | append_singleton ps p ih =>
    obtain ⟨target, report⟩ := p
    rw [ofReports_concat, ih]
    cases report with
    | none =>
      have hitems : items (ps ++ [(target, none)]) = items ps := by simp [items]
      have htally : tally (ps ++ [(target, none)]) =
          ⟨(tally ps).scanned, (tally ps).failed + 1, (tally ps).findings⟩ := by simp [tally]
      rw [hitems, htally]
      rfl
    | some r =>
      have hitems : items (ps ++ [(target, some r)]) = items ps ++ [pageJson target r] := by
        simp [items]
      have htally : tally (ps ++ [(target, some r)]) =
          ⟨(tally ps).scanned + 1, (tally ps).failed, (tally ps).findings + r.findings.length⟩ := by
        simp [tally]
      have htext : String.ofList ('[' :: Json.writeItems (items ps)) ++
          (if (items ps).isEmpty then "" else ",") ++ (pageJson target r).compact =
            String.ofList ('[' :: Json.writeItems (items ps ++ [pageJson target r])) := by
        rw [writeItems_concat]
        apply String.toList_inj.1
        by_cases he : items ps = [] <;> simp [he, Json.compact]
      have hmore : (items ps ++ [pageJson target r]).isEmpty = false := by simp
      rw [hitems, htally, ← htext, hmore]
      rfl

/-- What is written is one list: the reports that there are, in the order of their pages. -/
theorem finish_ofReports (ps : List (String × Option Report)) :
    (ofReports ps).finish = ((Json.list (items ps)).compact, tally ps) := by
  rw [ofReports_eq, finish]
  exact congrArg (·, tally ps) (String.toList_inj.1 (by simp [Json.compact, Json.write]))

end Writer

/-! Reports that arrive in any order. -/

namespace Reorder

/-- A writer that has received the reports on some pages of a batch: it has written a front part of
the batch, and what it holds back is what else it has received. -/
structure Holds (targets : List String) (reports : List (Option Report)) (received : List Nat)
    (s : Reorder) : Prop where
  written : s.writer = .ofReports ((targets.zip reports).take s.place)
  passed : ∀ i < s.place, i ∈ received
  mem_early : ∀ i r, (i, r) ∈ s.early ↔ s.place ≤ i ∧ i ∈ received ∧ reports[i]? = some r

theorem holds_start : start.Holds targets reports [] := by
  constructor <;> simp [start, Writer.ofReports]

theorem mem_of_lookup {early : List (Nat × Option Report)} (h : early.lookup i = some r) :
    (i, r) ∈ early := by
  obtain ⟨before, after, rfl, -⟩ := List.lookup_eq_some_iff.1 h
  simp

/-- The report on the next page is written, and no longer held back. -/
theorem holds_next (ht : targets.length = reports.length) (h : s.Holds targets reports received)
    (hr : (s.place, r) ∈ s.early) :
    Holds targets reports received ⟨s.place + 1, s.early.filter (·.1 ≠ s.place),
      s.writer.next (targets.getD s.place "") r⟩ where
  written := by
    obtain ⟨-, -, hr⟩ := (h.mem_early _ _).1 hr
    have hlt : s.place < targets.length := by
      rw [ht]
      exact (List.getElem?_eq_some_iff.1 hr).1
    have hpage : (targets.zip reports)[s.place]? = some (targets.getD s.place "", r) := by
      simp [List.getElem?_zip_eq_some, hr, hlt]
    simp only [List.take_add_one, hpage, Option.toList_some, Writer.ofReports_concat, h.written]
  passed i hi := by
    rcases Nat.lt_succ_iff_lt_or_eq.1 hi with hi | rfl
    · exact h.passed i hi
    · exact ((h.mem_early _ _).1 hr).2.1
  mem_early i r' := by
    simp only [List.mem_filter, h.mem_early, decide_eq_true_eq]
    constructor
    · rintro ⟨⟨hle, hrest⟩, hne⟩
      exact ⟨by omega, hrest⟩
    · rintro ⟨hle, hrest⟩
      exact ⟨⟨by omega, hrest⟩, by omega⟩

theorem holds_flush (ht : targets.length = reports.length) (h : s.Holds targets reports received) :
    (flush targets fuel s).Holds targets reports received := by
  induction fuel generalizing s with
  | zero => exact h
  | succ fuel ih =>
    simp only [flush]
    split
    · exact h
    · next r hr => exact ih (holds_next ht h (mem_of_lookup hr))

/-- Each report that is written is held back no longer, so there is fuel for all of them. -/
theorem lookup_flush (hf : s.early.length ≤ fuel) :
    (flush targets fuel s).early.lookup (flush targets fuel s).place = none := by
  induction fuel generalizing s with
  | zero =>
    have hnil : s.early = [] := List.length_eq_zero_iff.1 (by omega)
    simp [flush, hnil]
  | succ fuel ih =>
    simp only [flush]
    split
    · next hn => exact hn
    · next r hr =>
      apply ih
      have hfewer : (s.early.filter (·.1 ≠ s.place)).length < s.early.length :=
        List.length_filter_lt_length_iff_exists.2 ⟨_, mem_of_lookup hr, by simp⟩
      change (s.early.filter (·.1 ≠ s.place)).length ≤ fuel
      omega

/-- A report that arrives is held back, and then all that can be written is. -/
theorem holds_receive (ht : targets.length = reports.length) (h : s.Holds targets reports received)
    (hr : reports[i]? = some r) (hi : i ∉ received) :
    (receive targets s (i, r)).Holds targets reports (i :: received) ∧
      (receive targets s (i, r)).early.lookup (receive targets s (i, r)).place = none := by
  refine ⟨holds_flush ht ⟨h.written, fun j hj => List.mem_cons_of_mem _ (h.passed j hj), ?_⟩,
    lookup_flush (Nat.le_refl _)⟩
  intro j r'
  have hle : s.place ≤ i := Nat.le_of_not_lt fun hlt => hi (h.passed i hlt)
  simp only [List.mem_cons, Prod.mk.injEq, h.mem_early]
  constructor
  · rintro (⟨rfl, rfl⟩ | ⟨hj, hm, hr'⟩)
    · exact ⟨hle, Or.inl rfl, hr⟩
    · exact ⟨hj, Or.inr hm, hr'⟩
  · rintro ⟨hj, rfl | hm, hr'⟩
    · exact Or.inl ⟨rfl, Option.some.inj (hr'.symm.trans hr)⟩
    · exact Or.inr ⟨hj, hm, hr'⟩

/-- Messages from different pages, in any order. -/
theorem holds_foldl_receive (ht : targets.length = reports.length)
    (h : s.Holds targets reports received) (hl : s.early.lookup s.place = none)
    (hm : ∀ m ∈ messages, reports[m.1]? = some m.2)
    (hn : (messages.map Prod.fst ++ received).Nodup) :
    ∃ received', (∀ i, i ∈ received' ↔ i ∈ messages.map Prod.fst ∨ i ∈ received) ∧
      (messages.foldl (receive targets) s).Holds targets reports received' ∧
      (messages.foldl (receive targets) s).early.lookup
        (messages.foldl (receive targets) s).place = none := by
  induction messages generalizing s received with
  | nil => exact ⟨received, by simp, h, hl⟩
  | cons m ms ih =>
    obtain ⟨hnew, hn⟩ := List.nodup_cons.1 hn
    have hnot : m.1 ∉ received := fun hr => hnew (List.mem_append_right _ hr)
    obtain ⟨hh, hl⟩ := holds_receive ht h (hm m (by simp)) hnot
    have hnodup : (ms.map Prod.fst ++ m.1 :: received).Nodup :=
      (List.perm_middle.nodup_iff).2 (List.nodup_cons.2 ⟨hnew, hn⟩)
    obtain ⟨received', hmem, hrest⟩ := ih hh hl (fun x hx => hm x (by simp [hx])) hnodup
    refine ⟨received', fun i => ?_, hrest⟩
    simp only [hmem, List.map_cons, List.mem_cons]
    exact or_left_comm.trans or_assoc.symm

/-- One message from each page: all reports are written, in the order of the pages, and none is held
back. -/
theorem foldl_receive_of_perm (ht : targets.length = reports.length)
    (hm : messages.Perm (reports.zipIdx.map fun p => (p.2, p.1))) :
    messages.foldl (receive targets) start =
      ⟨reports.length, [], .ofReports (targets.zip reports)⟩ := by
  have hmem : ∀ m ∈ messages, reports[m.1]? = some m.2 := by
    intro m hmm
    obtain ⟨p, hp, rfl⟩ := List.mem_map.1 (hm.subset hmm)
    exact List.mk_mem_zipIdx_iff_getElem?.1 hp
  have hplaces : (messages.map Prod.fst).Perm (List.range reports.length) := by
    simpa [Function.comp_def, List.zipIdx_map_snd, List.range_eq_range'] using hm.map Prod.fst
  obtain ⟨received, hrec, hh, hl⟩ := holds_foldl_receive ht holds_start rfl hmem
    (by simpa using hplaces.nodup_iff.2 List.nodup_range)
  have hreceived : ∀ i, i ∈ received ↔ i < reports.length := by
    intro i
    simp [hrec, hplaces.mem_iff]
  generalize messages.foldl (receive targets) start = s at hh hl ⊢
  obtain ⟨place, early, writer⟩ := s
  have hall : place = reports.length := by
    apply Nat.le_antisymm
    · exact Nat.le_of_not_lt fun hlt =>
        Nat.lt_irrefl _ ((hreceived _).1 (hh.passed reports.length hlt))
    · refine Nat.le_of_not_lt fun hlt => ?_
      have hheld : (place, reports[place]) ∈ early :=
        (hh.mem_early _ _).2 ⟨Nat.le_refl _, (hreceived _).2 hlt, List.getElem?_eq_getElem hlt⟩
      simpa using List.lookup_eq_none_iff.1 hl _ hheld
  subst hall
  have hempty : early = [] := by
    refine List.eq_nil_iff_forall_not_mem.2 fun m hmm => ?_
    obtain ⟨hle, hlt, -⟩ := (hh.mem_early m.1 m.2).1 hmm
    exact Nat.not_lt.2 hle ((hreceived _).1 hlt)
  have hwritten : writer = .ofReports (targets.zip reports) := by
    simpa [List.take_of_length_le, ht] using hh.written
  rw [hempty, hwritten]

end Reorder

/-! Pages. -/

variable {disk : Disk Id} {answer : String → Fetch.Answer} {processors : Nat} {c : Catalog}
  {o : Options} {base : Option String} {path : Disk.Path} {paths : List Disk.Path}

/-- The outcomes of scanning a page: that it cannot be read, or the report on it, whatever the order
in which the answers for its resources arrive. -/
inductive Scanned (disk : Disk Id) (answer : String → Fetch.Answer) (processors : Nat) (c : Catalog)
    (o : Options) (base : Option String) (path : Disk.Path) : Option Report → Prop where
  | unread {e : Disk.Error} : Id.run (pageArtifacts disk base path) = .error e →
      Scanned disk answer processors c o base path none
  | read {a : Artifacts} {answers : List Fetch.Answer} :
      Id.run (pageArtifacts disk base path) = .ok a →
      Fetch.Gathers answer (o.effectiveConcurrency processors) (o.plan a) answers →
      Scanned disk answer processors c o base path (some (report c o a answers))

/-- The report on a page, if it can be read. -/
def pageReport (disk : Disk Id) (answer : String → Fetch.Answer) (c : Catalog) (o : Options)
    (base : Option String) (path : Disk.Path) : Option Report :=
  match Id.run (pageArtifacts disk base path) with
  | .error _ => none
  | .ok a => some (reportAtHand c (a.settled o answer))

theorem run_scanPage : Id.run (scanPage disk answer processors c o base path) =
    pageReport disk answer c o base path := by
  simp only [scanPage, pageReport, Id.run_bind]
  cases Id.run (pageArtifacts disk base path) with
  | error e => rfl
  | ok a => exact congrArg some run_audit

theorem eq_pageReport_of_scanned (h : Scanned disk answer processors c o base path r) :
    r = pageReport disk answer c o base path := by
  cases h with
  | unread he => simp only [pageReport, he]
  | read ha hg => simp only [pageReport, ha, Fetch.gathers_eq hg, report_eq_reportAtHand]

/-- Every page has an outcome. -/
theorem scanned_pageReport :
    Scanned disk answer processors c o base path (pageReport disk answer c o base path) := by
  simp only [pageReport]
  split
  · next he => exact .unread he
  · next a ha =>
    rw [← report_eq_reportAtHand]
    refine .read ha ?_
    by_cases hw : Fetch.workers (o.effectiveConcurrency processors) (o.plan a).length ≤ 1
    · exact .serial hw
    · rw [← Fetch.collect_of_perm (.refl _)]
      exact .parallel (by omega) (.refl _)

theorem reports_eq_of_scanned
    (h : List.Forall₂ (Scanned disk answer processors c o base) paths reports) :
    reports = paths.map (pageReport disk answer c o base) := by
  induction h with
  | nil => rfl
  | cons hr _ ih => rw [List.map_cons, ← eq_pageReport_of_scanned hr, ← ih]

/-- How many resources are fetched at the same time makes no difference to a report. -/
theorem pageReport_perPage (pages : Nat) :
    pageReport disk answer c (o.perPage processors pages) base path =
      pageReport disk answer c o base path := rfl

theorem run_scanPages : Id.run (scanPages disk answer processors c o base paths) =
    .ofReports ((paths.map target).zip (paths.map (pageReport disk answer c o base))) := by
  simp only [scanPages]
  split
  · simp only [Id.run_bind, List.idRun_mapM, run_scanPage, Id.run_pure]
  · have hlength : (paths.map target).length =
        (paths.map (pageReport disk answer c o base)).length := by simp
    have hmessages : (paths.zipIdx.map fun p =>
          (p.2, pageReport disk answer c o base p.1)).Perm
        ((paths.map (pageReport disk answer c o base)).zipIdx.map fun p => (p.2, p.1)) := by
      rw [List.zipIdx_map, List.map_map]
      exact .refl _
    simp only [Id.run_bind, List.idRun_mapM, run_scanPage, pageReport_perPage, Id.run_pure,
      Reorder.ofMessages, Reorder.foldl_receive_of_perm hlength hmessages]

/-- In whatever order the reports on pages scanned at the same time arrive, each is written once, in
the order of the pages, and none is held back at the end: the text and the counts are those of
scanning one page after the other. -/
theorem foldl_receive_of_scanned {reports : List (Option Report)}
    {messages : List (Nat × Option Report)} (disk : Disk Id) (answer : String → Fetch.Answer)
    (processors threads : Nat) (c : Catalog) (o : Options) (base : Option String)
    (paths : List Disk.Path)
    (hr : List.Forall₂ (Scanned disk answer processors c (o.perPage processors threads) base)
      paths reports)
    (hm : messages.Perm (reports.zipIdx.map fun p => (p.2, p.1))) :
    let targets := paths.map target
    let serial :=
      Id.run (scanPages disk answer processors c { o with threads := some 1 } base paths)
    messages.foldl (Reorder.receive targets) .start = ⟨paths.length, [], serial⟩ ∧
      (Reorder.ofMessages targets messages).finish = serial.finish ∧
      serial.finish = ((Json.list (Writer.items (targets.zip reports))).compact,
        Writer.tally (targets.zip reports)) ∧
      Id.run (scanPages disk answer processors c o base paths) = serial := by
  intro targets serial
  have hreports : reports = paths.map (pageReport disk answer c o base) := by
    rw [reports_eq_of_scanned hr]
    exact List.map_congr_left fun _ _ => pageReport_perPage threads
  have hlength : reports.length = paths.length := by simp [hreports]
  have hserial : serial = .ofReports (targets.zip reports) := by
    rw [hreports]
    exact run_scanPages
  have htargets : targets.length = reports.length := by simp [targets, hlength]
  have harrived := Reorder.foldl_receive_of_perm htargets hm
  rw [hlength, ← hserial] at harrived
  refine ⟨harrived, ?_, hserial ▸ Writer.finish_ofReports _, ?_⟩
  · rw [Reorder.ofMessages, harrived]
  · rw [hserial, hreports]
    exact run_scanPages

/-- Reports arrive last page first, and the page between the others cannot be read. -/
theorem foldl_receive_of_scanned_reversed :
    let disk : Disk Id :=
      { read path := if path = "p/b.htm" then .error .notText else .ok "<style>a: grid</style>"
        entry _ := none
        list _ := []
        absolute path := some path
        write _ _ := false }
    let answer (_ : String) : Fetch.Answer := .error (.status 404)
    let c : Catalog := .ofFeatures [⟨"css-grid", "Grid", "", none, .css, .widely, []⟩]
    let o : Options := { Options.default with concurrency := some 4, threads := some 2 }
    let paths : List Disk.Path := ["p/a.html", "p/b.htm", "p/c.html"]
    let targets := paths.map target
    let reports := paths.map (pageReport disk answer c o none)
    let messages := (reports.zipIdx.map fun p => (p.2, p.1)).reverse
    let serial := Id.run (scanPages disk answer 1 c { o with threads := some 1 } none paths)
    List.Forall₂ (Scanned disk answer 1 c (o.perPage 1 2) none) paths reports ∧
      messages.Perm (reports.zipIdx.map fun p => (p.2, p.1)) ∧
      messages.foldl (Reorder.receive targets) .start = ⟨3, [], serial⟩ ∧
      targets = ["a.html", "b.htm", "c.html"] ∧
      (serial.stats.scanned, serial.stats.failed) = (2, 1) := by
  intro disk answer c o paths targets reports messages serial
  have hr : List.Forall₂ (Scanned disk answer 1 c (o.perPage 1 2) none) paths reports :=
    .cons scanned_pageReport (.cons scanned_pageReport (.cons scanned_pageReport .nil))
  have hm : messages.Perm (reports.zipIdx.map fun p => (p.2, p.1)) := List.reverse_perm _
  exact ⟨hr, hm, (foldl_receive_of_scanned disk answer 1 2 c o none paths hr hm).1,
    by decide +kernel, by decide +kernel⟩

end FeatureAudit.Batch
