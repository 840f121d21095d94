import FeatureAudit.Proofs.Accounting
import FeatureAudit.Proofs.Arrival
import FeatureAudit.Proofs.Datasets
import FeatureAudit.Proofs.Elements
import FeatureAudit.Proofs.Growth
import FeatureAudit.Fetch.Resource

/-! Batches account for their pages: what is written is one list with an element for each page that
can be read, in the order of the pages, and the counts are those of the list. -/
namespace FeatureAudit.Batch

open Json

variable {depth : Nat} {c : Catalog} {r : Report}
  {disk disk' : Disk Id} {answer answer' : String → Fetch.Answer} {processors : Nat}
  {o : Options} {base : Option String} {input path : Disk.Path} {paths names : List Disk.Path}
  {entries : List (Disk.Path × Disk.Entry)}

/-! Pages. -/

/-- A file whose name is that of a page. -/
def isPage (e : Disk.Path × Disk.Entry) : Bool := e.2 = .file && isPageName e.1

/-- The pages of an input: the file it is, or those in the folder it is, by their names. -/
inductive Pages (disk : Disk Id) (input : Disk.Path) : List Disk.Path → Prop where
  | file : Id.run (disk.entry input) = some .file → Pages disk input [input]
  | folder {names : List Disk.Path} : Id.run (disk.entry input) = some .folder →
      names.Perm (((Id.run (disk.list input)).filter isPage).map Prod.fst) →
      names.Pairwise (fun a b => a.bytes ≤ b.bytes) → Pages disk input (names.map (inFolder input))

theorem pageNames_perm : (pageNames entries).Perm ((entries.filter isPage).map Prod.fst) :=
  List.mergeSort_perm ..

theorem pairwise_pageNames : (pageNames entries).Pairwise fun a b => a.bytes ≤ b.bytes := by
  have hsorted : (pageNames entries).Pairwise fun a b => decide (a.bytes ≤ b.bytes) = true := by
    apply List.pairwise_mergeSort
    · intro a b d hab hbd
      exact decide_eq_true (List.le_trans (of_decide_eq_true hab) (of_decide_eq_true hbd))
    · intro a b
      simpa using List.le_total a.bytes b.bytes
  exact hsorted.imp of_decide_eq_true

/-- Names stand in one order only. -/
theorem eq_pageNames (hp : names.Perm ((entries.filter isPage).map Prod.fst))
    (hs : names.Pairwise fun a b => a.bytes ≤ b.bytes) : names = pageNames entries := by
  refine List.Perm.eq_of_pairwise (fun a b _ _ hab hba => ?_) hs pairwise_pageNames
    (hp.trans pageNames_perm.symm)
  exact congrArg Disk.Path.mk (List.le_antisymm hab hba)

theorem run_pages (h : Pages disk input paths) : Id.run (pages disk input) = some paths := by
  cases h with
  | file he => simp only [pages, Id.run_bind, he, Id.run_pure]
  | folder he hp hs => simp only [pages, Id.run_bind, he, Id.run_pure, eq_pageNames hp hs]

theorem exists_pages (h : Id.run (disk.entry input) = some .file ∨
    Id.run (disk.entry input) = some .folder) : ∃ paths, Pages disk input paths := by
  rcases h with he | he
  · exact ⟨_, .file he⟩
  · exact ⟨_, .folder he pageNames_perm pairwise_pageNames⟩

/-- Whether a file can be read as text. -/
def readable (disk : Disk Id) (path : Disk.Path) : Bool := (Id.run (disk.read path)).toOption.isSome

theorem isSome_pageReport :
    (pageReport disk answer c o base path).isSome = readable disk path := by
  simp only [pageReport, pageArtifacts, readable, Id.run_bind]
  cases Id.run (disk.read path) with
  | error e => rfl
  | ok html => rfl

theorem reports_of_pageReport (h : pageReport disk answer c o base path = some r) :
    Reports c r := by
  unfold pageReport at h
  split at h
  · cases h
  · cases h
    rw [← report_eq_reportAtHand, report_eq_ofFindings_shown]
    exact ⟨_, shown_subperm, rfl⟩

/-- The reports on the pages that can be read, each with the name of its page. -/
def reportsOn (disk : Disk Id) (answer : String → Fetch.Answer) (c : Catalog) (o : Options)
    (base : Option String) (paths : List Disk.Path) : List (String × Report) :=
  paths.filterMap fun path => (pageReport disk answer c o base path).map fun r => (target path, r)

theorem reports_of_mem_reportsOn : ∀ p ∈ reportsOn disk answer c o base paths, Reports c p.2 := by
  intro p hp
  obtain ⟨path, -, hp⟩ := List.mem_filterMap.1 hp
  obtain ⟨r, hr, rfl⟩ := Option.map_eq_some_iff.1 hp
  exact reports_of_pageReport hr

/-- The counts of reports on some of so many pages. -/
def statsOf (pages : Nat) (reports : List (String × Report)) : Stats :=
  ⟨reports.length, pages - reports.length, (reports.map (·.2.findings.length)).sum⟩

theorem items_eq_map_reportsOn :
    Writer.items (paths.map fun path => (target path, pageReport disk answer c o base path)) =
      (reportsOn disk answer c o base paths).map fun p => Writer.pageJson p.1 p.2 := by
  simp [Writer.items, reportsOn, List.filterMap_map, List.map_filterMap, Function.comp_def]

theorem length_reportsOn :
    (reportsOn disk answer c o base paths).length = paths.countP (readable disk) := by
  simp [reportsOn, List.length_filterMap_eq_countP, isSome_pageReport]

theorem tally_eq_statsOf :
    Writer.tally (paths.map fun path => (target path, pageReport disk answer c o base path)) =
      statsOf paths.length (reportsOn disk answer c o base paths) := by
  have hread : (paths.map fun path =>
      (target path, pageReport disk answer c o base path)).filterMap Prod.snd =
        (reportsOn disk answer c o base paths).map Prod.snd := by
    simp [reportsOn, List.filterMap_map, List.map_filterMap, Function.comp_def]
  have hfailed : (paths.map fun path =>
      (target path, pageReport disk answer c o base path)).countP (·.2.isNone) =
        paths.length - (reportsOn disk answer c o base paths).length := by
    have hnone (path : Disk.Path) : (pageReport disk answer c o base path).isNone =
        !readable disk path := by
      rw [← isSome_pageReport, Option.not_isSome]
    have hsplit := List.length_eq_countP_add_countP (l := paths) (readable disk)
    simp only [Bool.not_eq_true, Bool.decide_eq_false] at hsplit
    simp only [List.countP_map, Function.comp_def, hnone, length_reportsOn]
    omega
  rw [Writer.tally, statsOf, hread, hfailed]
  simp [List.length_flatMap, Function.comp_def]

/-- What is written, and the counts, follow from the reports there are and the number of pages. -/
theorem finish_scanPages : (Id.run (scanPages disk answer processors c o base paths)).finish =
    (textOf (reportsOn disk answer c o base paths),
      statsOf paths.length (reportsOn disk answer c o base paths)) := by
  rw [run_scanPages, Writer.finish_ofReports, List.zip_map', items_eq_map_reportsOn,
    tally_eq_statsOf]
  rfl

theorem forall₂_filter_isSome {α β γ : Type} {f : α → Option β} {R : β → γ → Prop} {xs : List α}
    {ys : List γ} (h : List.Forall₂ R (xs.filterMap f) ys) :
    List.Forall₂ (fun x y => ∃ b, f x = some b ∧ R b y) (xs.filter fun x => (f x).isSome) ys := by
  induction xs generalizing ys with
  | nil => simpa using h
  | cons x xs ih =>
    cases hx : f x with
    | none =>
      rw [List.filterMap_cons_none hx] at h
      simpa [hx] using ih h
    | some b =>
      rw [List.filterMap_cons_some hx] at h
      obtain ⟨y, ys, hy, hys, rfl⟩ := List.forall₂_cons_left_iff.1 h
      simpa [hx] using ⟨hy, ih hys⟩

/-! Pages that are gone. -/

/-- What a disk and the fetches are like when the pages in a folder that cannot be read are gone. No
other file has changed, and an answer that brought a text still brings it. -/
structure Cleared (disk disk' : Disk Id) (answer answer' : String → Fetch.Answer)
    (folder : Disk.Path) : Prop where
  entry : Id.run (disk.entry folder) = some .folder
  entry' : Id.run (disk'.entry folder) = some .folder
  list : (Id.run (disk'.list folder)).Perm ((Id.run (disk.list folder)).filter fun e =>
    !isPage e || readable disk (inFolder folder e.1))
  read : ∀ path, (Id.run (disk'.read path)).toOption = (Id.run (disk.read path)).toOption
  absolute : ∀ path, readable disk path → disk'.absolute path = disk.absolute path
  texts : ∀ address, (answer' address).toOption = (answer address).toOption

/-- Resources on the disk and in the network bring the same texts when no file has another text. -/
theorem toOption_resource
    (h : ∀ path, (Id.run (disk'.read path)).toOption = (Id.run (disk.read path)).toOption)
    (network : Fetch.Network) (address : String) :
    (Id.run (Fetch.resource disk' address network)).toOption =
      (Id.run (Fetch.resource disk address network)).toOption := by
  simp only [Fetch.resource]
  split
  · rfl
  split
  · split
    · rfl
    · next bytes _ =>
      have hpath := h ⟨bytes⟩
      simp only [Id.run_bind]
      cases hnew : Id.run (disk'.read ⟨bytes⟩) <;> cases hold : Id.run (disk.read ⟨bytes⟩) <;>
        simp_all [Except.toOption]
  split <;> rfl

theorem settled_eq_of_texts {a : Artifacts}
    (h : ∀ address, (answer' address).toOption = (answer address).toOption) :
    a.settled o answer' = a.settled o answer := by
  have hsheet : o.settleSheet answer' = o.settleSheet answer := by
    funext sheet
    rcases sheet with ⟨href, rules⟩ | ⟨_ | href⟩ <;> simp [Options.settleSheet, h]
  have hscript : o.settleScript answer' = o.settleScript answer := by
    funext script
    cases script <;> simp [Options.settleScript, h]
  rw [Artifacts.settled, Artifacts.settled, hsheet, hscript]

theorem pageReport_eq_of_cleared (h : Cleared disk disk' answer answer' input)
    (hr : readable disk path) :
    pageReport disk' answer' c o base path = pageReport disk answer c o base path := by
  obtain ⟨html, hhtml⟩ := Option.isSome_iff_exists.1 hr
  have hold : Id.run (disk.read path) = .ok html := toOption_eq_some_iff.1 hhtml
  have hnew : Id.run (disk'.read path) = .ok html :=
    toOption_eq_some_iff.1 ((h.read path).trans hhtml)
  simp only [pageReport, pageArtifacts, Id.run_bind, hold, hnew, h.absolute path hr,
    settled_eq_of_texts h.texts]

/-- Pages that cannot be read are not written. -/
theorem reportsOn_filter_readable : reportsOn disk answer c o base (paths.filter (readable disk)) =
    reportsOn disk answer c o base paths := by
  rw [reportsOn, reportsOn, List.filterMap_filter]
  refine List.filterMap_congr fun path _ => ?_
  cases hr : pageReport disk answer c o base path with
  | none => simp
  | some r =>
    have hreadable : readable disk path = true := by
      rw [← isSome_pageReport, hr]
      rfl
    simp [hreadable]

theorem pageNames_of_cleared (h : Cleared disk disk' answer answer' input)
    (hp : names.Perm (((Id.run (disk.list input)).filter isPage).map Prod.fst))
    (hs : names.Pairwise fun a b => a.bytes ≤ b.bytes) :
    pageNames (Id.run (disk'.list input)) =
      names.filter fun name => readable disk (inFolder input name) := by
  have hpages : (((Id.run (disk.list input)).filter fun e =>
      !isPage e || readable disk (inFolder input e.1)).filter isPage) =
        ((Id.run (disk.list input)).filter isPage).filter fun e =>
          readable disk (inFolder input e.1) := by
    rw [List.filter_filter, List.filter_filter]
    refine List.filter_congr fun e _ => ?_
    cases isPage e <;> simp
  refine (eq_pageNames ?_ (hs.filter _)).symm
  refine (hp.filter _).trans ?_
  rw [List.filter_map]
  exact ((hpages ▸ h.list.filter isPage).map Prod.fst).symm

/-- The pages that are left are written as before. -/
theorem reportsOn_of_cleared {paths' : List Disk.Path} (h : Cleared disk disk' answer answer' input)
    (hp : Pages disk input paths) (hp' : Pages disk' input paths') :
    reportsOn disk' answer' c o base paths' = reportsOn disk answer c o base paths ∧
      paths'.length = (reportsOn disk answer c o base paths).length := by
  cases hp with
  | file he => cases he.symm.trans h.entry
  | @folder names _ hperm hsorted =>
  cases hp' with
  | file he => cases he.symm.trans h.entry'
  | @folder names' _ hperm' hsorted' =>
  obtain rfl : names' = names.filter fun name => readable disk (inFolder input name) :=
    (eq_pageNames hperm' hsorted').trans (pageNames_of_cleared h hperm hsorted)
  constructor
  · have hkept : reportsOn disk answer c o base
        ((names.map (inFolder input)).filter (readable disk)) =
          reportsOn disk answer c o base (names.map (inFolder input)) := reportsOn_filter_readable
    rw [← hkept, List.filter_map]
    simp only [reportsOn, List.filterMap_map]
    refine List.filterMap_congr fun name hm => ?_
    have hr : readable disk (inFolder input name) = true := (List.mem_filter.1 hm).2
    simp only [Function.comp_apply, pageReport_eq_of_cleared h hr]
  · rw [length_reportsOn, List.countP_map, List.length_map, ← List.countP_eq_length_filter]
    rfl

/-! Accounts. -/

/-- What a batch has written about its pages, and how it has counted them: the elements are read
back, each from a page that can be read and in the order of the pages, and show what scanning that
page alone reports. -/
structure Account (depth : Nat) (disk : Disk Id) (answer : String → Fetch.Answer) (processors : Nat)
    (c : Catalog) (o : Options) (base : Option String) (paths : List Disk.Path) (text : String)
    (stats : Stats) (elements : List Json) : Prop where
  /-- The text is read where values may nest as deep as the list of the elements, and only there. -/
  parsed : ∀ limit j, readAll (readValue ofWritten limit) text = .ok j ↔
    j = .list elements ∧ Regular limit (.list elements)
  /-- That is four levels more than what browsers support takes. -/
  nested : Regular (depth + 4) (.list elements)
  shown : List.Forall₂ (fun path j => ∃ r,
      Id.run (scanPage disk answer processors c o base path) = some r ∧ Shows (target path) r j)
    (paths.filter (readable disk)) elements
  scanned : stats.scanned = elements.length
  total : stats.scanned + stats.failed = paths.length
  findings : stats.findings = (elements.map fun j => (foundIn j).length).sum
  arrival : ∀ (threads : Nat) (reports : List (Option Report))
    (messages : List (Nat × Option Report)),
    List.Forall₂ (Scanned disk answer processors c (o.perPage processors threads) base)
      paths reports →
    messages.Perm (reports.zipIdx.map fun p => (p.2, p.1)) →
    (Reorder.ofMessages (paths.map target) messages).finish = (text, stats)

theorem ofMessages_of_scanned {threads : Nat} {reports : List (Option Report)}
    {messages : List (Nat × Option Report)}
    (hr : List.Forall₂ (Scanned disk answer processors c (o.perPage processors threads) base)
      paths reports)
    (hm : messages.Perm (reports.zipIdx.map fun p => (p.2, p.1))) :
    Reorder.ofMessages (paths.map target) messages =
      Id.run (scanPages disk answer processors c o base paths) := by
  have hreports : reports = paths.map (pageReport disk answer c o base) :=
    (reports_eq_of_scanned hr).trans (List.map_congr_left fun _ _ => pageReport_perPage threads)
  have hlength : (paths.map target).length = reports.length := by simp [hreports]
  rw [Reorder.ofMessages, Reorder.foldl_receive_of_perm hlength hm, run_scanPages, hreports]

theorem shown_of_forall₂ {elements : List Json}
    (h : List.Forall₂ (fun p j => Shows p.1 p.2 j) (reportsOn disk answer c o base paths)
      elements) :
    List.Forall₂ (fun path j => ∃ r,
        Id.run (scanPage disk answer processors c o base path) = some r ∧
          Shows (target path) r j) (paths.filter (readable disk)) elements := by
  have hpages := forall₂_filter_isSome h
  simp only [Option.isSome_map, isSome_pageReport] at hpages
  refine hpages.imp fun path j => ?_
  rintro ⟨p, hp, hshows⟩
  obtain ⟨r, hr, rfl⟩ := Option.map_eq_some_iff.1 hp
  exact ⟨r, run_scanPage.trans hr, hshows⟩

theorem findings_of_forall₂ {reports : List (String × Report)} {elements : List Json}
    (h : List.Forall₂ (fun p j => Shows p.1 p.2 j) reports elements) :
    reports.map (·.2.findings.length) = elements.map fun j => (foundIn j).length := by
  induction h with
  | nil => rfl
  | cons hshows _ ih => rw [List.map_cons, List.map_cons, ih, hshows.length_foundIn]

theorem exists_account (hc : c.Legible depth) : ∃ elements,
    Account depth disk answer processors c o base paths
      (textOf (reportsOn disk answer c o base paths))
      (statsOf paths.length (reportsOn disk answer c o base paths)) elements := by
  obtain ⟨elements, hnested, hparsed, hshows⟩ := exists_elements hc reports_of_mem_reportsOn
  have hall : (reportsOn disk answer c o base paths).length ≤ paths.length :=
    List.length_filterMap_le ..
  exact ⟨elements, {
    parsed := hparsed
    nested := (hnested _).2 (regular_jsonOf hc reports_of_mem_reportsOn)
    shown := shown_of_forall₂ hshows
    scanned := hshows.length_eq
    total := Nat.add_sub_cancel' hall
    findings := congrArg List.sum (findings_of_forall₂ hshows)
    arrival := fun threads reports messages hr hm => by
      rw [ofMessages_of_scanned hr hm, finish_scanPages] }⟩

theorem run_of_pages {i : Inspector} (hc : i.catalog = .ok c) (hp : Pages disk input paths) :
    Id.run (run disk answer processors i base input) =
      .ok (textOf (reportsOn disk answer c i.options base paths),
        statsOf paths.length (reportsOn disk answer c i.options base paths)) := by
  simp only [run, hc, Id.run_bind, run_pages hp, Id.run_pure, finish_scanPages]

/-- A batch of one page that can be read writes one element, which is read back unless it nests too
deep. -/
theorem run_of_page {i : Inspector} {a : Artifacts} (hc : c.Legible depth) (hi : i.catalog = .ok c)
    (hp : Pages disk input [path]) (ha : Id.run (pageArtifacts disk base path) = .ok a)
    (hr : reportAtHand c (a.settled i.options answer) = r) :
    ∃ text j, Id.run (run disk answer processors i base input) =
        .ok (text, ⟨1, 0, r.findings.length⟩) ∧
      (∀ k, Json.parse text = .ok k ↔
        k = .list [j] ∧ Regular maxDepth (jsonOf [(target path, r)])) ∧ Shows (target path) r j := by
  have hreports : reportsOn disk answer c i.options base [path] = [(target path, r)] := by
    simp only [reportsOn, List.filterMap_cons, pageReport, ha, hr]
    rfl
  have hreported : ∀ p ∈ [(target path, r)], Reports c p.2 := hreports ▸ reports_of_mem_reportsOn
  obtain ⟨elements, hnested, hparsed, hshows⟩ := exists_elements hc hreported
  obtain ⟨j, _, hj, hnil, rfl⟩ := List.forall₂_cons_left_iff.1 hshows
  cases hnil
  refine ⟨textOf [(target path, r)], j, ?_, fun k => ?_, hj⟩
  · rw [run_of_pages hi hp, hreports]
    rfl
  · rw [← hnested]
    exact hparsed maxDepth k

/-- A batch with a catalog in force writes one list and accounts for all pages of a file or folder.
When the pages of a folder that cannot be read are gone, it writes the same. Without a catalog, or
for what is neither a file nor a folder, it writes nothing. -/
theorem run_account (depth : Nat) (disk : Disk Id) (answer : String → Fetch.Answer)
    (processors : Nat) (i : Inspector) (base : Option String) (input : Disk.Path) :
    (∀ c, i.catalog = .ok c → c.Legible depth →
      Id.run (disk.entry input) = some .file ∨ Id.run (disk.entry input) = some .folder →
      ∃ paths text stats elements, Pages disk input paths ∧
        Id.run (run disk answer processors i base input) = .ok (text, stats) ∧
        Account depth disk answer processors c i.options base paths text stats elements ∧
        ∀ disk' answer', Cleared disk disk' answer answer' input →
          Id.run (run disk' answer' processors i base input) =
            .ok (text, ⟨stats.scanned, 0, stats.findings⟩)) ∧
    (∀ e, i.catalog = .error e →
      Id.run (run disk answer processors i base input) = .error (.catalog e)) ∧
    (∀ c, i.catalog = .ok c → Id.run (disk.entry input) ≠ some .file →
      Id.run (disk.entry input) ≠ some .folder →
      Id.run (run disk answer processors i base input) = .error (.noInput input)) := by
  refine ⟨fun c hc hlegible hentry => ?_, fun e he => ?_, fun c hc hfile hfolder => ?_⟩
  · obtain ⟨paths, hpages⟩ := exists_pages hentry
    obtain ⟨elements, haccount⟩ : ∃ elements,
        Account depth disk answer processors c i.options base paths _ _ elements :=
      exists_account hlegible
    refine ⟨paths, _, _, elements, hpages, run_of_pages hc hpages, haccount, ?_⟩
    intro disk' answer' hcleared
    obtain ⟨paths', hpages'⟩ := exists_pages (.inr hcleared.entry')
    obtain ⟨hreports, hlength⟩ : reportsOn disk' answer' c i.options base paths' =
        reportsOn disk answer c i.options base paths ∧ _ :=
      reportsOn_of_cleared hcleared hpages hpages'
    rw [run_of_pages hc hpages', hreports, hlength, statsOf, Nat.sub_self]
    rfl
  · simp only [run, he, Id.run_pure]
  · have hnone : Id.run (pages disk input) = none := by
      simp only [pages, Id.run_bind]
      rfl
    simp only [run, hc, Id.run_bind, hnone, Id.run_pure]

/-- A folder with three pages, of which the first cannot be read and is a script of the others, whose
style comes from the web. Once that page is gone the same is written. -/
theorem run_account_unread :
    let html := "<link rel=stylesheet href=//a.test/a.css><script src=\"a.htm\"></script>"
    let network : Fetch.Network := fun _ => .ok ⟨200, .ok "a: GRID"⟩
    let disk (e : Disk.Error) (entries : List (Disk.Path × Disk.Entry)) : Disk Id :=
      { read path := if path = "/p/a.htm" then .error e else .ok html
        entry path := if path = "/p" then some .folder else none
        list _ := entries
        absolute path := some path
        write _ _ := false }
    let full := disk .notText
      [("c.html", .file), ("notes.txt", .file), ("a.htm", .file), ("b.HTML", .file)]
    let kept := disk .missing [("notes.txt", .file), ("b.HTML", .file), ("c.html", .file)]
    let support : Json.Members :=
      [("support", .object [("chrome", .number (.float ⟨false, 115 * 2 ^ 46, -47⟩))])]
    let c : Catalog := .ofFeatures [⟨"grid", "Grid", "A \"grid\"", none, .css, .widely, support⟩]
    let i : Inspector := .ofCatalog c { Options.default with threads := some 2 }
    let fetch (d : Disk Id) (address : String) : Fetch.Answer := Fetch.resource d address network
    let written (d : Disk Id) := Id.run (run d (fetch d) 1 i none "/p")
    c.Legible 2 ∧ Cleared full kept (fetch full) (fetch kept) "/p" ∧
      (∃ text stats elements, written full = .ok (text, stats) ∧
        Account 2 full (fetch full) 1 c i.options none
          ["/p/a.htm", "/p/b.HTML", "/p/c.html"] text stats elements ∧
        Json.parse text = .ok (.list elements) ∧ (stats.scanned, stats.failed) = (2, 1) ∧
        written kept = .ok (text, ⟨stats.scanned, 0, stats.findings⟩)) ∧
      Id.run (run full (fetch full) 1 (.ofOptions i.options) none "/p") =
        .error (.catalog .unavailable) ∧
      Id.run (run full (fetch full) 1 i none "/q") = .error (.noInput "/q") := by
  intro html network disk full kept support c i fetch written
  have hlegible : c.Legible 2 := ⟨by decide, by decide +kernel, by decide +kernel⟩
  have hread (path : Disk.Path) :
      (Id.run (kept.read path)).toOption = (Id.run (full.read path)).toOption := by
    by_cases h : path = "/p/a.htm"
    · subst h
      rfl
    · simp [kept, full, disk, h]
  have hcleared : Cleared full kept (fetch full) (fetch kept) "/p" :=
    ⟨rfl, rfl, by decide +kernel, hread, fun _ _ => rfl,
      toOption_resource hread network⟩
  obtain ⟨hwritten, -, -⟩ := run_account 2 full (fetch full) 1 i none "/p"
  obtain ⟨paths, text, stats, elements, hpages, hrun, haccount, hsame⟩ :=
    hwritten c rfl hlegible (.inr rfl)
  let names : List Disk.Path := ["a.htm", "b.HTML", "c.html"]
  have hfull : Pages full "/p" (names.map (inFolder "/p")) :=
    .folder rfl (by decide +kernel) (by decide +kernel)
  cases (run_pages hpages).symm.trans (run_pages hfull)
  have hparsed : Json.parse text = .ok (.list elements) :=
    (haccount.parsed _ _).2 ⟨rfl, regular_of_le haccount.nested (by decide)⟩
  have hscanned : stats.scanned = 2 := by
    rw [haccount.scanned, ← haccount.shown.length_eq]
    decide +kernel
  have hfailed : stats.failed = 1 := by
    have htotal : stats.scanned + stats.failed = 3 := haccount.total
    omega
  exact ⟨hlegible, hcleared, ⟨text, stats, elements, hrun, haccount, hparsed,
      by rw [hscanned, hfailed], hsame kept (fetch kept) hcleared⟩,
    (run_account 2 full (fetch full) 1 (.ofOptions i.options) none "/p").2.1 _ rfl,
    (run_account 2 full (fetch full) 1 i none "/q").2.2 c rfl (by decide) (by decide)⟩

theorem artifactsOf_styled_paragraph (base : Option String) :
    artifactsOf base "<p style='a: grid'>" = ⟨["a: grid"], [], ["p"], []⟩ := by
  let html := "<p style='a: grid'>".toList
  have hstyles : Markup.styles.located html = [] := by decide +kernel
  have hlinks : Markup.links.located html = [] := by decide +kernel
  have hsheets (address : String → String) : Artifacts.locatedSheets address html = [] := by
    rw [Artifacts.locatedSheets, hstyles, hlinks]
    exact List.nil_merge _
  have hscripts : Markup.scripts.all html = [] := by decide +kernel
  rw [artifactsOf, Artifacts.ofMarkup, hsheets, hscripts, List.map_nil, List.map_nil]
  decide +kernel

/-- Support that nests as deep as a dataset lets it is written one level too deep to be read back.
And a page whose name is no text is called by its path as it is shown, which is not its name. -/
theorem unread_text_and_misnamed_page :
    let deep : Json.Members := [("a", Nat.repeat (fun j => .object [("a", j)]) 122 (.object []))]
    let data : Json := .object [("grid", .object [("name", .text "Grid"),
      ("spec", .text "https://w3.org/css"), ("status", .object [("support", .object deep)])])]
    let grid (support : Json.Members) : Feature :=
      ⟨"grid", "Grid", "Grid", some "https://w3.org/css", .css, .limited, support⟩
    let catalog (support : Json.Members) : Catalog := .ofFeatures [grid support]
    let name : Disk.Path := ⟨0xff :: (Disk.Path.ofText ".html").bytes⟩
    let disk : Disk Id :=
      { read _ := .ok "<p style='a: grid'>"
        entry path := if path = "p" then some .folder else some .file
        list _ := [(name, .file)]
        absolute path := some path
        write _ _ := false }
    let answer (_ : String) : Fetch.Answer := .error .noSource
    let written (support : Json.Members) (input : Disk.Path) :=
      Id.run (run disk answer 1 (.ofCatalog (catalog support) .default) none input)
    Catalog.ofDatasetText data.compact = .ok (catalog deep, ⟨1, 1, 0, 0⟩) ∧
      (∃ text, written deep "a.html" = .ok (text, ⟨1, 0, 1⟩) ∧ ∀ j, Json.parse text ≠ .ok j) ∧
      isPageName name = true ∧
      ∃ text j called, written [] "p" = .ok (text, ⟨1, 0, 1⟩) ∧ Json.parse text = .ok (.list [j]) ∧
        j.get? "target" = some (.text called) ∧ Disk.Path.ofText called ≠ name := by
  intro deep data grid catalog name disk answer written
  have hdata : Catalog.ofDatasetText data.compact = .ok (catalog deep, ⟨1, 1, 0, 0⟩) := by
    have hparse : Json.parse data.compact = .ok data :=
      Json.parse_of_layout (by decide +kernel) (by decide +kernel) (Json.toList_compact data)
    rw [Catalog.ofDatasetText_of_parse hparse]
    decide +kernel
  let page : Artifacts := ⟨["a: grid"], [], ["p"], []⟩
  have hpage (path : Disk.Path) : Id.run (pageArtifacts disk none path) = .ok page :=
    congrArg Except.ok (artifactsOf_styled_paragraph _)
  let report (support : Json.Members) : Report := .ofFindings [.ofFeature (grid support)]
  have hone {support : Json.Members} {input path : Disk.Path} {depth : Nat}
      (hc : (catalog support).Legible depth) (hp : Pages disk input [path])
      (hr : reportAtHand (catalog support) (page.settled .default answer) = report support) :
      ∃ text j, written support input = .ok (text, ⟨1, 0, 1⟩) ∧ (∀ k, Json.parse text = .ok k ↔
        k = .list [j] ∧ Regular maxDepth (jsonOf [(target path, report support)])) ∧
        Shows (target path) (report support) j :=
    run_of_page hc rfl hp (hpage path) hr
  refine ⟨hdata, ?_, by decide +kernel, ?_⟩
  · have hlegible : (catalog deep).Legible (maxDepth - 2) :=
      Catalog.legible_of_text (by decide) (.inl ⟨_, _, hdata⟩)
    have hdeep : ¬ Regular maxDepth (jsonOf [(target "a.html", report deep)]) := by decide +kernel
    have hpages : Pages disk "a.html" ["a.html"] := .file rfl
    obtain ⟨text, j, hrun, hparsed, -⟩ := hone hlegible hpages (by decide +kernel)
    exact ⟨text, hrun, fun k hk => hdeep ((hparsed k).1 hk).2⟩
  · have hlegible : (catalog []).Legible 1 := ⟨by decide, by decide +kernel, by decide +kernel⟩
    have hflat : Regular maxDepth (jsonOf [(target (inFolder "p" name), report [])]) := by
      decide +kernel
    have hpages : Pages disk "p" ([name].map (inFolder "p")) :=
      .folder rfl (by decide +kernel) (List.pairwise_singleton ..)
    obtain ⟨text, j, hrun, hparsed, hshows⟩ := hone hlegible hpages (by decide +kernel)
    exact ⟨text, j, _, hrun, (hparsed _).2 ⟨rfl, hflat⟩, hshows.target, by decide +kernel⟩

end FeatureAudit.Batch
