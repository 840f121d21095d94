import FeatureAudit.Command.Run
import FeatureAudit.Proofs.Datasets
import FeatureAudit.Proofs.Snapshots
import FeatureAudit.Proofs.Storage

/-! Normalizing a dataset and scanning with the snapshot it gives comes to the same as scanning with
the dataset. -/
namespace FeatureAudit.Command

open Disk

variable {α β ε : Type} {t t' : Tree} {path text : String} {failure : Failure}
  {network : Fetch.Network}

/-- What a step answers on a tree, and the tree that it leaves. -/
def Step.onTree (x : Step (StateM Tree) α) (t : Tree) : Except Failure α × Tree :=
  StateT.run (ExceptT.run x) t

/-- What a command answers on a tree, and the tree that it leaves. -/
def onTree (c : Command) (network : Fetch.Network) (processors : Nat) (t : Tree) :
    Except Failure Unit × Tree :=
  (run ofTree network processors c).onTree t

theorem onTree_bind (x : Step (StateM Tree) α) (f : α → Step (StateM Tree) β) (t : Tree) :
    (x >>= f : Step (StateM Tree) β).onTree t = match x.onTree t with
      | (.ok a, t') => (f a).onTree t'
      | (.error e, t') => (.error e, t') := by
  simp only [Step.onTree, ExceptT.run_bind, StateT.run_bind]
  rcases StateT.run (ExceptT.run x) t with ⟨r, t'⟩
  cases r <;> rfl

/-- An operation of the disk does not fail as a step, whatever it answers. -/
theorem onTree_liftM (x : StateM Tree α) :
    (liftM x : Step (StateM Tree) α).onTree t = (.ok (StateT.run x t).1, (StateT.run x t).2) := rfl

theorem run_read : StateT.run (ofTree.read path) t = (t.read path, t) := by
  have h : StateT.run (ofTree.read path) t = ((asText path).bind t.read, t) := rfl
  rw [h, asText_ofText]
  rfl

theorem run_write : StateT.run (ofTree.write path text) t =
    match t.write path text.toUTF8.toList with
    | some t' => (true, t')
    | none => (false, t) := by
  have h : StateT.run (ofTree.write path text) t =
      StateT.run (match (asText path).toOption.bind fun name =>
          t.write name text.toUTF8.toList with
        | some t => do
          set t
          return true
        | none => return false : StateM Tree Bool) t := rfl
  rw [h, asText_ofText]
  simp only [Except.toOption, Option.bind_some]
  cases t.write path text.toUTF8.toList <;> rfl

theorem onTree_need : (need ofTree path failure).onTree t =
    ((t.read path).mapError fun _ => failure, t) := by
  rw [need, onTree_bind, onTree_liftM, run_read]
  cases t.read path <;> rfl

theorem onTree_demand (answer : Except ε α) :
    (demand answer failure : Step (StateM Tree) α).onTree t =
    (answer.mapError fun _ => failure, t) := by
  cases answer <;> rfl

theorem onTree_save : (save ofTree path text failure).onTree t =
    match t.write path text.toUTF8.toList with
    | some t' => (.ok (), t')
    | none => (.error failure, t) := by
  rw [save, onTree_bind, onTree_liftM, run_write]
  cases t.write path text.toUTF8.toList <;> rfl

/-! Loading. -/

theorem onTree_loadCatalog_dataset {c : Catalog} {tally : Dataset.Tally}
    (ht : t.read path = .ok text) (hc : Catalog.ofDatasetText text = .ok (c, tally)) :
    (loadCatalog ofTree (.dataset path)).onTree t = (.ok c, t) := by
  rw [loadCatalog, onTree_bind, onTree_need, ht]
  simp only [Except.mapError]
  rw [onTree_bind, onTree_demand, hc]
  rfl

theorem onTree_loadCatalog_features {c : Catalog} (ht : t.read path = .ok text)
    (hc : Catalog.ofSnapshot text = .ok c) :
    (loadCatalog ofTree (.features path)).onTree t = (.ok c, t) := by
  rw [loadCatalog, onTree_bind, onTree_need, ht]
  simp only [Except.mapError]
  rw [onTree_demand, hc]
  rfl

theorem onTree_normalize {c : Catalog} {tally : Dataset.Tally} {processors : Nat} {output : String}
    (ht : t.read path = .ok text) (hc : Catalog.ofDatasetText text = .ok (c, tally)) :
    (normalize path output).onTree network processors t =
      match t.write output c.toSnapshot.pretty.toUTF8.toList with
      | some t' => (.ok (), t')
      | none => (.error .createOutput, t) := by
  rw [onTree, run, runNormalize, onTree_bind, onTree_loadCatalog_dataset ht hc]
  exact onTree_save

/-! Scanning. -/

theorem onTree_loadOptions : (loadOptions ofTree path).onTree t =
    (match t.read path with
      | .ok text => match Options.ofConfig text with
        | some o => .ok o
        | none => .error (.parseConfig path)
      | .error _ => .error (.readConfig path), t) := by
  rw [loadOptions, onTree_bind, onTree_need]
  cases t.read path with
  | error e => rfl
  | ok text =>
    simp only [Except.mapError]
    cases Options.ofConfig text <;> rfl

/-- The options of a scan are read without changing anything. -/
theorem onTree_scanOptions (s : Scan) (t : Tree) : ((scanOptions ofTree s).onTree t).2 = t := by
  rw [scanOptions]
  cases s.config with
  | none => rfl
  | some path =>
    simp only [onTree_bind, onTree_loadOptions]
    cases t.read path with
    | error e => rfl
    | ok text =>
      dsimp only
      cases Options.ofConfig text <;> rfl

/-- A scan depends on the origin of its catalog only through the catalog. -/
theorem onTree_scan {processors : Nat} {s : Scan} {origin : Origin}
    (h : (loadCatalog ofTree s.origin).onTree t = (loadCatalog ofTree origin).onTree t) :
    (scan s).onTree network processors t = (scan { s with origin }).onTree network processors t := by
  have hoptions : scanOptions ofTree { s with origin } = scanOptions ofTree s := rfl
  have htext (i : Inspector) :
      scanText ofTree network processors { s with origin } i =
        scanText ofTree network processors s i := rfl
  simp only [onTree, run, runScan, hoptions, htext]
  rw [onTree_bind, onTree_bind]
  obtain ⟨answer, ho⟩ : ∃ answer, (scanOptions ofTree s).onTree t = (answer, t) :=
    ⟨_, Prod.ext rfl (onTree_scanOptions s t)⟩
  rw [ho]
  cases answer with
  | error e => rfl
  | ok options =>
    dsimp only
    rw [onTree_bind, onTree_bind, h]

end FeatureAudit.Command

namespace FeatureAudit.Catalog

/-- The snapshot of a catalog, in either layout, holds the catalog. Hence a dataset can be
normalized wherever a file can be written, and a scan with what is written there is a scan with the
dataset. -/
theorem ofSnapshot_toSnapshot {c : Catalog}
    (hc : (∃ text tally, ofDatasetText text = .ok (c, tally)) ∨ ∃ text, ofSnapshot text = .ok c)
    (hw : ∀ f ∈ c.features, f.Whole) :
    ofSnapshot c.toSnapshot.compact = .ok c ∧ ofSnapshot c.toSnapshot.pretty = .ok c ∧
    ∀ (text : String) (tally : Dataset.Tally) (network : Fetch.Network) (processors : Nat)
      (dataset features : String) (t : Disk.Tree), t.read dataset = .ok text →
      ofDatasetText text = .ok (c, tally) → (t.target? features).isSome →
      ∃ t', (Command.normalize dataset features).onTree network processors t = (.ok (), t') ∧
        ∀ u : Disk.Tree, u.read dataset = .ok text → u.read features = t'.read features →
        ∀ s : Command.Scan,
          (Command.scan { s with origin := .features features }).onTree network processors u =
            (Command.scan { s with origin := .dataset dataset }).onTree network processors u := by
  obtain ⟨hformed, hstorable⟩ := storable_of_text hc
  have hfeatures : ∀ f ∈ c.features, f.Storable ∧ f.Whole :=
    fun f hf => ⟨hstorable f hf, hw f hf⟩
  have hpretty := ofSnapshot_of_layout hformed hfeatures (Json.toList_pretty _)
  refine ⟨ofSnapshot_of_layout hformed hfeatures (Json.toList_compact _), hpretty, ?_⟩
  intro text tally network processors dataset features t ht htext htarget
  obtain ⟨place, hplace⟩ := Option.isSome_iff_exists.1 htarget
  obtain ⟨t', hwrite⟩ : ∃ t', t.write features c.toSnapshot.pretty.toUTF8.toList = some t' :=
    ⟨_, by rw [Disk.Tree.write, hplace, Option.map_some]⟩
  refine ⟨t', by rw [Command.onTree_normalize ht htext, hwrite], fun u hu hsame s => ?_⟩
  have hread : u.read features = .ok c.toSnapshot.pretty := by
    rw [hsame, Disk.Tree.read_write hwrite]
  refine Command.onTree_scan ?_
  rw [Command.onTree_loadCatalog_features hread hpretty,
    Command.onTree_loadCatalog_dataset hu htext]

/-- A dataset of one feature, with an escape, nested values and the largest whole number, and a page
whose style comes from the web. -/
theorem ofSnapshot_toSnapshot_grid :
    let support : Json.Members :=
      [("chrome", .object [("version", .text "1\"\n2"),
        ("flags", .list [.number (.int (-3)), .null, .bool true])]),
      ("safari", .number (.int 18446744073709551615))]
    let data : Json := .object [("grid", .object [("name", .text "Grid"),
      ("spec", .text "https://w3.org/css"),
      ("status", .object [("baseline", .text "high"), ("support", .object support)])])]
    let c : Catalog :=
      ⟨[⟨"grid", "Grid", "Grid", some "https://w3.org/css", .css, .widely, support⟩], [], []⟩
    let page : String × Disk.Node :=
      ("p.html", .file "<link rel=stylesheet href=https://a.test/a.css>".toUTF8.toList)
    let network : Fetch.Network := fun _ => .ok ⟨200, .ok "a: grid"⟩
    let dataset : String × Disk.Node := ("data.json", .file data.compact.toUTF8.toList)
    let features : String × Disk.Node := ("f.json", .file c.toSnapshot.pretty.toUTF8.toList)
    let before : Disk.Tree := ⟨.folder [page, dataset], []⟩
    let after : Disk.Tree := ⟨.folder [page, dataset, features], []⟩
    let scan (origin : Command.Origin) : Command :=
      .scan ⟨origin, .input "p.html", none, none, false, none, "out.json"⟩
    ofDatasetText data.compact = .ok (c, ⟨1, 1, 0, 0⟩) ∧ (∀ f ∈ c.features, f.Whole) ∧
      (Command.normalize "data.json" "f.json").onTree network 1 before = (.ok (), after) ∧
      ofSnapshot c.toSnapshot.compact = .ok c ∧ ofSnapshot c.toSnapshot.pretty = .ok c ∧
      (scan (.features "f.json")).onTree network 1 after =
        (scan (.dataset "data.json")).onTree network 1 after := by
  intro support data c page network dataset features before after scan
  have hparse : Json.parse data.compact = .ok data :=
    Json.parse_of_layout (by decide) (by decide) (Json.toList_compact data)
  have htext : ofDatasetText data.compact = .ok (c, ⟨1, 1, 0, 0⟩) := by
    rw [ofDatasetText_of_parse hparse]
    decide
  have hw : ∀ f ∈ c.features, f.Whole := by decide
  have hbefore : before.read "data.json" = .ok data.compact :=
    Disk.Tree.read_of_file (show before.resolve "data.json" = .ok ["data.json"] from rfl) rfl
  have hafter : after.read "data.json" = .ok data.compact :=
    Disk.Tree.read_of_file (show after.resolve "data.json" = .ok ["data.json"] from rfl) rfl
  have hrun :
      (Command.normalize "data.json" "f.json").onTree network 1 before = (.ok (), after) := by
    have hplace : before.target? "f.json" = some ["f.json"] := rfl
    rw [Command.onTree_normalize hbefore htext, Disk.Tree.write, hplace]
    rfl
  obtain ⟨hcompact, hpretty, hnormalized⟩ := ofSnapshot_toSnapshot (.inl ⟨_, _, htext⟩) hw
  obtain ⟨t', hrun', hscan⟩ := hnormalized _ _ network 1 "data.json" "f.json" before hbefore htext rfl
  obtain rfl : t' = after := congrArg Prod.snd (hrun'.symm.trans hrun)
  exact ⟨htext, hw, hrun, hcompact, hpretty, hscan after hafter rfl
    ⟨.features "f.json", .input "p.html", none, none, false, none, "out.json"⟩⟩

end FeatureAudit.Catalog
