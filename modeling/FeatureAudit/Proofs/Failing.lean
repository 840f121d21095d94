import FeatureAudit.Proofs.Normalizing

/-! What commands that fail leave behind. Everything is read before the first file is written, apart
from what a scan is about: by then the file for the output has been emptied. -/
namespace FeatureAudit

variable {α β : Type} {t t' : Disk.Tree} {path : Disk.Path} {processors : Nat}
  {network : Fetch.Network}

/-! Actions that only look at a tree. -/

namespace Disk

/-- Whatever the tree, the action leaves it as it is. -/
def Passive (x : StateM Tree α) : Prop := ∀ t, (StateT.run x t).2 = t

theorem passive_pure (a : α) : Passive (pure a) := fun _ => rfl

theorem Passive.bind {x : StateM Tree α} {f : α → StateM Tree β} (hx : Passive x)
    (hf : ∀ a, Passive (f a)) : Passive (x >>= f) := by
  intro t
  rw [StateT.run_bind]
  exact (hf _ _).trans (hx t)

theorem Passive.map {x : StateM Tree α} (hx : Passive x) (f : α → β) : Passive (f <$> x) := by
  intro t
  rw [StateT.run_map]
  exact hx t

theorem passive_mapM {f : α → StateM Tree β} (hf : ∀ a, Passive (f a)) (xs : List α) :
    Passive (xs.mapM f) := by
  induction xs with
  | nil => exact passive_pure []
  | cons x xs ih =>
    rw [List.mapM_cons]
    exact (hf x).bind fun _ => ih.bind fun _ => passive_pure _

theorem passive_read (path : Path) : Passive (ofTree.read path) := fun _ => rfl

theorem passive_entry (path : Path) : Passive (ofTree.entry path) := fun _ => rfl

theorem passive_list (path : Path) : Passive (ofTree.list path) := fun _ => rfl

theorem passive_absolute (path : Path) : Passive (ofTree.absolute path) := fun _ => rfl

end Disk

open Disk

/-! Fetches and audits. -/

theorem Fetch.passive_resource (address : String) :
    Passive (Fetch.resource ofTree address network) := by
  unfold Fetch.resource
  dsimp only
  cases Url.parse address with
  | error e => exact passive_pure _
  | ok u =>
    dsimp only
    split
    · cases u.filePath? with
      | none => exact passive_pure _
      | some bytes =>
        refine (passive_read ⟨bytes⟩).bind fun answer => ?_
        cases answer <;> exact passive_pure _
    · split <;> exact passive_pure _

variable {fetch : String → StateM Tree Fetch.Answer}

theorem Fetch.passive_fetchAll (hf : ∀ address, Passive (fetch address)) (concurrency : Nat)
    (addresses : List String) : Passive (Fetch.fetchAll fetch concurrency addresses) := by
  unfold Fetch.fetchAll
  split
  · exact passive_mapM hf addresses
  · refine Passive.bind (passive_mapM ?_ _) fun _ => passive_pure _
    exact fun ⟨address, i⟩ => (hf address).bind fun _ => passive_pure _

theorem passive_audit (hf : ∀ address, Passive (fetch address)) (c : Catalog) (o : Options)
    (a : Artifacts) : Passive (audit fetch processors c o a) :=
  (Fetch.passive_fetchAll hf _ _).bind fun _ => passive_pure _

theorem Inspector.passive_audit (hf : ∀ address, Passive (fetch address)) (i : Inspector)
    (a : Artifacts) : Passive (i.audit fetch processors a) := by
  unfold Inspector.audit
  cases i.catalog with
  | error e => exact passive_pure _
  | ok c => exact (FeatureAudit.passive_audit hf c i.options a).map _

/-! Batches. -/

namespace Batch

theorem passive_pages (input : Disk.Path) : Passive (pages ofTree input) := by
  refine (passive_entry input).bind fun entry => ?_
  rcases entry with _ | _ | _ | _
  · exact passive_pure _
  · exact passive_pure _
  · exact (passive_list input).bind fun _ => passive_pure _
  · exact passive_pure _

theorem passive_pageArtifacts (base : Option String) (path : Disk.Path) :
    Passive (pageArtifacts ofTree base path) := by
  refine (passive_read path).bind fun answer => ?_
  cases answer with
  | error e => exact passive_pure _
  | ok html => exact (passive_absolute path).bind fun _ => passive_pure _

theorem passive_scanPage (hf : ∀ address, Passive (fetch address)) (c : Catalog) (o : Options)
    (base : Option String) (path : Disk.Path) :
    Passive (scanPage ofTree fetch processors c o base path) := by
  refine (passive_pageArtifacts base path).bind fun answer => ?_
  cases answer with
  | error e => exact passive_pure _
  | ok a => exact (passive_audit hf c o a).map _

theorem passive_scanPages (hf : ∀ address, Passive (fetch address)) (c : Catalog) (o : Options)
    (base : Option String) (paths : List Disk.Path) :
    Passive (scanPages ofTree fetch processors c o base paths) := by
  unfold scanPages
  dsimp only
  split
  · exact (passive_mapM (passive_scanPage hf c o base) paths).bind fun _ => passive_pure _
  · refine Passive.bind (passive_mapM ?_ _) fun _ => passive_pure _
    exact fun ⟨path, i⟩ => (passive_scanPage hf c _ base path).bind fun _ => passive_pure _

theorem passive_run (hf : ∀ address, Passive (fetch address)) (i : Inspector)
    (base : Option String) (input : Disk.Path) :
    Passive (run ofTree fetch processors i base input) := by
  unfold run
  cases i.catalog with
  | error e => exact passive_pure _
  | ok c =>
    refine (passive_pages input).bind fun paths? => ?_
    cases paths? with
    | none => exact passive_pure _
    | some paths => exact (passive_scanPages hf c i.options base paths).bind fun _ => passive_pure _

end Batch

/-! Steps of commands. -/

namespace Command

/-- Whether a command that fails so has emptied the file for its output. -/
def Failure.late : Failure → Bool
  | readBundle | parseBundle | scanAndWrite => true
  | _ => false

/-- Whether a command fails so when it cannot write a file. -/
def Failure.ofWriting : Failure → Bool
  | createOutput | writeDataset => true
  | _ => false

/-- The step leaves every tree as it is, and all it fails with comes late or none of it does. -/
structure Step.Spares (x : Step (StateM Tree) α) (late : Bool) : Prop where
  tree : ∀ t, (x.onTree t).2 = t
  failure : ∀ t f, (x.onTree t).1 = .error f → f.late = late

variable {late : Bool} {failure : Failure} {ε : Type}

theorem spares_pure (a : α) : (pure a : Step (StateM Tree) α).Spares late :=
  ⟨fun _ => rfl, fun _ _ h => nomatch h⟩

theorem spares_throw : (throw failure : Step (StateM Tree) α).Spares failure.late :=
  ⟨fun _ => rfl, fun _ _ h => Except.error.inj h ▸ rfl⟩

theorem spares_liftM {x : StateM Tree α} (h : Passive x) :
    (liftM x : Step (StateM Tree) α).Spares late :=
  ⟨h, fun _ _ h => nomatch h⟩

section Bind

variable {x : Step (StateM Tree) α} {f : α → Step (StateM Tree) β}

/-- A run of a step and others behind it stops at the step or goes on with the same tree. -/
theorem Step.Spares.run_bind (hx : x.Spares late) (t : Tree) :
    (∃ e, e.late = late ∧ (x >>= f).onTree t = (.error e, t)) ∨
      ∃ a, (x >>= f).onTree t = (f a).onTree t := by
  have htree : (x.onTree t).2 = t := hx.tree t
  rw [onTree_bind]
  rcases hr : x.onTree t with ⟨e | a, u⟩
  · obtain rfl : u = t := by rwa [hr] at htree
    exact .inl ⟨e, hx.failure u e (congrArg Prod.fst hr), rfl⟩
  · obtain rfl : u = t := by rwa [hr] at htree
    exact .inr ⟨a, rfl⟩

theorem Step.Spares.bind (hx : x.Spares late) (hf : ∀ a, (f a).Spares late) :
    (x >>= f).Spares late := by
  constructor
  · intro t
    obtain ⟨e, -, h⟩ | ⟨a, h⟩ := hx.run_bind t
    · rw [h]
    · rw [h]
      exact (hf a).tree t
  · intro t e' he
    obtain ⟨e, hlate, h⟩ | ⟨a, h⟩ := hx.run_bind t
    · rw [h] at he
      exact Except.error.inj he ▸ hlate
    · exact (hf a).failure t e' (h ▸ he)

theorem Step.Spares.of_bind_error (hx : x.Spares late)
    (h : (x >>= f).onTree t = (.error failure, t')) :
    (failure.late = late ∧ t' = t) ∨ ∃ a, (f a).onTree t = (.error failure, t') := by
  obtain ⟨e, hlate, he⟩ | ⟨a, ha⟩ := hx.run_bind t
  · rw [h] at he
    cases he
    exact .inl ⟨hlate, rfl⟩
  · exact .inr ⟨a, ha.symm.trans h⟩

end Bind

theorem spares_need : (need ofTree path failure).Spares failure.late := by
  refine (spares_liftM (passive_read path)).bind fun answer => ?_
  cases answer with
  | error e => exact spares_throw
  | ok text => exact spares_pure text

theorem spares_demand (answer : Except ε α) :
    (demand answer failure : Step (StateM Tree) α).Spares failure.late := by
  cases answer with
  | error e => exact spares_throw
  | ok a => exact spares_pure a

theorem bytes_of_empty : "".toUTF8.toList = [] := by
  rw [Text.toList_toUTF8]
  rfl

/-- A file that cannot be written is all that a step which saves a text fails for. -/
theorem of_save_error {path text : String} {writing : Failure}
    (h : (save ofTree path text writing).onTree t = (.error failure, t')) : failure = writing := by
  rw [onTree_save] at h
  cases hw : t.write path text.toUTF8.toList with
  | none => rw [hw] at h; cases h; rfl
  | some u => rw [hw] at h; cases h

/-! What is read before the first file is written. -/

theorem spares_scanOptions (s : Scan) : (scanOptions ofTree s).Spares false := by
  unfold scanOptions
  cases s.config with
  | none => exact (spares_pure _).bind fun _ => spares_pure _
  | some path =>
    refine Step.Spares.bind ?_ fun _ => spares_pure _
    refine spares_need.bind fun text => ?_
    cases Options.ofConfig text with
    | none => exact spares_throw
    | some o => exact spares_pure o

theorem spares_loadCatalog (origin : Origin) :
    (loadCatalog ofTree origin).Spares false := by
  cases origin with
  | dataset path =>
    exact spares_need.bind fun _ => (spares_demand _).bind fun _ => spares_pure _
  | features path => exact spares_need.bind fun _ => spares_demand _

/-- What a scan is about is read behind that. -/
theorem spares_scanText (s : Scan) (i : Inspector) :
    (scanText ofTree network processors s i).Spares true := by
  unfold scanText
  dsimp only
  cases s.subject with
  | bundle path =>
    refine spares_need.bind fun _ => (spares_demand _).bind fun a => ?_
    refine (spares_liftM (i.passive_audit Fetch.passive_resource a)).bind fun _ => ?_
    exact (spares_demand _).bind fun _ => spares_pure _
  | input path =>
    refine (spares_liftM (Batch.passive_run Fetch.passive_resource i s.base path)).bind fun _ => ?_
    exact (spares_demand _).bind fun _ => spares_pure _

/-! Commands. -/

/-- How a failed command leaves the files: as they were, or with an empty output of a scan. -/
def Leaves (c : Command) (failure : Failure) (t t' : Tree) : Prop :=
  (failure.late = false ∧ t' = t) ∨
    (failure.late = true ∧ ∃ s, c = .scan s ∧ t.write s.output [] = some t')

variable {c : Command}

theorem leaves_of_error (h : c.onTree network processors t = (.error failure, t'))
    (hwriting : failure.ofWriting = false) : c.Leaves failure t t' := by
  have hsave {path text : String} {writing : Failure} {u : Tree} (hw : writing.ofWriting = true)
      (hs : (save ofTree path text writing).onTree u = (.error failure, t')) : False := by
    rw [of_save_error hs, hw] at hwriting
    cases hwriting
  cases c with
  | sync url output timeout =>
    have hfetch : (liftM (Fetch.resource ofTree url network) :
        Step (StateM Tree) Fetch.Answer).Spares false := spares_liftM (Fetch.passive_resource url)
    obtain hearly | ⟨answer, h⟩ := hfetch.of_bind_error h
    · exact .inl hearly
    cases answer with
    | error e =>
      cases h
      exact .inl ⟨rfl, rfl⟩
    | ok body =>
      obtain hearly | ⟨-, h⟩ := (spares_demand _).of_bind_error h
      · exact .inl hearly
      exact (hsave rfl h).elim
  | normalize dataset output =>
    obtain hearly | ⟨catalog, h⟩ := (spares_loadCatalog _).of_bind_error h
    · exact .inl hearly
    exact (hsave rfl h).elim
  | scan s =>
    obtain hearly | ⟨options, h⟩ := (spares_scanOptions s).of_bind_error h
    · exact .inl hearly
    obtain hearly | ⟨catalog, h⟩ := (spares_loadCatalog s.origin).of_bind_error h
    · exact .inl hearly
    rw [onTree_bind, onTree_save, bytes_of_empty] at h
    cases hcreate : t.write s.output [] with
    | none =>
      rw [hcreate] at h
      cases h
      cases hwriting
    | some u =>
      rw [hcreate] at h
      obtain ⟨hlate, rfl⟩ | ⟨text, h⟩ := (spares_scanText s _).of_bind_error h
      · exact .inr ⟨hlate, s, rfl, hcreate⟩
      exact (hsave rfl h).elim

theorem run_execute {words : List String} (hc : Request.ofWords words = .run c) :
    StateT.run (execute ofTree processors words network) t = match c.onTree network processors t with
      | (.ok (), t') => (⟨0, "", ""⟩, t')
      | (.error f, t') => (⟨1, "", "Error: " ++ f.message ++ "\n"⟩, t') := by
  rw [execute, hc]
  dsimp only
  rw [StateT.run_bind]
  change (c.onTree network processors t >>= _ : Id _) = _
  rcases c.onTree network processors t with ⟨f | ⟨⟩, u⟩ <;> rfl

/-- A command line that ends with an error other than a failed write leaves all files alone, apart
from the output of a scan that fails over what it is about: this one is emptied. -/
theorem leaves_of_execute {words : List String} {ending : Ending}
    (h : StateT.run (execute ofTree processors words network) t = (ending, t'))
    (hcode : ending.code = 1) : ∃ c failure, Request.ofWords words = .run c ∧
      ending.complaint = "Error: " ++ failure.message ++ "\n" ∧
      (failure.ofWriting = false → c.Leaves failure t t') := by
  cases hr : Request.ofWords words with
  | run c =>
    rw [run_execute hr] at h
    rcases hc : c.onTree network processors t with ⟨failure | ⟨⟩, u⟩
    · rw [hc] at h
      cases h
      exact ⟨c, failure, rfl, rfl, leaves_of_error hc⟩
    · rw [hc] at h
      cases h
      cases hcode
  | version => rw [execute, hr] at h; cases h; cases hcode
  | help => rw [execute, hr] at h; cases h; cases hcode
  | misuse => rw [execute, hr] at h; cases h; cases hcode

/-- A snapshot of a dataset that is not there does not touch the one before. -/
theorem leaves_of_execute_missing :
    let t : Tree := ⟨.folder [("features.json", .file "[]".toUTF8.toList)], []⟩
    let words := ["normalize", "--dataset", "data.json", "--output", "features.json"]
    let ending : Ending := ⟨1, "", "Error: read dataset file\n"⟩
    StateT.run (execute ofTree 1 words) t = (ending, t) ∧
      ∃ c failure, Request.ofWords words = .run c ∧
        ending.complaint = "Error: " ++ failure.message ++ "\n" ∧
        (failure.ofWriting = false → c.Leaves failure t t) := by
  intro t words ending
  have hwords : Request.ofWords words = .run (.normalize "data.json" "features.json") := by decide
  have hfail : (normalize "data.json" "features.json").onTree .silent 1 t =
      (.error .readDataset, t) := by
    rw [onTree, run, runNormalize, onTree_bind, loadCatalog, onTree_bind, onTree_need]
    rfl
  have hrun : StateT.run (execute ofTree 1 words) t = (ending, t) := by
    rw [run_execute hwords, hfail]
    rfl
  exact ⟨hrun, leaves_of_execute hrun rfl⟩

/-- A scan of artifacts that are not there empties the result of an earlier one. -/
theorem earlier_result_lost :
    let words := ["scan", "--features", "features.json", "--bundle", "bundle.json", "--output",
      "result.json"]
    let features : String × Node := ("features.json", .file "[]".toUTF8.toList)
    let before : Tree := ⟨.folder [features, ("result.json", .file "[]".toUTF8.toList)], []⟩
    let after : Tree := ⟨.folder [features, ("result.json", .file [])], []⟩
    StateT.run (execute ofTree 1 words) before =
        (⟨1, "", "Error: read bundle file\n"⟩, after) ∧
      before.read "result.json" = .ok "[]" ∧ after.read "result.json" = .ok "" := by
  intro words features before after
  let s : Scan :=
    ⟨.features "features.json", .bundle "bundle.json", none, none, false, none, "result.json"⟩
  have hwords : Request.ofWords words = .run (.scan s) := by decide
  have hfeatures : before.read "features.json" = .ok "[]" :=
    Tree.read_of_file (show before.resolve "features.json" = .ok ["features.json"] from rfl) rfl
  have hcatalog : Catalog.ofSnapshot "[]" = .ok ⟨[], [], []⟩ := by decide +kernel
  have hempty : before.write "result.json" "".toUTF8.toList = some after := by
    rw [bytes_of_empty]
    rfl
  have hoptions : (scanOptions ofTree s).onTree before = (.ok .default, before) := rfl
  have hrun : (scan s).onTree .silent 1 before = (.error .readBundle, after) := by
    rw [onTree, run, runScan, onTree_bind, hoptions]
    dsimp only
    rw [onTree_bind, onTree_loadCatalog_features hfeatures hcatalog]
    dsimp only
    rw [onTree_bind, onTree_save, hempty]
    dsimp only
    rw [onTree_bind, scanText, onTree_bind, onTree_need]
    rfl
  refine ⟨?_, ?_, rfl⟩
  · rw [run_execute hwords, hrun]
    rfl
  · exact Tree.read_of_file
      (show before.resolve "result.json" = .ok ["result.json"] from rfl) rfl

end Command
end FeatureAudit
