import FeatureAudit.Audit.Inspector
import FeatureAudit.Batch.Pages
import FeatureAudit.Batch.Writer
import FeatureAudit.Page.Extract
import FeatureAudit.Url.FilePath

/-! Batches: the audits of all pages that an input stands for, with the catalog in force at the start.
A page that cannot be read is left out and counted. -/
namespace FeatureAudit.Batch

/-- Why a batch was not run. -/
inductive Error where
  | catalog (e : Catalog.Error)
  | noInput (input : Disk.Path)
  deriving DecidableEq, Repr

def Error.message : Error → String
  | catalog e => e.message
  | noInput input => "input " ++ input.shown ++ " is neither a file nor a directory"

/-- The artifacts of a page. References are relative to a base, if that is an address. -/
def artifactsOf (base : Option String) (html : String) : Artifacts :=
  .ofMarkup (Url.resolve (base.bind fun b => (Url.parse b).toOption)) html

/-- The artifacts of a page in a file. Unless a base is given, the file's own address is the base. -/
def pageArtifacts [Monad m] (disk : Disk m) (base : Option String) (path : Disk.Path) :
    m (Except Disk.Error Artifacts) := do
  match ← disk.read path with
  | .error e => return .error e
  | .ok html =>
    let own := (← disk.absolute path).map fun p => (Url.ofFilePath p.bytes).print
    return .ok (artifactsOf (base <|> own) html)

/-- The report on a page in a file, if it can be read. -/
def scanPage [Monad m] (disk : Disk m) (fetch : String → m Fetch.Answer) (processors : Nat)
    (c : Catalog) (o : Options) (base : Option String) (path : Disk.Path) : m (Option Report) := do
  match ← pageArtifacts disk base path with
  | .error _ => return none
  | .ok a => some <$> audit fetch processors c o a

/-- Scans pages and writes the reports on them. Several pages scanned at the same time share the
fetches, and their reports come as messages. -/
def scanPages [Monad m] (disk : Disk m) (fetch : String → m Fetch.Answer) (processors : Nat)
    (c : Catalog) (o : Options) (base : Option String) (paths : List Disk.Path) : m Writer := do
  let threads := o.effectiveThreads processors
  let targets := paths.map target
  if threads ≤ 1 ∨ paths.length ≤ 1 then
    let reports ← paths.mapM (scanPage disk fetch processors c o base)
    return .ofReports (targets.zip reports)
  else
    let shared := o.perPage processors threads
    let messages ← paths.zipIdx.mapM fun (path, i) => do
      return (i, ← scanPage disk fetch processors c shared base path)
    return Reorder.ofMessages targets messages

/-- Runs a batch: the text of its reports, and what became of its pages. -/
def run [Monad m] (disk : Disk m) (fetch : String → m Fetch.Answer) (processors : Nat)
    (i : Inspector) (base : Option String) (input : Disk.Path) :
    m (Except Error (String × Stats)) := do
  match i.catalog with
  | .error e => return .error (.catalog e)
  | .ok c =>
    match ← pages disk input with
    | none => return .error (.noInput input)
    | some paths =>
      return .ok (← scanPages disk fetch processors c i.options base paths).finish

end FeatureAudit.Batch
