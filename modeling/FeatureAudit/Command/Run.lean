import FeatureAudit.Batch.Basic
import FeatureAudit.Command.Line
import FeatureAudit.Fetch.Resource
import FeatureAudit.Options.Config
import FeatureAudit.Page.Json

/-! Running commands on a disk and in a network. A command that fails tells what it was about to do.
The file for the output of a scan is made before the pages are read. -/
namespace FeatureAudit.Command

/-- What was about to be done when a command failed. -/
inductive Failure where
  | readConfig (path : Disk.Path)
  | parseConfig (path : Disk.Path)
  | readDataset
  | normalizeDataset
  | readFeatures
  | parseFeatures
  | createOutput
  | readBundle
  | parseBundle
  | scanAndWrite
  | download (url : String)
  | acceptDownload
  | writeDataset
  deriving DecidableEq, Repr

def Failure.message : Failure → String
  | readConfig path => "read config " ++ path.shown
  | parseConfig path => "parse config " ++ path.shown
  | readDataset => "read dataset file"
  | normalizeDataset => "normalize dataset"
  | readFeatures => "read features file"
  | parseFeatures => "parse features file"
  | createOutput => "create output file"
  | readBundle => "read bundle file"
  | parseBundle => "parse bundle file"
  | scanAndWrite => "scan and write failed"
  | download url => "download " ++ url
  | acceptDownload => "downloaded dataset is unreadable"
  | writeDataset => "write dataset file"

variable {m : Type → Type} [Monad m]

/-- A step of a command. -/
abbrev Step (m : Type → Type) := ExceptT Failure m

/-- The text of a file that a step needs. -/
def need (disk : Disk m) (path : Disk.Path) (failure : Failure) : Step m String := do
  match ← disk.read path with
  | .ok text => return text
  | .error _ => throw failure

/-- A value that a step needs. -/
def demand (answer : Except ε α) (failure : Failure) : Step m α :=
  match answer with
  | .ok x => return x
  | .error _ => throw failure

/-- Makes a file hold a text. -/
def save (disk : Disk m) (path : Disk.Path) (text : String) (failure : Failure) : Step m Unit := do
  if !(← disk.write path text) then throw failure

/-- The options in a configuration file. -/
def loadOptions (disk : Disk m) (path : Disk.Path) : Step m Options := do
  match Options.ofConfig (← need disk path (.readConfig path)) with
  | some o => return o
  | none => throw (.parseConfig path)

/-- The catalog that a scan uses. -/
def loadCatalog (disk : Disk m) : Origin → Step m Catalog
  | .dataset path => do
    let text ← need disk path .readDataset
    return (← demand (Catalog.ofDatasetText text) .normalizeDataset).1
  | .features path => do
    let text ← need disk path .readFeatures
    demand (Catalog.ofSnapshot text) .parseFeatures

/-- The options of a scan: those of its configuration, then those of the command line. -/
def scanOptions (disk : Disk m) (s : Scan) : Step m Options := do
  let o ← match s.config with
    | some path => loadOptions disk path
    | none => pure .default
  let o := if s.offline then o.offline else o
  return match s.threads with
    | some word => { o with threads := threadsOf word }
    | none => o

/-- Fetches a dataset and keeps it as it came, if it can be read. -/
def runSync (disk : Disk m) (network : Fetch.Network) (url output : String) : Step m Unit := do
  let body ← match ← (Fetch.resource disk url network : m Fetch.Answer) with
    | .ok body => pure body
    | .error _ => throw (.download url)
  let _ ← demand (Catalog.ofDatasetText body) .acceptDownload
  save disk output body .writeDataset

/-- Turns a dataset into a snapshot. -/
def runNormalize (disk : Disk m) (dataset output : String) : Step m Unit := do
  let catalog ← loadCatalog disk (.dataset dataset)
  save disk output catalog.toSnapshot.pretty .createOutput

/-- What a scan writes. -/
def scanText (disk : Disk m) (network : Fetch.Network) (processors : Nat) (s : Scan)
    (i : Inspector) : Step m String := do
  let fetch (address : String) : m Fetch.Answer := Fetch.resource disk address network
  match s.subject with
  | .bundle path =>
    let artifacts ← demand (Artifacts.parse (← need disk path .readBundle)) .parseBundle
    let report ← demand (← (i.audit fetch processors artifacts : m _)) .scanAndWrite
    return report.toJson.compact
  | .input path =>
    let (text, _) ← demand (← (Batch.run disk fetch processors i s.base path : m _)) .scanAndWrite
    return text

/-- Scans and writes the reports. -/
def runScan (disk : Disk m) (network : Fetch.Network) (processors : Nat) (s : Scan) :
    Step m Unit := do
  let options ← scanOptions disk s
  let catalog ← loadCatalog disk s.origin
  save disk s.output "" .createOutput
  let text ← scanText disk network processors s (.ofCatalog catalog options)
  save disk s.output text .createOutput

/-- Runs a command. -/
def run (disk : Disk m) (network : Fetch.Network) (processors : Nat) : Command → Step m Unit
  | .sync url output _ => runSync disk network url output
  | .normalize dataset output => runNormalize disk dataset output
  | .scan s => runScan disk network processors s

/-- How the program ends: its exit code, what it prints, and what it says about a failure. -/
structure Ending where
  code : Nat
  output : String
  complaint : String
  deriving DecidableEq, Repr

def version : String := "baseline 0.1.0\n"

/-- Runs the command that a command line asks for. -/
def execute (disk : Disk m) (processors : Nat) (words : List String)
    (network : Fetch.Network := .silent) : m Ending := do
  match Request.ofWords words with
  | .version => return ⟨0, version, ""⟩
  | .help => return ⟨0, "", ""⟩
  | .misuse => return ⟨2, "", ""⟩
  | .run c =>
    match ← (run disk network processors c).run with
    | .ok () => return ⟨0, "", ""⟩
    | .error f => return ⟨1, "", "Error: " ++ f.message ++ "\n"⟩

end FeatureAudit.Command
