import FeatureAudit.Disk.Basic
import FeatureAudit.Text.Occurrence

/-! The pages of a batch: a file, or the files of a folder whose names are those of pages. -/
namespace FeatureAudit.Batch

/-- A full stop, as a byte. -/
def dot : UInt8 := 46

/-- A name cut at its last dot, unless that is its first byte. -/
def cutEnding (name : List UInt8) : Option (List UInt8 × List UInt8) :=
  match name.reverse.dropWhile (· != dot) with
  | [] => none
  | [_] => none
  | _ :: front => some (front.reverse, (name.reverse.takeWhile (· != dot)).reverse)

/-- Whether a name ends with `.html` or `.htm`, in small or large letters, behind something else. -/
def isPageName (name : Disk.Path) : Bool :=
  match cutEnding name.bytes with
  | some (_, ending) => (Disk.Path.mk ending).text?.any fun text =>
    Text.sameAscii text.toList "html".toList || Text.sameAscii text.toList "htm".toList
  | none => false

/-- The names of the pages among the entries of a folder, in the order of their bytes. -/
def pageNames (entries : List (Disk.Path × Disk.Entry)) : List Disk.Path :=
  ((entries.filter fun e => e.2 = .file && isPageName e.1).map Prod.fst).mergeSort
    fun a b => decide (a.bytes ≤ b.bytes)

/-- The path of a name in a folder. -/
def inFolder (folder name : Disk.Path) : Disk.Path :=
  if folder.bytes.getLast? = some Disk.Path.slash then ⟨folder.bytes ++ name.bytes⟩
  else ⟨folder.bytes ++ Disk.Path.slash :: name.bytes⟩

/-- The last name of a path. -/
def lastName (path : Disk.Path) : Disk.Path :=
  ⟨(path.bytes.reverse.takeWhile (· != Disk.Path.slash)).reverse⟩

/-- What a page is called: by its name, or by its whole path as it is shown if the name is no text. -/
def target (path : Disk.Path) : String := (lastName path).text?.getD path.shown

/-- The paths of the pages that an input stands for, unless there is no such file or folder. -/
def pages [Monad m] (disk : Disk m) (input : Disk.Path) : m (Option (List Disk.Path)) := do
  match ← disk.entry input with
  | some .file => return some [input]
  | some .folder => return some ((pageNames (← disk.list input)).map (inFolder input))
  | _ => return none

end FeatureAudit.Batch
