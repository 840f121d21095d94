import FeatureAudit.Text.Bytes

/-! Disks, as far as audits use them: texts are read and written, folders are listed. -/
namespace FeatureAudit

/-- The path of a file, or one name on it: bytes, which need not be those of a text. -/
structure Disk.Path where
  bytes : List UInt8
  deriving DecidableEq, Repr

namespace Disk.Path

/-- What separates the names on a path. -/
def slash : UInt8 := 47

def ofText (text : String) : Path := ⟨text.toUTF8.data.toList⟩

instance : Coe String Path := ⟨ofText⟩

/-- The text that the path is, if it is one. -/
def text? (p : Path) : Option String := String.fromUTF8? ⟨p.bytes.toArray⟩

/-- The path as it is shown to a reader. -/
def shown (p : Path) : String := Text.ofBytes p.bytes

end Disk.Path

/-- Why a file could not be read. -/
inductive Disk.Error where
  | missing
  | notFolder
  | isFolder
  | nameTooLong
  | badName
  | notText
  deriving DecidableEq, Repr

def Disk.Error.message : Disk.Error → String
  | missing => "No such file or directory (os error 2)"
  | notFolder => "Not a directory (os error 20)"
  | isFolder => "Is a directory (os error 21)"
  | nameTooLong => "File name too long (os error 36)"
  | badName => "file name contained an unexpected NUL byte"
  | notText => "stream did not contain valid UTF-8"

/-- What an entry of a folder is. -/
inductive Disk.Entry where
  | file
  | folder
  | other
  deriving DecidableEq, Repr

/-- The operations of a disk. Paths are absolute or start at the current folder. -/
structure Disk (m : Type → Type) where
  /-- The text of a file. -/
  read : Disk.Path → m (Except Disk.Error String)
  /-- What a path leads to, if it leads anywhere. -/
  entry : Disk.Path → m (Option Disk.Entry)
  /-- The names in a folder, in any order. -/
  list : Disk.Path → m (List (Disk.Path × Disk.Entry))
  /-- The absolute path, without detours, of what a path leads to. -/
  absolute : Disk.Path → m (Option Disk.Path)
  /-- Makes a file hold a text, whether or not there was one; tells whether that went well. -/
  write : Disk.Path → String → m Bool

end FeatureAudit
