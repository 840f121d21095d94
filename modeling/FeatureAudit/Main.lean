import FeatureAudit.Command.Run

/-! The program on the disk of the system. It has no network to ask. -/
namespace FeatureAudit

def Disk.Error.ofSystem : IO.Error → Disk.Error
  | .inappropriateType .. => .isFolder
  | .resourceBusy .. => .isFolder
  | .illegalOperation .. => .isFolder
  | .invalidArgument .. => .badName
  | _ => .missing

def Disk.Entry.ofSystem : IO.FS.FileType → Disk.Entry
  | .file => .file
  | .dir => .folder
  | _ => .other

/-- The answer of an action, if it goes well. -/
def attempt (action : IO α) : IO (Option α) := do
  match ← action.toBaseIO with
  | .ok x => return some x
  | .error _ => return none

/-- A path for the system, which takes texts only. -/
def Disk.Path.onSystem (p : Path) : IO String :=
  match p.text? with
  | some text => return text
  | none => throw (.userError (Disk.Error.message .missing))

/-- The disk of the system. -/
def Disk.system : Disk IO where
  read path := do
    match ← (do IO.FS.readBinFile (← path.onSystem) : IO ByteArray).toBaseIO with
    | .error e => return .error (.ofSystem e)
    | .ok bytes =>
      match String.fromUTF8? bytes with
      | some text => return .ok text
      | none => return .error .notText
  entry path := attempt do
    let resolved ← IO.FS.realPath (← path.onSystem)
    return .ofSystem (← resolved.metadata).type
  list path := do
    let found ← attempt do
      let folder ← IO.FS.realPath (← path.onSystem)
      (← folder.readDir).toList.mapM fun e => do
        return (.ofText e.fileName, Disk.Entry.ofSystem (← e.path.metadata).type)
    return found.getD []
  absolute path := attempt do return .ofText (← IO.FS.realPath (← path.onSystem)).toString
  write path text := do
    return (← attempt do IO.FS.writeFile (← path.onSystem) text).isSome

end FeatureAudit

open FeatureAudit in
def main (words : List String) : IO UInt32 := do
  let ending ← Command.execute Disk.system 1 words
  IO.print ending.output
  IO.eprint ending.complaint
  return ending.code.toUInt32
