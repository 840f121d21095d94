import FeatureAudit.Disk.Basic
import FeatureAudit.Text.Blank

/-! A disk as a value: a tree of folders and files with a current folder. All its names are texts. -/
namespace FeatureAudit.Disk

inductive Node where
  | file (bytes : List UInt8)
  | folder (entries : List (String × Node))

namespace Node

def entry : Node → Entry
  | file _ => .file
  | folder _ => .folder

/-- What a name leads to inside a folder. -/
def child? (name : String) : Node → Option Node
  | folder entries => entries.lookup name
  | file _ => none

/-- What a path of names leads to. -/
def at? (names : List String) (n : Node) : Option Node :=
  names.foldlM (fun n name => n.child? name) n

/-- Puts a node under a name of a folder: in the place of the one there, or behind the others. -/
def put (name : String) (new : Node) : List (String × Node) → List (String × Node)
  | [] => [(name, new)]
  | (k, n) :: r => if k = name then (name, new) :: r else (k, n) :: put name new r

/-- Puts a node at the end of a path whose folders are all there. -/
def putAt (n : Node) (names : List String) (new : Node) : Node :=
  match names, n with
  | [], _ => new
  | [name], folder entries => folder (put name new entries)
  | name :: names, folder entries =>
    match entries.lookup name with
    | some inner => folder (put name (putAt inner names new) entries)
    | none => n
  | _, file _ => n

end Node

/-- A tree, and the names that lead to the current folder. -/
structure Tree where
  root : Node
  current : List String

namespace Tree

/-- Length of a name in bytes that must not be exceeded. -/
def maxNameBytes : Nat := 255

/-- Follows names from a place. Only folders can be passed through. -/
def follow (t : Tree) (place : List String) : List String → Except Error (List String)
  | [] => .ok place
  | name :: r =>
    match t.root.at? place with
    | some (.folder entries) =>
      if name = "" ∨ name = "." then t.follow place r
      else if name = ".." then t.follow place.dropLast r
      else if maxNameBytes < name.utf8ByteSize then .error .nameTooLong
      else if (entries.lookup name).isSome then t.follow (place ++ [name]) r
      else .error .missing
    | some (.file _) => .error .notFolder
    | none => .error .missing

/-- The names in a path, between slashes. -/
def namesOf (path : String) : List String :=
  (Text.splitWhere (· == '/') path.toList).map String.ofList

/-- Where a path starts. -/
def start (t : Tree) (path : String) : List String :=
  if path.toList.head? = some '/' then [] else t.current

/-- The place that a path leads to. -/
def resolve (t : Tree) (path : String) : Except Error (List String) :=
  if path.toList.contains '\x00' then .error .badName
  else if path.isEmpty then .error .missing
  else t.follow (t.start path) (namesOf path)

def node? (t : Tree) (path : String) : Option Node :=
  match t.resolve path with
  | .ok place => t.root.at? place
  | .error _ => none

/-- The text of a file. -/
def read (t : Tree) (path : String) : Except Error String := do
  match t.root.at? (← t.resolve path) with
  | some (.file bytes) =>
    match String.fromUTF8? ⟨bytes.toArray⟩ with
    | some text => .ok text
    | none => .error .notText
  | some (.folder _) => .error .isFolder
  | none => .error .missing

def list (t : Tree) (path : String) : List (String × Entry) :=
  match t.node? path with
  | some (.folder entries) => entries.map fun e => (e.1, e.2.entry)
  | _ => []

/-- The absolute path of a place. -/
def pathOf (place : List String) : String := "/" ++ String.intercalate "/" place

/-- The place where a file can be written: its folder is there, and it is no folder itself. -/
def target? (t : Tree) (path : String) : Option (List String) :=
  if path.toList.contains '\x00' then none
  else
    let names := namesOf path
    let name := names.getLastD ""
    if name = "" ∨ name = "." ∨ name = ".." ∨ maxNameBytes < name.utf8ByteSize then none
    else
      match t.follow (t.start path) names.dropLast with
      | .error _ => none
      | .ok place =>
        match t.root.at? place with
        | some (.folder entries) =>
          match entries.lookup name with
          | some (.folder _) => none
          | _ => some (place ++ [name])
        | _ => none

/-- Makes a file hold bytes. -/
def write (t : Tree) (path : String) (bytes : List UInt8) : Option Tree :=
  (t.target? path).map fun place => { t with root := t.root.putAt place (.file bytes) }

end Tree

/-- The text of a path. Any other path leads nowhere in a tree. -/
def asText (path : Path) : Except Error String :=
  match path.text? with
  | some text => .ok text
  | none => .error (if path.bytes.contains 0 then .badName else .missing)

/-- The disk that a tree is. -/
def ofTree : Disk (StateM Tree) where
  read path := do
    let t ← get
    return (asText path).bind t.read
  entry path := do
    let t ← get
    return ((asText path).toOption.bind t.node?).map Node.entry
  list path := do
    let t ← get
    let entries := (asText path).toOption.map t.list
    return (entries.getD []).map fun e => (Path.ofText e.1, e.2)
  absolute path := do
    let t ← get
    return ((asText path).bind t.resolve).toOption.map fun place => .ofText (Tree.pathOf place)
  write path text := do
    let t ← get
    match (asText path).toOption.bind fun name => t.write name text.toUTF8.toList with
    | some t =>
      set t
      return true
    | none => return false

end FeatureAudit.Disk
