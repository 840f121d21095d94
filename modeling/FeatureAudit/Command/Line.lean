import FeatureAudit.Command.Basic
import FeatureAudit.Text.Occurrence

/-! The command line. Words are read from left to right; the first fault, or the first wish for help,
decides. -/
namespace FeatureAudit.Command

/-- What a command line asks for. -/
inductive Request where
  | run (c : Command)
  | version
  | help
  | misuse
  deriving DecidableEq, Repr

/-! Values. -/

/-- What the value of an option has to be. -/
inductive Form where
  | text
  | path
  | count
  deriving DecidableEq

/-- The number that digits spell, behind a plus sign or none, if it fits 64 bits. -/
def word? (s : String) : Option Nat :=
  let digits := match s.toList with
    | '+' :: r => r
    | cs => cs
  if digits.isEmpty || !digits.all Char.isDigit then none
  else
    let n := digits.foldl (fun n c => 10 * n + (c.toNat - 48)) 0
    if n < Nat.pow 2 64 then some n else none

def Form.accepts (f : Form) (value : String) : Bool :=
  match f with
  | .text => true
  | .path => !value.isEmpty
  | .count => (word? value).isSome

/-! Options. -/

/-- The options of a command: those that take a value, and those that do not. -/
structure Grammar where
  valued : List (String × Form)
  switches : List String

/-- The options given on a command line, with their values. -/
structure Given where
  values : List (String × String)
  switches : List String

namespace Given

def none : Given := ⟨[], []⟩

def value? (g : Given) (name : String) : Option String := g.values.lookup name

def has (g : Given) (name : String) : Bool := (g.value? name).isSome

end Given

/-- How reading the options of a command ends. -/
inductive Outcome where
  | done (g : Given)
  | help
  | misuse

/-- Whether a word may be the value of the option before it. -/
def isValue (word : String) : Bool :=
  match word.toList with
  | '-' :: _ :: _ => false
  | _ => true

/-- A word cut at its first equals sign. -/
def cutEquals (cs : List Char) : String × Option String :=
  let name := String.ofList (cs.takeWhile (· != '='))
  match cs.dropWhile (· != '=') with
  | _ :: r => (name, some (String.ofList r))
  | [] => (name, .none)

/-- Takes an option with its value. No option is given twice. -/
def Given.put (g : Given) (name : String) (form : Form) (value : String) : Option Given :=
  if g.has name || !form.accepts value then .none
  else some { g with values := g.values ++ [(name, value)] }

/-- Reads the options of a command. Two hyphens end them, and nothing may follow. -/
def readOptions (grammar : Grammar) (g : Given) : List String → Outcome
  | [] => .done g
  | word :: rest =>
    match word.toList with
    | ['-', '-'] => if rest.isEmpty then .done g else .misuse
    | '-' :: '-' :: cs =>
      let (name, attached) := cutEquals cs
      match grammar.valued.lookup name, attached with
      | some form, some value =>
        match g.put name form value with
        | some g => readOptions grammar g rest
        | .none => .misuse
      | some form, .none =>
        match rest with
        | [] => .misuse
        | value :: rest =>
          if !isValue value then .misuse
          else match g.put name form value with
            | some g => readOptions grammar g rest
            | .none => .misuse
      | .none, some _ => .misuse
      | .none, .none =>
        if name = "help" then .help
        else if grammar.switches.contains name ∧ !g.switches.contains name then
          readOptions grammar { g with switches := name :: g.switches } rest
        else .misuse
    | '-' :: 'h' :: _ => .help
    | _ => .misuse

/-! Commands. -/

def syncGrammar : Grammar := ⟨[("url", .text), ("output", .path), ("timeout", .count)], []⟩

def normalizeGrammar : Grammar := ⟨[("dataset", .path), ("output", .path)], []⟩

def scanGrammar : Grammar :=
  ⟨[("dataset", .path), ("features", .path), ("input", .path), ("bundle", .path),
    ("base-url", .text), ("config", .path), ("threads", .text), ("output", .path)], ["offline"]⟩

/-- The address from which datasets are published. -/
def publishedDataset : String := "https://unpkg.com/web-features/data.json"

def syncOf (g : Given) : Option Command :=
  some (.sync ((g.value? "url").getD publishedDataset) ((g.value? "output").getD "./data.json")
    (((g.value? "timeout").bind word?).getD 60))

def normalizeOf (g : Given) : Option Command :=
  (g.value? "dataset").map fun path =>
    .normalize path ((g.value? "output").getD "./features.json")

/-- A scan has one origin and one subject. -/
def scanOf (g : Given) : Option Command := do
  let origin ← match g.value? "dataset", g.value? "features" with
    | some path, .none => some (Origin.dataset path)
    | .none, some path => some (Origin.features path)
    | _, _ => .none
  let subject ← match g.value? "input", g.value? "bundle" with
    | some path, .none => some (Subject.input path)
    | .none, some path => some (Subject.bundle path)
    | _, _ => .none
  some (.scan
    { origin
      subject
      base := g.value? "base-url"
      config := g.value? "config"
      offline := g.switches.contains "offline"
      threads := g.value? "threads"
      output := (g.value? "output").getD "./result.json" })

/-- The request of a command's options. -/
def requestOf (grammar : Grammar) (commandOf : Given → Option Command) (words : List String) :
    Request :=
  match readOptions grammar .none words with
  | .help => .help
  | .misuse => .misuse
  | .done g =>
    match commandOf g with
    | some c => .run c
    | .none => .misuse

/-- Reads a command line. -/
def Request.ofWords : List String → Request
  | "sync" :: r => requestOf syncGrammar syncOf r
  | "normalize" :: r => requestOf normalizeGrammar normalizeOf r
  | "scan" :: r => requestOf scanGrammar scanOf r
  | "help" :: r =>
    match r with
    | [] => .help
    | [name] => if ["sync", "normalize", "scan", "help"].contains name then .help else .misuse
    | _ => .misuse
  | word :: _ =>
    match word.toList with
    | '-' :: 'h' :: _ => .help
    | '-' :: 'V' :: _ => .version
    | _ =>
      if word = "--help" then .help else if word = "--version" then .version else .misuse
  | [] => .misuse

/-- The number of threads that a word asks for; any other word leaves it open. -/
def threadsOf (s : String) : Option Nat :=
  if Text.sameAscii s.toList "auto".toList then .none
  else (word? s).filter (1 ≤ ·)

end FeatureAudit.Command
