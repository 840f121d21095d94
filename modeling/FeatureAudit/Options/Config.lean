import FeatureAudit.Options.Basic
import FeatureAudit.Toml.Parser

/-! Options from a configuration in TOML. It may have the sections `fetch` and `scan`, each a table or
the list of its values; other names do not count. -/
namespace FeatureAudit.Options

open Toml

/-! Values of the settings. -/

def countOf : Value → Option Nat
  | .integer n => if 0 ≤ n then some n.toNat else none
  | _ => none

def switchOf : Value → Option Bool
  | .truth b => some b
  | _ => none

def textOf : Value → Option String
  | .text s => some s
  | _ => none

def textsOf : Value → Option (List String)
  | .list vs => vs.mapM textOf
  | _ => none

/-- A setting of a section: its name, and how its value changes the options. -/
structure Setting where
  name : String
  set : Value → Options → Option Options

/-- The settings of the section `fetch`, in order. -/
def fetchSettings : List Setting :=
  [⟨"concurrency", fun v o => (countOf v).map fun n => { o with concurrency := some (max 1 n) }⟩,
    ⟨"timeout_secs", fun v o => (countOf v).map fun n => { o with timeout := n }⟩,
    ⟨"excluded_script_domains", fun v o => (textsOf v).map fun xs => { o with excluded := xs }⟩,
    ⟨"cross_origin_styles", fun v o => (switchOf v).map fun b => { o with styles := b }⟩,
    ⟨"external_scripts", fun v o => (switchOf v).map fun b => { o with scripts := b }⟩]

/-- The settings of the section `scan`, in order. -/
def scanSettings : List Setting :=
  [⟨"threads", fun v o => (countOf v).map fun n => { o with threads := some (max 1 n) }⟩]

/-- Applies the settings that a table has. -/
def applyTable (settings : List Setting) (t : Table) (o : Options) : Option Options :=
  settings.foldlM (fun o s =>
    match t.lookup s.name with
    | some v => s.set v o
    | none => some o) o

/-- Applies the settings whose values a list has, in order. -/
def applyList (settings : List Setting) (vs : List Value) (o : Options) : Option Options :=
  (settings.zip vs).foldlM (fun o sv => sv.1.set sv.2 o) o

/-- Applies a section; a date or a time is one without settings. -/
def applySection (settings : List Setting) (section? : Option Value) (o : Options) : Option Options :=
  match section? with
  | none => some o
  | some (.table _ t) => applyTable settings t o
  | some (.list vs) => applyList settings vs o
  | some (.tables earlier last) =>
    applyList settings ((earlier ++ [last]).map (.table .header ·)) o
  | some .moment => some o
  | some _ => none

/-- The options of a configuration, unless it is malformed. -/
def ofConfig (text : String) : Option Options := do
  let t ← Toml.parse text
  applySection scanSettings (t.lookup "scan")
    (← applySection fetchSettings (t.lookup "fetch") default)

end FeatureAudit.Options
