/-! Values of a TOML document, and tables as they are built from keys and headers. A table can be
added to by the means by which it was made, and no name in it is given twice. -/
namespace FeatureAudit.Toml

/-- How a table came about: on the way to a header, by a dotted key, by a header of its own, or
between braces. -/
inductive Origin where
  | implied
  | dotted
  | header
  | braces
  deriving DecidableEq, Repr

/-- Values. Of floating-point numbers, dates and times it only matters that they are such. A list of
tables has an earlier part and a last table. -/
inductive Value where
  | integer (n : Int)
  | float
  | moment
  | truth (b : Bool)
  | text (s : String)
  | list (items : List Value)
  | table (origin : Origin) (members : List (String × Value))
  | tables (earlier : List (List (String × Value))) (last : List (String × Value))

abbrev Table := List (String × Value)

namespace Table

/-- Replaces the value of a name. -/
def replace (name : String) (v : Value) (t : Table) : Table :=
  t.map fun m => if m.1 = name then (name, v) else m

/-- Changes the table at the end of a path, whose missing parts are made. A dotted path leads neither
through a table with a header of its own nor through one between braces. -/
def within (dotted : Bool) (path : List String) (change : Origin → Table → Option Table)
    (origin : Origin) (t : Table) : Option Table :=
  match path with
  | [] => change origin t
  | name :: path =>
    match t.lookup name with
    | none =>
      let new := if dotted then .dotted else .implied
      (within dotted path change new []).map fun u => t ++ [(name, .table new u)]
    | some (.table o u) =>
      if o = .braces ∨ (dotted ∧ o = .header) then none
      else (within dotted path change o u).map fun u => t.replace name (.table o u)
    | some (.tables earlier last) =>
      (within dotted path change .header last).map fun u => t.replace name (.tables earlier u)
    | some _ => none

/-- Gives a name at the end of a dotted path its value. -/
def assign (path : List String) (name : String) (v : Value) (origin : Origin) (t : Table) :
    Option Table :=
  within true path (fun o u =>
    if (!path.isEmpty && o != .dotted) || (u.lookup name).isSome then none
    else some (u ++ [(name, v)])) origin t

/-- Opens the table of a header. -/
def openTable (path : List String) (name : String) (t : Table) : Option Table :=
  within false path (fun _ u =>
    match u.lookup name with
    | none => some (u ++ [(name, .table .header [])])
    | some (.table .implied inner) => some (u.replace name (.table .header inner))
    | some _ => none) .header t

/-- Opens another table of a list of tables. -/
def openNext (path : List String) (name : String) (t : Table) : Option Table :=
  within false path (fun _ u =>
    match u.lookup name with
    | none => some (u ++ [(name, .tables [] [])])
    | some (.tables earlier last) => some (u.replace name (.tables (earlier ++ [last]) []))
    | some _ => none) .header t

end Table
end FeatureAudit.Toml
