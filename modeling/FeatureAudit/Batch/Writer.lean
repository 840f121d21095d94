import FeatureAudit.Audit.Report
import FeatureAudit.Json.Printer

/-! Writing the reports of a batch as one list, in the order of the pages. Reports may come in that
order, or in any other with the places of their pages; then one that comes early is held back. -/
namespace FeatureAudit.Batch

/-- What became of the pages of a batch. -/
structure Stats where
  scanned : Nat
  failed : Nat
  findings : Nat
  deriving DecidableEq, Repr

/-- What has been written, whether a report is among it, and what became of the pages so far. -/
structure Writer where
  text : String
  empty : Bool
  stats : Stats
  deriving DecidableEq, Repr

namespace Writer

def start : Writer := ⟨"[", true, ⟨0, 0, 0⟩⟩

/-- The report on a page with its name, as JSON. -/
def pageJson (target : String) (r : Report) : Json := .object (("target", .text target) :: r.members)

/-- Takes the report on the next page, or that it failed. -/
def next (w : Writer) (target : String) : Option Report → Writer
  | some r =>
    { text := w.text ++ (if w.empty then "" else ",") ++ (pageJson target r).compact
      empty := false
      stats :=
        { w.stats with
          scanned := w.stats.scanned + 1
          findings := w.stats.findings + r.findings.length } }
  | none => { w with stats := { w.stats with failed := w.stats.failed + 1 } }

def finish (w : Writer) : String × Stats := (w.text ++ "]", w.stats)

/-- Writes reports that come in the order of their pages. -/
def ofReports (reports : List (String × Option Report)) : Writer :=
  reports.foldl (fun w r => w.next r.1 r.2) start

end Writer

/-- A writer for reports in any order: the place of the next page, and what has come early. -/
structure Reorder where
  place : Nat
  early : List (Nat × Option Report)
  writer : Writer
  deriving DecidableEq, Repr

namespace Reorder

def start : Reorder := ⟨0, [], .start⟩

/-- Writes as long as the report on the next page is there; at most `fuel` reports are. -/
def flush (targets : List String) : Nat → Reorder → Reorder
  | 0, s => s
  | fuel + 1, s =>
    match s.early.lookup s.place with
    | none => s
    | some r =>
      flush targets fuel
        { place := s.place + 1
          early := s.early.filter (·.1 ≠ s.place)
          writer := s.writer.next (targets.getD s.place "") r }

/-- Takes a message: the place of a page, and the report on it or that it failed. -/
def receive (targets : List String) (s : Reorder) (message : Nat × Option Report) : Reorder :=
  let early := message :: s.early
  flush targets early.length { s with early }

/-- Writes the reports that messages bring. -/
def ofMessages (targets : List String) (messages : List (Nat × Option Report)) : Writer :=
  (messages.foldl (receive targets) start).writer

end Reorder
end FeatureAudit.Batch
