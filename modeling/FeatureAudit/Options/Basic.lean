/-! Options of an audit: how resources are fetched, which of them are left out, and how many pages
are audited at the same time. -/
namespace FeatureAudit

/-- A count that is not set is that of the processors; the time limit is in seconds. -/
structure Options where
  concurrency : Option Nat
  timeout : Nat
  excluded : List String
  styles : Bool
  scripts : Bool
  threads : Option Nat
  deriving DecidableEq, Repr

namespace Options

/-- Marks of addresses whose scripts are not fetched unless other marks are given. -/
def usuallyExcluded : List String := ["google-analytics", "doubleclick"]

def default : Options := ⟨none, 10, usuallyExcluded, true, true, none⟩

instance : Inhabited Options := ⟨default⟩

/-- Nothing is fetched. -/
def offline (o : Options) : Options := { o with styles := false, scripts := false }

/-- How many resources are fetched at the same time. -/
def effectiveConcurrency (processors : Nat) (o : Options) : Nat :=
  max 1 (o.concurrency.getD processors)

/-- How many pages are audited at the same time. -/
def effectiveThreads (processors : Nat) (o : Options) : Nat := max 1 (o.threads.getD processors)

/-- The options for each of several pages audited at the same time, which share the fetches. -/
def perPage (processors pages : Nat) (o : Options) : Options :=
  { o with concurrency := some (max 1 (o.effectiveConcurrency processors / max 1 pages)) }

end Options
end FeatureAudit
