/-! Fetching resources: each by itself, so that one that fails does not touch the others. Answers keep
the order of the addresses, whatever the order in which they arrive. -/
namespace FeatureAudit.Fetch

/-- Why a resource could not be had. -/
inductive Error where
  | excluded
  | status (code : Nat)
  | transport (cause : String)
  | noSource
  deriving DecidableEq, Repr

def Error.message : Error → String
  | excluded => "url matches an excluded domain"
  | status code => "http status " ++ toString code
  | transport cause => "transport error: " ++ cause
  | noSource => "resource has no source url"

/-- The text of a resource, or why it could not be had. -/
abbrev Answer := Except Error String

/-- What stands for an answer that never arrived. -/
def lost : Answer := .error (.transport "fetch worker lost")

/-- Puts the answers of a number of addresses in order. Each message holds the place of its
address. -/
def collect (count : Nat) (messages : List (Nat × Answer)) : List Answer :=
  (List.range count).map fun i => (messages.lookup i).getD lost

/-- The number of addresses that are fetched at the same time. -/
def workers (concurrency addresses : Nat) : Nat :=
  if concurrency ≤ 1 ∨ addresses ≤ 1 then 1 else min concurrency addresses

/-- Fetches resources, one after the other or through messages. -/
def fetchAll [Monad m] (fetch : String → m Answer) (concurrency : Nat) (addresses : List String) :
    m (List Answer) := do
  if workers concurrency addresses.length ≤ 1 then addresses.mapM fetch
  else
    let messages ← addresses.zipIdx.mapM fun (address, i) => do return (i, ← fetch address)
    return collect addresses.length messages

end FeatureAudit.Fetch
