import PoolConsole.Error
import PoolConsole.Text.Digits

namespace PoolConsole

inductive Notice where
  | success (text : String)
  | failure (text : String)
  deriving DecidableEq, Repr

namespace Notice

def text : Notice → String
  | .success text | .failure text => text

def isError : Notice → Bool
  | .success _ => false
  | .failure _ => true

end Notice

structure BulkFailure where
  item : String
  reason : String
  deriving DecidableEq, Repr

structure BulkOutcome where
  attempted : Nat := 0
  failures : List BulkFailure := []
  deriving DecidableEq, Repr, Inhabited

namespace BulkOutcome

/-- Adds the result for one more item. -/
def record (o : BulkOutcome) (item : String) : Outcome Unit → BulkOutcome
  | .ok () => { o with attempted := o.attempted + 1 }
  | .error e =>
    { attempted := o.attempted + 1, failures := o.failures ++ [⟨item, e.userMessage⟩] }

/-- The outcome of a run, from the results in order. -/
def ofResults (results : List (String × Outcome Unit)) : BulkOutcome :=
  results.foldl (fun o r => o.record r.1 r.2) {}

def succeeded (o : BulkOutcome) : Nat :=
  o.attempted - o.failures.length

def isSuccess (o : BulkOutcome) : Bool :=
  o.failures.isEmpty

def failureList (o : BulkOutcome) : String :=
  "; ".intercalate (o.failures.map fun f => f.item ++ ": " ++ f.reason)

/-- What the operator is told of a run of deletions. -/
def deletionNotice (o : BulkOutcome) : Notice :=
  if o.isSuccess then .success ("Deleted " ++ Text.natural o.attempted ++ " job(s)")
  else .failure ("Some deletions failed: " ++ o.failureList)

end BulkOutcome

end PoolConsole
