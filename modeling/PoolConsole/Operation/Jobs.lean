import PoolConsole.Bulk
import PoolConsole.Operation.Session

/-!
Operations on the list of jobs. Whatever is deleted, the list is read back afterwards, and whether
that works does not change what the operation answers.
-/

namespace PoolConsole.Operation

open Console

/-- Loads the jobs of the current scope, as soon as there is one. -/
def loadJobs : Action Console (Outcome LoadOutcome) := do
  let scope ← .read Console.scope
  match scope.toFetch with
  | none => return .ok .skipped
  | some space =>
    let ticket ← onJobs (.update fun b => b.begin scope)
    let result ← .request (.jobs space)
    onJobs (.update fun b => b.complete ticket result)

def reloadJobs : Action Console Unit := do
  let _ ← loadJobs
  return ()

def setNamespace (choice : Option String) : Action Console (Outcome LoadOutcome) := do
  let _ ← selectNamespace choice
  loadJobs

/-- The call that deletes a job in the namespace that it belongs to. -/
def deletion (job : Job) : Call :=
  .deleteJob job.name job.namespace?

def deleteJob (job : Job) : Action Console (Outcome Unit) :=
  (Action.call (deletion job) .done).attempt fun () => do
    reloadJobs
    return .ok ()

/-- Deletes jobs one after the other, whatever becomes of each. -/
def deleteEach : List Job → Action Console (List (String × Outcome Unit))
  | [] => return []
  | job :: rest => do
    let result ← Action.call (deletion job) .done
    let results ← deleteEach rest
    return (job.name, result) :: results

/-- Deletes the selected jobs and empties the selection. -/
def deleteSelected : Action Console BulkOutcome := do
  let jobs ← onJobs (.update JobBoard.takeSelected)
  let results ← deleteEach jobs
  reloadJobs
  return .ofResults results

end PoolConsole.Operation
