import PoolConsole.Namespace
import PoolConsole.Panel
import PoolConsole.Pool.Job

namespace PoolConsole

structure JobBoard where
  panel : Panel (List Job) := {}
  page : Nat := 1
  /-- The ids of the selected jobs, each once, in no order that is shown. -/
  selected : List String := []
  /-- The scope of the latest load. -/
  scope : Option Scope := none
  deriving Inhabited

/-- The jobs of one page, and where it stands. -/
structure JobPage where
  jobs : List Job
  page : Nat
  totalPages : Nat
  totalJobs : Nat

namespace JobBoard

def jobs (b : JobBoard) : List Job :=
  b.panel.data.getD []

def ids (b : JobBoard) : List String :=
  b.jobs.map (·.id)

/-- Starts a load for a scope. A new scope is shown from its first page on. -/
def begin (b : JobBoard) (scope : Scope) : Ticket × JobBoard :=
  let (ticket, panel) := b.panel.begin
  let page := if b.scope = some scope then b.page else 1
  (ticket, { b with panel, page, scope := some scope })

def complete (b : JobBoard) (ticket : Ticket) (result : Outcome (List Job)) :
    Outcome LoadOutcome × JobBoard :=
  let (outcome, panel) := b.panel.complete ticket result
  (outcome, { b with panel })

/-- How many pages some jobs take: at least one. -/
def pageCount (pageSize total : Nat) : Nat :=
  max 1 ((total + pageSize - 1) / pageSize)

/-- The page that is shown: the one set, or the last one if there are fewer. -/
def currentPage (b : JobBoard) (pageSize : Nat) : JobPage :=
  let size := max 1 pageSize
  let totalPages := pageCount size b.jobs.length
  let page := min (max 1 b.page) totalPages
  { jobs := (b.jobs.drop ((page - 1) * size)).take size
    page, totalPages, totalJobs := b.jobs.length }

def setPage (b : JobBoard) (page : Nat) : JobBoard :=
  { b with page := max 1 page }

/-- Selects a job or takes it out of the selection, and tells which. -/
def toggleSelect (b : JobBoard) (id : String) : Bool × JobBoard :=
  if b.selected.contains id then (false, { b with selected := b.selected.filter (· ≠ id) })
  else (true, { b with selected := id :: b.selected })

/-- Whether the selection is exactly the loaded jobs. -/
def allSelected (b : JobBoard) : Bool :=
  b.ids.all (b.selected.contains ·) && b.selected.all (b.ids.contains ·)

/-- Selects all loaded jobs, or none if exactly they are selected. -/
def toggleSelectAll (b : JobBoard) : JobBoard :=
  { b with selected := if !b.ids.isEmpty && b.allSelected then [] else b.ids.eraseDups }

/-- The first job of a name. -/
def find? (b : JobBoard) (name : String) : Option Job :=
  b.jobs.find? fun j => j.name = name

/-- The selected jobs in the order of the list; the selection is empty afterwards. -/
def takeSelected (b : JobBoard) : List Job × JobBoard :=
  (b.jobs.filter fun j => b.selected.contains j.id, { b with selected := [] })

end JobBoard

end PoolConsole
