import PoolConsole.Simulation.Task

/-!
Running several tasks over one clock. Tasks in the background go on whenever the one in the
foreground waits, each when its own wait is over.
-/

namespace PoolConsole

structure BackgroundTask (σ α : Type) where
  /-- The tag under which the task can be waited for. -/
  tag : Option String
  task : ActiveTask σ α

structure Simulation (σ α : Type) where
  stage : Stage σ
  tasks : List (BackgroundTask σ α) := []

namespace Simulation

variable {σ α β : Type}

/-- The task that goes on first, if that is before a limit, and the other tasks. -/
def takeFirst? (limit : Timer) :
    List (BackgroundTask σ α) → Option (Timer × BackgroundTask σ α × List (BackgroundTask σ α))
  | [] => none
  | t :: rest =>
    let keep := fun (timer, first, others) => (timer, first, t :: others)
    match t.task.timer? with
    | none => (takeFirst? limit rest).map keep
    | some timer =>
      if timer.before limit then ((takeFirst? timer rest).map keep).or (some (timer, t, rest))
      else (takeFirst? limit rest).map keep

/-- Lets tasks go on one after the other, those before the limit, at most `fuel` times. -/
def runTasks (limit : Timer) : Nat → Simulation σ α → Simulation σ α
  | 0, s => s
  | fuel + 1, s =>
    match takeFirst? limit s.tasks with
    | none => s
    | some (timer, first, others) =>
      let (task, stage) := first.task.poll { s.stage with clock := max s.stage.clock timer.due }
      runTasks limit fuel { stage, tasks := others ++ [{ first with task }] }

/-- Lets tasks go on that do so before the limit. Every time, the task either ends or waits for a
later time, so each goes on at most as often as there are times up to the limit. -/
def runBefore (s : Simulation σ α) (limit : Timer) : Simulation σ α :=
  s.runTasks limit (s.tasks.length * (limit.due + 2))

/-- Lets all tasks go on that are due. -/
def runDue (s : Simulation σ α) : Simulation σ α :=
  s.runBefore ⟨s.stage.clock + 1, 0⟩

/-- Lets time pass up to a timer. -/
def await (s : Simulation σ α) (timer : Timer) : Simulation σ α :=
  let s := s.runBefore timer
  { s with stage := { s.stage with clock := max s.stage.clock timer.due } }

/-- Waits for calls made together, at each of the timers, and then answers what is left. -/
def collect {cs : List Call} : List Timer → Slots cs → Simulation σ α →
    Outcome (Call.Answers cs) × Simulation σ α
  | [], slots, s =>
    let (r, stage) := slots.settle s.stage
    (r, { s with stage })
  | timer :: rest, slots, s =>
    let s := s.await timer
    match slots.poll s.stage with
    | (.error e, stage) => (.error e, { s with stage })
    | (.ok slots, stage) => collect rest slots { s with stage }

/-- Waits for two loads made together. -/
def collectBoth (c d : Call) (onFirst : Outcome c.Answer → σ → Outcome LoadOutcome × σ)
    (onSecond : Outcome d.Answer → σ → Outcome LoadOutcome × σ) :
    List Timer → Half → Half → Simulation σ α →
      Outcome LoadOutcome × Outcome LoadOutcome × Simulation σ α
  | [], first, second, s =>
    let (r, stage) := first.settle c onFirst s.stage
    let (q, stage) := second.settle d onSecond stage
    (r, q, { s with stage })
  | timer :: rest, first, second, s =>
    let s := s.await timer
    let (first, stage) := first.poll c onFirst s.stage
    let (second, stage) := second.poll d onSecond stage
    collectBoth c d onFirst onSecond rest first second { s with stage }

/-- Runs an operation to its end. -/
def run (foreground : Bool) : Action σ β → Simulation σ α → β × Simulation σ α
  | .done b, s => (b, s)
  | .get next, s => run foreground (next s.stage.state) s
  | .set state next, s => run foreground next { s with stage := { s.stage with state } }
  | .save place text next, s =>
    let (r, stage) := s.stage.save place text
    run foreground (next r) { s with stage }
  | .call c next, s =>
    let (timer, stage) := s.stage.issue foreground c
    let s := timer.elim { s with stage } ({ s with stage }.await ·)
    let (r, stage) := s.stage.answer c
    run foreground (next r) { s with stage }
  | .tryAll cs next, s =>
    match Slots.issue foreground cs s.stage with
    | (.error e, stage) => run foreground (next (.error e)) { s with stage }
    | (.ok slots, stage) =>
      let (r, s) := collect (wakes slots.timers) slots { s with stage }
      run foreground (next r) s
  | .both c d onC onD next, s =>
    let (first, stage) := Half.issue foreground c onC s.stage
    let (second, stage) := Half.issue foreground d onD stage
    let (r, q, s) := collectBoth c d onC onD (wakes (first.timers ++ second.timers)) first second
      { s with stage }
    run foreground (next r q) s

/-- Runs a task of the background to its end. -/
def runTask : ActiveTask σ α → Simulation σ α → α × Simulation σ α
  | .finished a, s => (a, s)
  | .call c timer next, s =>
    let s := s.await timer
    let (r, stage) := s.stage.answer c
    run false (next r) { s with stage }
  | .tryAll _ slots next, s =>
    let (r, s) := collect (wakes slots.timers) slots s
    run false (next r) s
  | .both c d onC onD first second next, s =>
    let (r, q, s) := collectBoth c d onC onD (wakes (first.timers ++ second.timers)) first second s
    run false (next r q) s

/-- Starts an operation in the background and tells whether it has come to its end at once. A task
that had the tag before goes on without it. -/
def start (s : Simulation σ α) (tag : String) (x : Action σ α) : Bool × Simulation σ α :=
  let s := s.runDue
  let (task, stage) := ActiveTask.start x s.stage
  let others := s.tasks.map fun t => if t.tag = some tag then { t with tag := none } else t
  (task.timer?.isNone, { stage, tasks := others ++ [⟨some tag, task⟩] })

/-- Waits for the task of a tag; gives nothing if there is none. -/
def finish (s : Simulation σ α) (tag : String) : Option α × Simulation σ α :=
  match s.tasks.find? fun t => t.tag = some tag with
  | none => (none, s)
  | some t =>
    let s := { s with tasks := s.tasks.filter fun t => t.tag ≠ some tag }
    match t.task with
    | .finished a => (some a, s)
    | task =>
      let (a, s) := runTask task s
      (some a, s.runDue)

/-- Lets some time pass, and all tasks go on that are due at its end. -/
def sleep (s : Simulation σ α) (ms : Nat) : Simulation σ α :=
  (s.await ⟨s.stage.clock + ms, 0⟩).runDue

end Simulation

end PoolConsole
