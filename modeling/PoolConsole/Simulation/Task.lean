import PoolConsole.Action
import PoolConsole.Simulation.Backend
import PoolConsole.Storage.FileTree

/-!
Operations on a pool in memory, over a clock that only waits advance. A task is an operation that
has been run up to a wait. A call takes effect when its answer is due, and a call without latency is
answered at once.
-/

namespace PoolConsole

/-- When a wait ends. Of two that end together, the one of the smaller order is seen to first. -/
structure Timer where
  due : Nat
  order : Nat
  deriving DecidableEq, Repr

def Timer.before (t u : Timer) : Bool :=
  t.due < u.due || (t.due = u.due && t.order < u.order)

/-- What the tasks share. -/
structure Stage (σ : Type) where
  clock : Nat := 0
  /-- How many waits have begun. -/
  waits : Nat := 0
  backend : MemoryBackend := {}
  files : FileTree := {}
  state : σ

namespace Stage

variable {σ : Type}

/-- Makes a call; gives when it is answered, unless that is at once. Waits in the foreground are
seen to before all others that end at the same time. -/
def issue (s : Stage σ) (foreground : Bool) (c : Call) : Option Timer × Stage σ :=
  let (latency, backend) := s.backend.issue c
  if latency = 0 then (none, { s with backend })
  else
    (some ⟨s.clock + latency, if foreground then 0 else s.waits + 1⟩,
      { s with backend, waits := s.waits + 1 })

def answer (s : Stage σ) (c : Call) : Outcome c.Answer × Stage σ :=
  let (r, backend) := s.backend.answer c
  (r, { s with backend })

def save (s : Stage σ) (place text : String) : Outcome Unit × Stage σ :=
  let (r, files) := s.files.save place text
  (r.mapError fun e => .io e.message, { s with files })

/-- Answers a load and takes the answer over into the state. -/
def load (s : Stage σ) (c : Call) (onAnswer : Outcome c.Answer → σ → Outcome LoadOutcome × σ) :
    Outcome LoadOutcome × Stage σ :=
  let (r, s) := s.answer c
  let (outcome, state) := onAnswer r s.state
  (outcome, { s with state })

/-- Whether a wait is over. -/
def isDue (s : Stage σ) (t : Timer) : Bool :=
  t.due ≤ s.clock

end Stage

/-- Adds a timer to timers in order, of which only the first that is due at a time counts. -/
def insertWake (t : Timer) : List Timer → List Timer
  | [] => [t]
  | u :: rest =>
    if t.due < u.due then t :: u :: rest
    else if t.due = u.due then u :: rest
    else u :: insertWake t rest

/-- The timers at which something is due, in order. -/
def wakes (timers : List Timer) : List Timer :=
  timers.foldl (fun ts t => insertWake t ts) []

/-! ## Calls made together -/

/-- One of several calls made together. -/
inductive Slot (c : Call) where
  | waiting (timer : Timer)
  | answered (a : c.Answer)

abbrev Slots : List Call → Type
  | [] => Unit
  | c :: cs => Slot c × Slots cs

namespace Slots

variable {σ : Type}

def timers : {cs : List Call} → Slots cs → List Timer
  | [], () => []
  | _ :: _, (.waiting t, rest) => t :: timers rest
  | _ :: _, (.answered _, rest) => timers rest

/-- The answers, once all are there. -/
def answers? : {cs : List Call} → Slots cs → Option (Call.Answers cs)
  | [], () => some ()
  | _ :: _, (.waiting _, _) => none
  | _ :: _, (.answered a, rest) => (answers? rest).map (a, ·)

/-- Adds a slot to those after it, if these have not failed. -/
def put {c : Call} {cs : List Call} (slot : Slot c) :
    Outcome (Slots cs) × Stage σ → Outcome (Slots (c :: cs)) × Stage σ
  | (.ok rest, s) => (.ok (slot, rest), s)
  | (.error e, s) => (.error e, s)

/-- Makes the calls in order, up to the first that fails at once. -/
def issue (foreground : Bool) : (cs : List Call) → Stage σ → Outcome (Slots cs) × Stage σ
  | [], s => (.ok (), s)
  | c :: cs, s =>
    match s.issue foreground c with
    | (some t, s) => put (.waiting t) (issue foreground cs s)
    | (none, s) =>
      match s.answer c with
      | (.ok a, s) => put (.answered a) (issue foreground cs s)
      | (.error e, s) => (.error e, s)

/-- Answers the calls that are due, in order, up to the first that fails. -/
def poll : {cs : List Call} → Slots cs → Stage σ → Outcome (Slots cs) × Stage σ
  | [], (), s => (.ok (), s)
  | c :: _, (.waiting t, rest), s =>
    if s.isDue t then
      match s.answer c with
      | (.ok a, s) => put (.answered a) (poll rest s)
      | (.error e, s) => (.error e, s)
    else put (.waiting t) (poll rest s)
  | _ :: _, (.answered a, rest), s => put (.answered a) (poll rest s)

/-- Answers all calls that are not answered yet. -/
def settle : {cs : List Call} → Slots cs → Stage σ → Outcome (Call.Answers cs) × Stage σ
  | [], (), s => (.ok (), s)
  | c :: _, (slot, rest), s =>
    let (r, s) := match slot with
      | .waiting _ => s.answer c
      | .answered a => (.ok a, s)
    match r with
    | .error e => (.error e, s)
    | .ok a =>
      let (answers, s) := settle rest s
      (answers.map (a, ·), s)

end Slots

/-- One of two loads made together. -/
inductive Half where
  | waiting (timer : Timer)
  | settled (outcome : Outcome LoadOutcome)

namespace Half

variable {σ : Type}

def timers : Half → List Timer
  | .waiting t => [t]
  | .settled _ => []

def issue (foreground : Bool) (c : Call)
    (onAnswer : Outcome c.Answer → σ → Outcome LoadOutcome × σ) (s : Stage σ) : Half × Stage σ :=
  match s.issue foreground c with
  | (some t, s) => (.waiting t, s)
  | (none, s) =>
    let (outcome, s) := s.load c onAnswer
    (.settled outcome, s)

def settle (c : Call) (onAnswer : Outcome c.Answer → σ → Outcome LoadOutcome × σ) (half : Half)
    (s : Stage σ) : Outcome LoadOutcome × Stage σ :=
  match half with
  | .waiting _ => s.load c onAnswer
  | .settled outcome => (outcome, s)

/-- Answers the load if it is due. -/
def poll (c : Call) (onAnswer : Outcome c.Answer → σ → Outcome LoadOutcome × σ) (half : Half)
    (s : Stage σ) : Half × Stage σ :=
  match half with
  | .waiting t =>
    if s.isDue t then
      let (outcome, s) := s.load c onAnswer
      (.settled outcome, s)
    else (.waiting t, s)
  | .settled outcome => (.settled outcome, s)

end Half

/-! ## Tasks -/

inductive ActiveTask (σ α : Type) where
  | finished (a : α)
  | call (c : Call) (timer : Timer) (next : Outcome c.Answer → Action σ α)
  | tryAll (calls : List Call) (slots : Slots calls)
      (next : Outcome (Call.Answers calls) → Action σ α)
  | both (c d : Call) (onFirst : Outcome c.Answer → σ → Outcome LoadOutcome × σ)
      (onSecond : Outcome d.Answer → σ → Outcome LoadOutcome × σ) (first second : Half)
      (next : Outcome LoadOutcome → Outcome LoadOutcome → Action σ α)

namespace ActiveTask

variable {σ α : Type}

/-- When the task goes on. -/
def timer? : ActiveTask σ α → Option Timer
  | .finished _ => none
  | .call _ timer _ => some timer
  | .tryAll _ slots _ => (wakes slots.timers).head?
  | .both _ _ _ _ first second _ => (wakes (first.timers ++ second.timers)).head?

/-- Runs an operation up to its first wait. -/
def start : Action σ α → Stage σ → ActiveTask σ α × Stage σ
  | .done a, s => (.finished a, s)
  | .get next, s => start (next s.state) s
  | .set state next, s => start next { s with state }
  | .save place text next, s =>
    let (r, s) := s.save place text
    start (next r) s
  | .call c next, s =>
    match s.issue false c with
    | (some timer, s) => (.call c timer next, s)
    | (none, s) =>
      let (r, s) := s.answer c
      start (next r) s
  | .tryAll cs next, s =>
    match Slots.issue false cs s with
    | (.error e, s) => start (next (.error e)) s
    | (.ok slots, s) =>
      match slots.answers? with
      | some answers => start (next (.ok answers)) s
      | none => (.tryAll cs slots next, s)
  | .both c d onC onD next, s =>
    let (first, s) := Half.issue false c onC s
    let (second, s) := Half.issue false d onD s
    match first, second with
    | .settled r, .settled q => start (next r q) s
    | _, _ => (.both c d onC onD first second next, s)

/-- Goes on with a task as far as it is due. -/
def poll : ActiveTask σ α → Stage σ → ActiveTask σ α × Stage σ
  | .finished a, s => (.finished a, s)
  | .call c timer next, s =>
    if s.isDue timer then
      let (r, s) := s.answer c
      start (next r) s
    else (.call c timer next, s)
  | .tryAll cs slots next, s =>
    match slots.poll s with
    | (.error e, s) => start (next (.error e)) s
    | (.ok slots, s) =>
      match slots.answers? with
      | some answers => start (next (.ok answers)) s
      | none => (.tryAll cs slots next, s)
  | .both c d onC onD first second next, s =>
    let (first, s) := first.poll c onC s
    let (second, s) := second.poll d onD s
    match first, second with
    | .settled r, .settled q => start (next r q) s
    | _, _ => (.both c d onC onD first second next, s)

end ActiveTask

end PoolConsole
