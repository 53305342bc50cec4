namespace PoolConsole

inductive PoolError where
  /-- The request did not get through, or came back with a failure status. -/
  | transport (text : String)
  /-- The management API refused the request in its answer. -/
  | backend (text : String)
  | config (text : String)
  /-- The operator's input was refused before any request was made. -/
  | validation (text : String)
  | busy (text : String)
  | notReady (text : String)
  | notFound (text : String)
  | io (text : String)
  /-- An answer could not be read as what it should be. -/
  | serialization (text : String)
  deriving DecidableEq, Repr, Inhabited

namespace PoolError

/-- The full wording, which names the kind of error first. -/
def message : PoolError → String
  | .transport text => "Transport error: " ++ text
  | .backend text => "Backend error: " ++ text
  | .config text => "Configuration error: " ++ text
  | .validation text => "Invalid input: " ++ text
  | .busy text => "Operation already in progress: " ++ text
  | .notReady text => "Not ready: " ++ text
  | .notFound text => "Not found: " ++ text
  | .io text => "IO error: " ++ text
  | .serialization text => "Serialization error: " ++ text

/-- The word for the kind of error. -/
def kind : PoolError → String
  | .transport _ => "Transport"
  | .backend _ => "Backend"
  | .config _ => "Config"
  | .validation _ => "Validation"
  | .busy _ => "Busy"
  | .notReady _ => "NotReady"
  | .notFound _ => "NotFound"
  | .io _ => "Io"
  | .serialization _ => "Serialization"

/-- The error of a kind. -/
def ofKind? (kind text : String) : Option PoolError :=
  [transport, backend, config, validation, busy, notReady, notFound, io, serialization].findSome?
    fun make => if (make text).kind = kind then some (make text) else none

/-- The wording shown to the operator: what the management API said is passed on as it is. -/
def userMessage : PoolError → String
  | .backend text => text
  | e => e.message

end PoolError

/-- The outcome of something that can fail. -/
abbrev Outcome (α : Type) := Except PoolError α

/-- What succeeds after something else has succeeded. -/
theorem bind_eq_ok {ε α β : Type} {x : Except ε α} {f : α → Except ε β} {b : β} :
    (x >>= f) = .ok b ↔ ∃ a, x = .ok a ∧ f a = .ok b := by
  cases x <;> simp [bind, Except.bind]

end PoolConsole
