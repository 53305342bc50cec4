import PoolConsole.Error
import PoolConsole.Json.Parser
import PoolConsole.Json.Printer

/-!
Reading the answers of the management API. It reports a refusal as an object with a member `error`
inside an otherwise successful answer.
-/

namespace PoolConsole.Reply

/-- What the management API says it went wrong; a null error is none. -/
def refusal? (j : Json) : Option String :=
  match j.get? "error" with
  | none | some .null => none
  | some e => some e.plainText

theorem refusal?_eq_some_iff {j : Json} {text : String} :
    refusal? j = some text ↔
      ∃ e, j.get? "error" = some e ∧ e ≠ .null ∧ e.plainText = text := by
  unfold refusal?
  split
  next absent => simp [absent]
  next null => simp [null]
  next e other present =>
    rw [present]
    constructor
    · intro same
      exact ⟨e, rfl, other, Option.some.inj same⟩
    · rintro ⟨_, ⟨⟩, -, rfl⟩
      rfl

def check (j : Json) : Outcome Json :=
  match refusal? j with
  | some text => .error (.backend text)
  | none => .ok j

/-- The error for a value that is not of the expected shape. -/
def shapeError (what : String) : PoolError :=
  .serialization ("unexpected shape of " ++ what)

def read {α : Type} (what : String) (read? : Json → Option α) (j : Json) : Outcome α :=
  match read? j with
  | some a => .ok a
  | none => .error (shapeError what)

def decode {α : Type} (what : String) (read? : Json → Option α) (j : Json) : Outcome α :=
  check j >>= read what read?

/-- The items of an array; any other value that is no refusal has none. -/
def decodeList {α : Type} (what : String) (read? : Json → Option α) (j : Json) : Outcome (List α) :=
  check j >>= fun
    | .array items => items.mapM (read what read?)
    | _ => .ok []

/-- Any answer that is no refusal. -/
def acknowledge (j : Json) : Outcome Unit :=
  (check j).map fun _ => ()

/-- The value of a message body. -/
def ofBody (body : String) : Outcome Json :=
  match Json.ofBody? body with
  | some j => .ok j
  | none => .error (shapeError "a message body")

end PoolConsole.Reply
