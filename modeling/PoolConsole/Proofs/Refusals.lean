import PoolConsole.Http.Client

namespace PoolConsole

namespace Reply

variable {α : Type} {what : String} {read? : Json → Option α} {e : PoolError}

abbrev refuse (text : String) : Outcome α :=
  .error (.backend text)

end Reply

/-- What a call answers to a refusal: logs show it, and anything else fails with it. -/
def Call.refused : (c : Call) → String → Outcome c.Answer
  | .serviceLogs _, text => .ok (.error text)
  | .jobLogs _ _ _ _, text => .ok (.error text)
  | _, text => Reply.refuse text

namespace Http

/-- A reply that succeeds, but whose body reads as an object with an error, whatever else it has. A
string tells what went wrong itself, any other error by its compact JSON. -/
def Reply.Refuses (r : Reply) (text : String) : Prop :=
  r.isSuccess = true ∧ ∃ members e, Json.ofBody? r.body = some (.object members) ∧
    members.lookup "error" = some e ∧ e ≠ .null ∧ e.plainText = text

namespace Client

open PoolConsole.Reply

variable {c : Call} {r : Http.Reply} {j : Json} {text : String} {e : PoolError}

structure Reports (c : Call) (r : Http.Reply) : Prop where
  /-- A refusal is answered with what it says, and nothing else is answered so. -/
  refused : ∀ text, answer c r = c.refused text ↔ r.Refuses text
  backend : ∀ text, answer c r = .error (.backend text) → r.Refuses text
  /-- A status of failure is an error of the transport, and nothing else is. -/
  transport : (∃ text, answer c r = .error (.transport text)) ↔ r.isSuccess = false

-- An error that is no string is passed on as JSON, whatever stands beside it.
example : Except.toOption (answer (.serviceLogs 5)
    { body := "\x7b\"done\": [true], \"error\": \x7b\"code\": \"busy\"\x7d\x7d" }) =
      some (LogView.error "\x7b\"code\":\"busy\"\x7d") := by
  decide +kernel

end Client

end Http

end PoolConsole
