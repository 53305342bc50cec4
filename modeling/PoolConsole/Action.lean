import PoolConsole.Call
import PoolConsole.Panel

/-!
Operations as trees of steps: each reads and writes a shared state, and waits at its calls of the
management API. Between two calls an operation is not interrupted; while it waits, others may run.
So the tree says all about an operation that does not depend on the order of answers, and a run of
it is any way of answering its calls.
-/

namespace PoolConsole

inductive Action (σ α : Type) where
  | done (a : α)
  | get (next : σ → Action σ α)
  | set (s : σ) (next : Action σ α)
  /-- Keeps a text in a file, which is no call and does not let others run. -/
  | save (place text : String) (next : Outcome Unit → Action σ α)
  | call (c : Call) (next : Outcome c.Answer → Action σ α)
  /-- Makes several calls at once and goes on when all have been answered, or at the first failure;
  a call that fails before the next is made keeps that from being made. -/
  | tryAll (calls : List Call) (next : Outcome (Call.Answers calls) → Action σ α)
  /-- Makes two loads at once, takes each answer over into the state when it arrives, and goes on
  when both have been answered. -/
  | both (c d : Call) (onFirst : Outcome c.Answer → σ → Outcome LoadOutcome × σ)
      (onSecond : Outcome d.Answer → σ → Outcome LoadOutcome × σ)
      (next : Outcome LoadOutcome → Outcome LoadOutcome → Action σ α)

namespace Action

variable {σ τ α β : Type}

def bind : Action σ α → (α → Action σ β) → Action σ β
  | .done a, f => f a
  | .get next, f => .get fun s => (next s).bind f
  | .set s next, f => .set s (next.bind f)
  | .save place text next, f => .save place text fun r => (next r).bind f
  | .call c next, f => .call c fun r => (next r).bind f
  | .tryAll cs next, f => .tryAll cs fun r => (next r).bind f
  | .both c d onC onD next, f => .both c d onC onD fun r q => (next r q).bind f

instance : Monad (Action σ) where
  pure := .done
  bind := bind

@[simp] theorem pure_eq (a : α) : (pure a : Action σ α) = .done a := rfl

@[simp] theorem bind_eq (x : Action σ α) (f : α → Action σ β) : x >>= f = x.bind f := rfl

theorem bind_done (x : Action σ α) : x.bind .done = x := by
  induction x <;> simp_all [bind]

theorem bind_assoc {γ : Type} (x : Action σ α) (f : α → Action σ β) (g : β → Action σ γ) :
    (x.bind f).bind g = x.bind fun a => (f a).bind g := by
  induction x <;> simp_all [bind]

instance : LawfulMonad (Action σ) :=
  .mk' _ (fun x => bind_done x) (fun _ _ => rfl) (fun x f g => bind_assoc x f g)

/-- A view of the state. -/
def read (view : σ → α) : Action σ α :=
  .get fun s => .done (view s)

/-- Changes the state and gives a value. -/
def update (change : σ → α × σ) : Action σ α :=
  .get fun s => .set (change s).2 (.done (change s).1)

def modify (change : σ → σ) : Action σ Unit :=
  .get fun s => .set (change s) (.done ())

/-- One call. -/
def request (c : Call) : Action σ (Outcome c.Answer) :=
  .call c .done

/-- Goes on with the value of an operation that can fail, if it has not failed. -/
def attempt (x : Action σ (Outcome α)) (f : α → Action σ (Outcome β)) : Action σ (Outcome β) :=
  x.bind fun
    | .ok a => f a
    | .error e => .done (.error e)

/-- Several calls at once, up to the first failure. -/
def requestAll (calls : List Call) : Action σ (Outcome (Call.Answers calls)) :=
  .tryAll calls .done

/-- An operation on a part of a larger state. -/
def onPart (view : τ → σ) (replace : σ → τ → τ) : Action σ α → Action τ α
  | .done a => .done a
  | .get next => .get fun t => (next (view t)).onPart view replace
  | .set s next => .get fun t => .set (replace s t) (next.onPart view replace)
  | .save place text next => .save place text fun r => (next r).onPart view replace
  | .call c next => .call c fun r => (next r).onPart view replace
  | .tryAll cs next => .tryAll cs fun r => (next r).onPart view replace
  | .both c d onC onD next =>
    .both c d (fun r t => ((onC r (view t)).1, replace (onC r (view t)).2 t))
      (fun r t => ((onD r (view t)).1, replace (onD r (view t)).2 t))
      fun r q => (next r q).onPart view replace

end Action

end PoolConsole
