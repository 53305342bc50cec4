import PoolConsole.Action

namespace PoolConsole

/-- Where calls and files go. -/
structure Handler (m : Type → Type) where
  answer (c : Call) : m (Outcome c.Answer)
  save (place text : String) : m (Outcome Unit)

namespace Handler

variable {m : Type → Type} [Monad m] {σ α : Type}

/-- Makes all of several calls; the first failure in order is that of all. -/
def answerAll (h : Handler m) : (calls : List Call) → m (Outcome (Call.Answers calls))
  | [] => return .ok ()
  | c :: cs => do
    let first ← h.answer c
    let rest ← h.answerAll cs
    return first >>= fun a => rest.map fun as => (a, as)

def run (h : Handler m) : Action σ α → σ → m (α × σ)
  | .done a, s => return (a, s)
  | .get next, s => h.run (next s) s
  | .set s next, _ => h.run next s
  | .save place text next, s => do h.run (next (← h.save place text)) s
  | .call c next, s => do h.run (next (← h.answer c)) s
  | .tryAll cs next, s => do h.run (next (← h.answerAll cs)) s
  | .both c d onC onD next, s => do
    let (r, s) := onC (← h.answer c) s
    let (q, s) := onD (← h.answer d) s
    h.run (next r q) s

/-- An operation that follows another one finds the state that this has left. -/
theorem run_bind [LawfulMonad m] {β : Type} (h : Handler m) (x : Action σ α) (f : α → Action σ β)
    (s : σ) : h.run (x.bind f) s = h.run x s >>= fun r => h.run (f r.1) r.2 := by
  induction x generalizing s <;> simp_all [Action.bind, run]

end Handler

end PoolConsole
