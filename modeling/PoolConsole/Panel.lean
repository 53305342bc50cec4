import PoolConsole.Error

/-!
What a view shows of something that is loaded. Every load takes a ticket, and only the result with
the latest ticket is taken over, so that a slow answer cannot replace a newer one. A failed load
keeps the data already shown.
-/

namespace PoolConsole

/-- The generation of a load. -/
structure Ticket where
  generation : Nat
  deriving DecidableEq, Repr

/-- What became of a load. -/
inductive LoadOutcome where
  | applied
  | stale
  | skipped
  deriving DecidableEq, Repr

def LoadOutcome.word : LoadOutcome → String
  | .applied => "Applied"
  | .stale => "Stale"
  | .skipped => "Skipped"

structure Panel (α : Type) where
  data : Option α := none
  loading : Bool := false
  error : Option String := none
  issued : Nat := 0
  deriving Inhabited

namespace Panel

variable {α : Type}

def begin (p : Panel α) : Ticket × Panel α :=
  (⟨p.issued + 1⟩, { p with issued := p.issued + 1, loading := true })

/-- The result of the load with the ticket has arrived. A stale one counts as no failure. -/
def complete (p : Panel α) (ticket : Ticket) (result : Outcome α) :
    Outcome LoadOutcome × Panel α :=
  if ticket.generation ≠ p.issued then (.ok .stale, p)
  else match result with
    | .ok data => (.ok .applied, { p with loading := false, data := some data, error := none })
    | .error e => (.error e, { p with loading := false, error := some e.userMessage })

/-- Makes every load under way stale. -/
def cancel (p : Panel α) : Panel α :=
  { p with issued := p.issued + 1, loading := false }

/-- Forgets the data as well. -/
def reset (p : Panel α) : Panel α :=
  { p.cancel with data := none, error := none }

end Panel

end PoolConsole
