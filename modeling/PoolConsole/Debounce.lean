/-!
A debouncer holds a query back until nothing has been entered for a quiet period, so that only the
last query of a burst is dispatched. Every query begins a dispatch of its own, which sleeps for the
quiet period unless it is given up.
-/

namespace PoolConsole

/-- A dispatch that sleeps until it is due. -/
structure Dispatch where
  number : Nat
  query : String
  due : Nat
  deriving DecidableEq, Repr

structure Debouncer where
  quiet : Nat
  /-- The dispatches that sleep, in the order in which they began. -/
  sleeping : List Dispatch := []
  /-- How many dispatches have begun. -/
  begun : Nat := 0
  /-- The dispatch to give up at the next query, which may have been made by then. -/
  latest : Option Nat := none
  /-- Whether the debouncer has been given up. -/
  closed : Bool := false
  deriving DecidableEq, Repr

namespace Debouncer

/-- Gives a dispatch up, if there is one and it still sleeps. -/
def abort (d : Debouncer) (number : Option Nat) : Debouncer :=
  { d with sleeping := d.sleeping.filter fun s => number ≠ some s.number }

/-- A query entered at some time begins its dispatch and gives up the one that began before. -/
def push (d : Debouncer) (now : Nat) (query : String) : Debouncer :=
  if d.closed then d
  else
    { d with
      sleeping := d.sleeping ++ [⟨d.begun, query, now + d.quiet⟩]
      begun := d.begun + 1
      latest := some d.begun : Debouncer }.abort d.latest

def cancel (d : Debouncer) : Debouncer :=
  { d.abort d.latest with latest := none }

/-- Gives the debouncer up, with the dispatch that sleeps. -/
def drop (d : Debouncer) : Debouncer :=
  { d.cancel with closed := true }

/-- The queries whose dispatch is due by some time. -/
def dispatch (d : Debouncer) (now : Nat) : List String × Debouncer :=
  ((d.sleeping.filter fun s => s.due ≤ now).map (·.query),
    { d with sleeping := d.sleeping.filter fun s => now < s.due })

end Debouncer

end PoolConsole
