import PoolConsole.Panel
import PoolConsole.Resources.Rows
import PoolConsole.Resources.Snapshot

namespace PoolConsole

structure NodeDetail where
  node : String
  labels : KeyMap String
  resources : KeyMap Gauge
  deriving DecidableEq

structure NodeBoard where
  table : Panel (List NodeRow) := {}
  detail : Panel NodeDetail := {}
  deriving Inhabited

namespace NodeBoard

def rows (b : NodeBoard) : List NodeRow :=
  b.table.data.getD []

def row? (b : NodeBoard) (node : String) : Option NodeRow :=
  b.rows.find? fun r => r.node = node

def beginTable (b : NodeBoard) : Ticket × NodeBoard :=
  let (ticket, table) := b.table.begin
  (ticket, { b with table })

def completeTable (b : NodeBoard) (ticket : Ticket) (result : Outcome (List NodeRow)) :
    Outcome LoadOutcome × NodeBoard :=
  let (outcome, table) := b.table.complete ticket result
  (outcome, { b with table })

def beginDetail (b : NodeBoard) : Ticket × NodeBoard :=
  let (ticket, detail) := b.detail.begin
  (ticket, { b with detail })

def completeDetail (b : NodeBoard) (ticket : Ticket) (result : Outcome NodeDetail) :
    Outcome LoadOutcome × NodeBoard :=
  let (outcome, detail) := b.detail.complete ticket result
  (outcome, { b with detail })

end NodeBoard

end PoolConsole
