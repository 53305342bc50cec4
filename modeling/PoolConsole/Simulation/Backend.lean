import PoolConsole.Simulation.Pool

/-!
A pool in memory behind an API that can be slow and can fail: how long a call takes and whether it
fails is set by the name of the call, or by its name and its argument.
-/

namespace PoolConsole

/-- The argument by which a call is known, besides its name. -/
def Call.argument : Call → String
  | .gpus availableOnly => if availableOnly then "true" else "false"
  | .resources nodes => ",".intercalate (nodes.getD [])
  | .jobs space => space.getD "*"
  | .template name => name
  | .labels nodes => ",".intercalate nodes
  | .quota space => space
  | .usage query => ",".intercalate query.nodes
  | .metrics query => ",".intercalate query.resources
  | .serviceLogs tail => Text.natural tail
  | .jobLogs job _ _ tail => job ++ "@" ++ Text.natural tail
  | .deploy request => request.name
  | .deleteJob name _ => name
  | .deleteNodes nodes | .cordon nodes | .uncordon nodes => ",".intercalate nodes
  | .addLabels node _ => node
  | .setQuota space _ => space
  | _ => ""

/-- A call by its name and its argument. -/
def Call.key (c : Call) : String :=
  c.endpoint ++ ":" ++ c.argument

structure MemoryBackend where
  pool : MemoryPool := {}
  /-- The calls made, first to last. -/
  calls : List String := []
  failures : KeyMap PoolError := ∅
  /-- How many milliseconds calls take. -/
  latencies : KeyMap Nat := ∅
  deriving Inhabited

namespace MemoryBackend

/-- What is set for a call: for its name and argument, or else for its name alone. -/
def settingFor {α : Type} (settings : KeyMap α) (c : Call) : Option α :=
  (settings.get? c.key).or (settings.get? c.endpoint)

/-- A call is made; gives how long its answer takes. -/
def issue (b : MemoryBackend) (c : Call) : Nat × MemoryBackend :=
  ((settingFor b.latencies c).getD 0, { b with calls := b.calls ++ [c.key] })

/-- A call is answered. One that fails changes nothing. -/
def answer (b : MemoryBackend) (c : Call) : Outcome c.Answer × MemoryBackend :=
  match settingFor b.failures c with
  | some e => (.error e, b)
  | none =>
    let (r, pool) := b.pool.perform c
    (r, { b with pool })

/-- How often a call of a name has been made. -/
def count (b : MemoryBackend) (name : String) : Nat :=
  b.calls.countP fun key => (name ++ ":").toList.isPrefixOf key.toList

end MemoryBackend

end PoolConsole
