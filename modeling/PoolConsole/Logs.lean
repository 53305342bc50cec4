import PoolConsole.Reply

namespace PoolConsole

structure LogBlock where
  source : String
  node : Option String := none
  text : String
  deriving DecidableEq, Repr

inductive LogView where
  | idle
  | empty
  | blocks (bs : List LogBlock)
  | error (text : String)
  deriving DecidableEq, Repr, Inhabited

namespace LogView

def ofBlocks : List LogBlock → LogView
  | [] => .empty
  | b :: bs => .blocks (b :: bs)

theorem ofBlocks_ne_error (bs : List LogBlock) (text : String) : ofBlocks bs ≠ .error text := by
  cases bs <;> exact LogView.noConfusion

/-- The text of a log, if it has one. -/
def logText? (info : Json) : Option String :=
  (info.get? "logs").bind Json.asString?

def podBlock (pod : String × Json) : LogBlock where
  source := pod.1
  text := (logText? pod.2).getD "Logs not ready yet"

/-- The pods of all groups; a group that is no object has none. -/
def podBlocks (groups : List (String × Json)) : List LogBlock :=
  groups.flatMap fun group => (group.2.asObject?.getD []).map podBlock

/-- The logs of a job: groups of pods. -/
def ofJobLogs (j : Json) : LogView :=
  match Reply.refusal? j with
  | some text => .error text
  | none => ofBlocks (podBlocks (j.asObject?.getD []))

theorem ofJobLogs_eq_error_iff {j : Json} {text : String} :
    ofJobLogs j = .error text ↔ Reply.refusal? j = some text := by
  unfold ofJobLogs
  split
  next refused => simp [refused]
  next none => simp [none, ofBlocks_ne_error]

/-- The node that a service runs on, three levels down. -/
def nodeOf? (info : Json) : Option String :=
  (((info.get? "pod").bind (Json.get? "spec")).bind (Json.get? "node_name")).bind Json.asString?

def serviceBlock (service : String × Json) : LogBlock where
  source := service.1
  node := nodeOf? service.2
  text := (logText? service.2).getD "(no log output)"

/-- The logs of the pool's services. -/
def ofServiceLogs (j : Json) : LogView :=
  match Reply.refusal? j with
  | some text => .error text
  | none => ofBlocks ((j.asObject?.getD []).map serviceBlock)

def blockLines (b : LogBlock) : List String :=
  let place := match b.node with
    | some node => " in " ++ node
    | none => ""
  ["------", "--> " ++ b.source ++ place, "------", b.text, ""]

def render : LogView → String
  | .idle => ""
  | .empty => "No logs yet"
  | .error text => "Error: " ++ text
  | .blocks bs => "\n".intercalate (bs.flatMap blockLines)

end LogView

end PoolConsole
