import PoolConsole.Reply
import PoolConsole.Simulation.Pool

/-!
A pool in memory described by a JSON object, whose members are written as the management API would
send them. They are read in the order in which they are written, and a member that is left out
keeps what the pool holds.
-/

namespace PoolConsole.MemoryPool

/-- One member of a description: how it is read, and what it replaces. -/
structure Part where
  name : String
  replace : MemoryPool → Json → Outcome MemoryPool

namespace Part

variable {α : Type}

def of (name : String) (read : Json → Outcome α) (put : MemoryPool → α → MemoryPool) : Part where
  name
  replace p j := (read j).map (put p)

def record (name : String) (read? : Json → Option α) (put : MemoryPool → α → MemoryPool) : Part :=
  of name (Reply.decode name read?) put

def listing (name : String) (read? : Json → Option α) (put : MemoryPool → List α → MemoryPool) :
    Part :=
  of name (Reply.decodeList name read?) put

end Part

/-- The members of an object; any other value has none. -/
def membersOf (j : Json) : List (String × Json) :=
  j.asObject?.getD []

/-- The quotas that listings by namespace state. -/
def quotasOf (j : Json) : KeyMap Quota :=
  .ofList ((membersOf j).filterMap fun m => (Quota.ofListing? m.2).map (m.1, ·))

/-- The members that a description may have. -/
def parts : List Part := [
  .listing "devices" Device.ofJson? fun p devices => { p with devices },
  .listing "gpus" GpuNode.ofJson? fun p gpus => { p with gpus },
  .listing "jobs" Job.ofJson? fun p jobs => { p with jobs },
  .listing "templates" TemplateSummary.ofJson? fun p templates => { p with templates },
  .listing "spaces" Json.asString? fun p spaces => { p with spaces },
  .of "services" (Reply.read "services" Service.listOfJson?) fun p services => { p with services },
  .record "resources" Snapshot.ofJson? fun p resources => { p with resources },
  .record "node_resources" (Json.asKeyMap? Snapshot.ofJson?)
    fun p nodeResources => { p with nodeResources },
  .record "definitions" (Json.asKeyMap? TemplateDefinition.ofJson?)
    fun p definitions => { p with definitions },
  .record "labels" (Json.asKeyMap? (Json.asKeyMap? Json.asString?))
    fun p labels => { p with labels },
  .record "usage" ComputeUsage.ofJson? fun p usage => { p with usage },
  .record "series" UsageSeries.ofJson? fun p series => { p with series },
  .record "connected" Json.asBool? fun p connected => { p with connected },
  .record "agent_running" Json.asBool? fun p agentRunning => { p with agentRunning },
  .record "is_server" Json.asBool? fun p isServer => { p with isServer },
  .of "quotas" .ok fun p quotas => { p with quotas := quotasOf quotas },
  .of "job_logs" .ok fun p logs => { p with jobLogs := .ofList (membersOf logs) },
  .of "service_logs" .ok fun p serviceLogs => { p with serviceLogs }]

/-- Replaces what some members describe, up to the first that cannot be read. -/
def replaceParts : List (String × Json) → MemoryPool → Outcome Unit × MemoryPool
  | [], p => (.ok (), p)
  | (name, value) :: rest, p =>
    match parts.find? fun part => part.name = name with
    | none => replaceParts rest p
    | some part =>
      match part.replace p value with
      | .ok p => replaceParts rest p
      | .error e => (.error e, p)

/-- Replaces what a description describes. -/
def describe (j : Json) : MemoryPool → Outcome Unit × MemoryPool :=
  replaceParts (membersOf j)

end PoolConsole.MemoryPool
