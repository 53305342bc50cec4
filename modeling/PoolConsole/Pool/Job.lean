import PoolConsole.Json.Printer
import PoolConsole.Json.Record
import PoolConsole.Text.Blank

/-!
Jobs as the pool reports them. A job's own fields are read leniently, so that one odd record does
not hide the whole list; only its endpoints can make it unreadable.
-/

namespace PoolConsole

/-- The colour in which a job's status is shown. -/
inductive StatusTone where
  | success
  | warning
  | danger
  | unknown
  deriving DecidableEq, Repr

namespace StatusTone

def ofStatus (status : String) : StatusTone :=
  if status = "Running" then .success
  else if status = "Pending" then .warning
  else if status = "Error" then .danger
  else .unknown

def color : StatusTone → String
  | .success => "green"
  | .warning => "yellow"
  | .danger => "red"
  | .unknown => "gray"

end StatusTone

/-- Where a job can be reached: a URL, or an address with a port. -/
inductive Endpoint where
  | url (text : String)
  | address (host port : String)
  deriving DecidableEq, Repr

namespace Endpoint

def portText? : Json → Option String
  | .string s => some s
  | j => j.asUInt64?.map fun n => Text.natural n.toNat

def ofJson? : Json → Option Endpoint
  | .string s => some (.url s)
  | .object members => do
    let host ← (members.lookup "address").bind Json.asString?
    let port ← (members.lookup "port").bind portText?
    return .address host port
  | _ => none

def toUrl : Endpoint → String
  | .url text => text
  | .address host port => "http://" ++ host ++ ":" ++ port

end Endpoint

structure Job where
  id : String := ""
  name : String := ""
  /-- The namespace that the job belongs to; empty where it has none. -/
  owner : String := ""
  status : String := ""
  workers : String := ""
  hostNodes : String := ""
  /-- URLs by endpoint name. -/
  endpoints : KeyMap String := ∅
  spec : Option Json := none
  conditions : Option Json := none
  deriving Inhabited

namespace Job

def fieldNames : List String :=
  ["job_id", "name", "owner", "status", "workers", "host_nodes", "endpoint", "spec", "conditions"]

/-- Null is the empty text, a string is itself and any other value its compact text. -/
def lenientText : Json → String
  | .null => ""
  | j => j.plainText

def ofJson? (j : Json) : Option Job := do
  let fields ← j.fields? fieldNames
  let text (name : String) : String := ((fields name).map lenientText).getD ""
  let endpoints ← Json.field fields "endpoint"
    (Json.nullOr? ∅ (Json.asKeyMap? Endpoint.ofJson?)) ∅
  let present (name : String) : Option Json := (fields name).filter fun j => !j.isNull
  return {
    id := text "job_id"
    name := text "name"
    owner := text "owner"
    status := text "status"
    workers := text "workers"
    hostNodes := text "host_nodes"
    endpoints := endpoints.map Endpoint.toUrl
    spec := present "spec"
    conditions := present "conditions" }

/-- The nodes that the job runs on, one to a line of the report. -/
def hosts (job : Job) : List String :=
  ((Text.split '\n' job.hostNodes).map Text.trim).filter (· ≠ "")

def tone (job : Job) : StatusTone :=
  .ofStatus job.status

def specText (job : Job) : String :=
  (job.spec.map Json.pretty).getD "Job spec pending..."

def conditionsText (job : Job) : String :=
  (job.conditions.map Json.pretty).getD "Status pending..."

/-- The namespace of a job, if it has one. -/
def namespace? (job : Job) : Option String :=
  if job.owner = "" then none else some job.owner

end Job

end PoolConsole
