import PoolConsole.Error
import PoolConsole.Resources.Quantity
import PoolConsole.Time.Instant

namespace PoolConsole

/-- Use in seconds, memory in bytes times seconds. -/
structure ComputeUsage where
  cpu : Float := 0
  ram : Float := 0
  gpus : Float := 0
  deriving DecidableEq, Inhabited

def ComputeUsage.ofJson? (j : Json) : Option ComputeUsage := do
  let fields ← j.fields? ["cpu", "ram", "gpus"]
  let amount (name : String) : Option Float := Json.field fields name Json.asFloat? 0
  return { cpu := ← amount "cpu", ram := ← amount "ram", gpus := ← amount "gpus" }

/-- Use in hours, memory in gibibytes times hours. -/
structure UsageHours where
  cpu : Float
  memory : Float
  gpu : Float
  deriving DecidableEq

def secondsPerHour : Float := 3600

def bytesPerGibibyte : Float := 1073741824

def ComputeUsage.hours (u : ComputeUsage) : UsageHours where
  cpu := u.cpu / secondsPerHour
  memory := u.ram / (bytesPerGibibyte * secondsPerHour)
  gpu := u.gpus / secondsPerHour

/-- A point of a series. -/
structure UsagePoint where
  timestamp : String
  used : Float
  total : Float
  deriving DecidableEq

/-- A series as reported: three columns that need not be equally long. -/
structure UsageSeries where
  timestamps : List String := []
  totals : List Json := []
  used : List Json := []
  deriving Inhabited

namespace UsageSeries

def ofJson? (j : Json) : Option UsageSeries := do
  let fields ← j.fields? ["timestamp", "total_resources", "used_resources"]
  return {
    timestamps := ← Json.field fields "timestamp" (Json.asList? Json.asString?) []
    totals := ← Json.field fields "total_resources" Json.asArray? []
    used := ← Json.field fields "used_resources" Json.asArray? [] }

/-- The quantity at the head of a column, zero where the column has ended. -/
def headQuantity (column : List Json) : Float :=
  (column.head?.map Quantity.ofJson).getD 0

def pointsOf : List String → List Json → List Json → List UsagePoint
  | [], _, _ => []
  | t :: ts, totals, used =>
    { timestamp := t, used := headQuantity used, total := headQuantity totals } ::
      pointsOf ts totals.tail used.tail

/-- One point for each timestamp; a value that is missing is zero. -/
def points (s : UsageSeries) : List UsagePoint :=
  pointsOf s.timestamps s.totals s.used

def isEmpty (s : UsageSeries) : Bool :=
  s.timestamps.isEmpty

end UsageSeries

/-- How far back a query reaches. -/
inductive TimeRange where
  | day
  | threeDays
  | week
  | fifteenDays
  deriving DecidableEq, Repr, Inhabited

namespace TimeRange

def word : TimeRange → String
  | .day => "24h"
  | .threeDays => "3d"
  | .week => "7d"
  | .fifteenDays => "15d"

def days : TimeRange → Nat
  | .day => 1
  | .threeDays => 3
  | .week => 7
  | .fifteenDays => 15

def seconds (r : TimeRange) : Nat := 86400 * r.days

def ofWord? (s : String) : Option TimeRange :=
  [day, threeDays, week, fifteenDays].find? fun r => r.word = s

def parse (s : String) : Outcome TimeRange :=
  match ofWord? s with
  | some r => .ok r
  | none =>
    .error (.validation ("unknown time range '" ++ s ++ "', expected 24h, 3d, 7d or 15d"))

end TimeRange

/-- The resource of which a series is asked. -/
inductive MetricResource where
  | gpus
  | cpu
  deriving DecidableEq, Repr, Inhabited

namespace MetricResource

def word : MetricResource → String
  | .gpus => "gpus"
  | .cpu => "cpu"

/-- The names of the series that are asked for. -/
def metricKeys : MetricResource → List String
  | .gpus => ["amd_com_gpu", "nvidia_com_gpu"]
  | .cpu => ["cpu"]

/-- The word in ASCII letters of either case; the singular counts as well. -/
def parse (s : String) : Outcome MetricResource :=
  let lowered := String.ofList (s.toList.map Char.toLower)
  if lowered = "gpus" ∨ lowered = "gpu" then .ok .gpus
  else if lowered = "cpu" then .ok .cpu
  else .error (.validation ("unknown resource '" ++ lowered ++ "', expected gpus or cpu"))

end MetricResource

/-- Asks for the use of some nodes between two times. -/
structure UsageQuery where
  start : String
  stop : String
  nodes : List String
  deriving DecidableEq, Repr

namespace UsageQuery

def window (range : TimeRange) (now : Instant) (nodes : List String) : UsageQuery where
  start := (now.before range.seconds).text
  stop := now.text
  nodes

def members (q : UsageQuery) : List (String × Json) :=
  [("start_time", .string q.start), ("end_time", .string q.stop),
    ("node_names", Json.ofStrings q.nodes)]

def toJson (q : UsageQuery) : Json :=
  .object q.members

end UsageQuery

/-- Asks for series of some resources of some nodes, added up over the nodes or not. -/
structure MetricsQuery extends UsageQuery where
  resources : List String
  aggregate : Bool
  deriving DecidableEq, Repr

namespace MetricsQuery

def window (range : TimeRange) (now : Instant) (nodes : List String) (resource : MetricResource) :
    MetricsQuery where
  toUsageQuery := .window range now nodes
  resources := resource.metricKeys
  aggregate := true

def toJson (q : MetricsQuery) : Json :=
  .object (q.members ++
    [("resources", Json.ofStrings q.resources), ("aggregate_results", .bool q.aggregate)])

end MetricsQuery

end PoolConsole
