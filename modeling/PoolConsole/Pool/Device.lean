import PoolConsole.Json.Record

namespace PoolConsole

structure Device where
  name : String := ""
  ready : Bool := false
  /-- Closed to new work. -/
  cordoned : Bool := false
  memoryPressure : Bool := false
  diskPressure : Bool := false
  pidPressure : Bool := false
  deriving DecidableEq, Repr, Inhabited

namespace Device

def fieldNames : List String :=
  ["name", "ready", "unschedulable", "memory_pressure", "disk_pressure", "pid_pressure"]

def ofJson? (j : Json) : Option Device := do
  let fields ← j.fields? fieldNames
  let flag (name : String) : Option Bool := Json.field fields name Json.asBool? false
  return {
    name := ← Json.field fields "name" Json.asString? ""
    ready := ← flag "ready"
    cordoned := ← flag "unschedulable"
    memoryPressure := ← flag "memory_pressure"
    diskPressure := ← flag "disk_pressure"
    pidPressure := ← flag "pid_pressure" }

/-- The kinds of pressure that the device is under. -/
def issues (d : Device) : List String :=
  (if d.memoryPressure then ["memory_pressure"] else []) ++
    (if d.diskPressure then ["disk_pressure"] else []) ++
    (if d.pidPressure then ["pid_pressure"] else [])

end Device

structure GpuNode where
  node : String := ""
  models : List String := []
  total : Float := 0
  available : Float := 0
  ready : Bool := false
  deriving DecidableEq, Inhabited

namespace GpuNode

def fieldNames : List String := ["node", "models", "total", "available", "ready"]

def ofJson? (j : Json) : Option GpuNode := do
  let fields ← j.fields? fieldNames
  return {
    node := ← Json.field fields "node" Json.asString? ""
    models := ← Json.field fields "models" (Json.asList? Json.asString?) []
    total := ← Json.field fields "total" Json.asFloat? 0
    available := ← Json.field fields "available" Json.asFloat? 0
    ready := ← Json.field fields "ready" Json.asBool? false }

end GpuNode

end PoolConsole
