import PoolConsole.Resources.Quantity

namespace PoolConsole

structure Snapshot where
  total : KeyMap Float := ∅
  available : KeyMap Float := ∅
  deriving DecidableEq, Inhabited

namespace Snapshot

def ofJson? (j : Json) : Option Snapshot := do
  let fields ← j.fields? ["total", "available"]
  return {
    total := ← Json.field fields "total" Quantity.mapOfJson? ∅
    available := ← Json.field fields "available" Quantity.mapOfJson? ∅ }

/-- The resources that count as GPUs, one for each vendor. -/
def gpuKeys : List String := ["nvidia.com/gpu", "amd.com/gpu"]

/-- The resources that the details of a node list. -/
def detailKeys : List String := ["cpu", "memory"] ++ gpuKeys

/-- What there is and what is free of one resource; a resource not reported is zero. -/
def gauge (s : Snapshot) (key : String) : Gauge where
  online := (s.available.get? key).getD 0
  total := (s.total.get? key).getD 0

/-- The GPUs of all vendors together. -/
def gpus (s : Snapshot) : Gauge :=
  (gpuKeys.map s.gauge).foldl (fun g h => ⟨g.online + h.online, g.total + h.total⟩) ⟨0, 0⟩

/-- The resources listed for a node: those that are reported on either side. -/
def detail (s : Snapshot) : KeyMap Gauge :=
  .ofList ((detailKeys.filter fun key => s.total.contains key || s.available.contains key).map
    fun key => (key, s.gauge key))

end Snapshot

/-- The four gauges of a dashboard. -/
structure Summary where
  cpu : Gauge
  gpu : Gauge
  ram : Gauge
  devices : Gauge
  deriving DecidableEq

/-- Memory is reported in bytes and shown in gigabytes. -/
def bytesPerGigabyte : Float := 1000000000

def Summary.ofSnapshot (s : Snapshot) : Summary where
  cpu := s.gauge "cpu"
  gpu := s.gpus
  ram := ⟨(s.gauge "memory").online / bytesPerGigabyte, (s.gauge "memory").total / bytesPerGigabyte⟩
  devices := s.gauge "n_nodes"

end PoolConsole
