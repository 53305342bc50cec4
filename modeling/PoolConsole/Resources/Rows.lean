import PoolConsole.Decimal.Rounding
import PoolConsole.Pool.Device

namespace PoolConsole

structure NodeRow where
  node : String
  models : String
  /-- The share of the GPUs in use, in percent. -/
  used : Float
  total : Float
  issues : String
  cordoned : Bool
  ready : Bool
  deriving DecidableEq

namespace NodeRow

/-- What stands in place of models where there are none. -/
def noModels : String := "-"

def modelsText (models : List String) : String :=
  let joined := "\n".intercalate models
  if joined = "" then noModels else joined

def usedPercent (gpu : GpuNode) : Float :=
  if 0 < gpu.total then 100 - Decimal.round (gpu.available / gpu.total * 100) else 0

def issuesText (device : Device) : String :=
  ", ".intercalate device.issues

/-- A row of GPUs, which takes its state from the device that holds them, if that is known. -/
def ofGpus (device : Option Device) (gpu : GpuNode) : NodeRow where
  node := gpu.node
  models := modelsText gpu.models
  used := usedPercent gpu
  total := gpu.total
  issues := (device.map issuesText).getD ""
  cordoned := (device.map (·.cordoned)).getD false
  ready := (device.map (·.ready)).getD gpu.ready

/-- A row of a device without GPUs. -/
def ofDevice (device : Device) : NodeRow where
  node := device.name
  models := noModels
  used := 0
  total := 0
  issues := issuesText device
  cordoned := device.cordoned
  ready := device.ready

/-- Not being ready weighs more than being cordoned. -/
def severity (row : NodeRow) : Nat :=
  (if row.ready then 0 else 2) + (if row.cordoned then 1 else 0)

/-- The device of a name; of several the last one counts. -/
def deviceOf? (devices : List Device) (name : String) : Option Device :=
  devices.reverse.find? fun d => d.name = name

/-- The rows of the GPUs and then those of the other devices, each in the order listed. -/
def unsorted (devices : List Device) (gpus : List GpuNode) : List NodeRow :=
  gpus.map (fun gpu => ofGpus (deviceOf? devices gpu.node) gpu) ++
    (devices.filter fun d => !(gpus.any fun gpu => gpu.node = d.name)).map ofDevice

/-- One row for each GPU entry and each device without one, by falling severity. -/
def combine (devices : List Device) (gpus : List GpuNode) : List NodeRow :=
  (unsorted devices gpus).mergeSort fun a b => b.severity ≤ a.severity

end NodeRow

end PoolConsole
