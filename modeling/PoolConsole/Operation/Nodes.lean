import PoolConsole.Console

/-!
Operations on the nodes of the pool. A change is followed by a read-back, and here a failed
read-back is reported.
-/

namespace PoolConsole.Operation

open Console

def loadNodes : Action Console (Outcome LoadOutcome) := do
  let ticket ← onNodes (.update NodeBoard.beginTable)
  let result ← .requestAll [.devices, .gpus false]
  onNodes (.update fun b =>
    b.completeTable ticket (result.map fun (devices, gpus, ()) => NodeRow.combine devices gpus))

def noSuchNode (node : String) : PoolError :=
  .notFound ("node '" ++ node ++ "'")

/-- Closes a node to new work or opens it again. -/
def setCordoned (node : String) (cordoned : Bool) : Action Console (Outcome Unit) :=
  let change : Action Console (Outcome Unit) :=
    if cordoned then .request (.cordon [node]) else .request (.uncordon [node])
  change.attempt fun () => loadNodes.attempt fun _ => return .ok ()

/-- Turns over whether a node is closed to new work, as far as the table shows, and gives what it is
then. -/
def toggleCordon (node : String) : Action Console (Outcome Bool) := do
  match ← .read fun c => c.nodes.row? node with
  | none => return .error (noSuchNode node)
  | some row => (setCordoned node (!row.cordoned)).attempt fun () => return .ok (!row.cordoned)

def deleteNode (node : String) : Action Console (Outcome Unit) :=
  (Action.request (.deleteNodes [node])).attempt fun () =>
    loadNodes.attempt fun _ => return .ok ()

/-- The details of a node, from what was answered when they were asked for. -/
def detailOf (node : String) (labels : NodeLabels) (resources : Snapshot) : NodeDetail where
  node
  labels := (labels.get? node).getD ∅
  resources := resources.detail

def loadDetail (node : String) : Action Console (Outcome LoadOutcome) := do
  let ticket ← onNodes (.update NodeBoard.beginDetail)
  let result ← .requestAll [.labels [node], .resources (some [node])]
  onNodes (.update fun b =>
    b.completeDetail ticket
      (result.map fun (labels, resources, ()) => detailOf node labels resources))

/-- Adds a label to a node and gives the details that are shown afterwards. -/
def addLabel (node key value : String) : Action Console (Outcome NodeDetail) :=
  if Text.trim key = "" ∨ Text.trim value = "" then
    return .error (.validation "Label key and value are required")
  else
    let labels := KeyMap.ofList [(Text.trim key, Text.trim value)]
    (Action.request (.addLabels node labels)).attempt fun () =>
      (loadDetail node).attempt fun _ => do
        match ← .read fun c => c.nodes.detail.data with
        | some detail => return .ok detail
        | none => return .error (noSuchNode node)

end PoolConsole.Operation
