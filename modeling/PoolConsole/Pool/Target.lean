import PoolConsole.Error
import PoolConsole.Json.Record
import PoolConsole.Text.Blank

namespace PoolConsole

/-- Labels by node. -/
abbrev NodeLabels := KeyMap (KeyMap String)

/-- The labels that a node must carry: for each key the values that will do. -/
abbrev TargetLabels := KeyMap (List String)

/-- A label as it is shown. -/
def labelText (key value : String) : String :=
  key ++ ": " ++ value

/-- The labels that the nodes carry, each once and in ascending order. -/
def NodeLabels.catalogue (labels : NodeLabels) : List String :=
  (KeyMap.ofList ((labels.values.flatMap fun node =>
    node.entries.map fun label => (labelText label.1 label.2, ())))).keys

namespace TargetLabels

def toJson (labels : TargetLabels) : Json :=
  Json.ofKeyMap Json.ofStrings labels

/-- The key and the value of a label that is written `key: value`. The key is all that stands
before the first colon. -/
def readLabel (text : String) : Outcome (String × String) :=
  match Text.splitFirst? ':' text with
  | none => .error (.validation ("Label '" ++ text ++ "' must look like key: value"))
  | some (key, value) =>
    if Text.trim key = "" then .error (.validation ("Label '" ++ text ++ "' has no key"))
    else .ok (Text.trim key, Text.trim value)

/-- Lets a value do for a key as well. -/
def add (labels : TargetLabels) (key value : String) : TargetLabels :=
  let values := (labels.get? key).getD []
  labels.insert key (if values.contains value then values else values ++ [value])

/-- Takes a value from a key; a key without values goes as well. -/
def remove (labels : TargetLabels) (key value : String) : TargetLabels :=
  match labels.get? key with
  | none => labels
  | some values =>
    let rest := values.filter (· ≠ value)
    if rest.isEmpty then labels.erase key else labels.insert key rest

end TargetLabels

end PoolConsole
