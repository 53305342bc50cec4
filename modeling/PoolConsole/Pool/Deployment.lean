import PoolConsole.Error
import PoolConsole.Json.Members
import PoolConsole.Json.Record
import PoolConsole.Pool.Target

namespace PoolConsole

/-- Whether a node has to carry all target labels or one of them. -/
inductive LabelMode where
  | all
  | any
  deriving DecidableEq, Repr, Inhabited

namespace LabelMode

def word : LabelMode → String
  | .all => "AND"
  | .any => "OR"

/-- ASCII letters as capitals, all else as it is. -/
def capitals (s : String) : String :=
  String.ofList (s.toList.map Char.toUpper)

def parse (text : String) : Outcome LabelMode :=
  if capitals text = "AND" then .ok .all
  else if capitals text = "OR" then .ok .any
  else .error (.validation ("label mode must be AND or OR, got '" ++ capitals text ++ "'"))

end LabelMode

structure DeployRequest where
  name : String
  template : String
  values : Members
  space : Option String
  targets : Option TargetLabels
  mode : Option LabelMode

/-- A member that is left out where there is no value. -/
def optionalMember {α : Type} (name : String) (write : α → Json) : Option α → List (String × Json)
  | none => []
  | some a => [(name, write a)]

def DeployRequest.toJson (r : DeployRequest) : Json :=
  .object (
    [("name", .string r.name), ("template_name", .string r.template),
      ("values", r.values.toJson)] ++
    optionalMember "force_namespace" .string r.space ++
    optionalMember "target_labels" TargetLabels.toJson r.targets ++
    optionalMember "target_labels_ops" (fun m => .string m.word) r.mode)

structure CustomDeployRequest where
  template : String
  values : Members
  space : Option String
  defaults : Option Members
  targets : Option TargetLabels

def CustomDeployRequest.toJson (r : CustomDeployRequest) : Json :=
  .object (
    [("template_str", .string r.template), ("values", r.values.toJson)] ++
    optionalMember "force_namespace" .string r.space ++
    optionalMember "default_values" Members.toJson r.defaults ++
    optionalMember "target_labels" TargetLabels.toJson r.targets)

end PoolConsole
