import PoolConsole.Json.Printer
import PoolConsole.Pool.Template
import PoolConsole.Text.Blank
import PoolConsole.Text.Digits

/-!
The parameters of a template: one for each default that the schema describes and that is a single
value, in the template's own order.
-/

namespace PoolConsole

inductive ParamKind where
  | string
  | integer
  | number
  | boolean
  | choice
  deriving DecidableEq, Repr

namespace ParamKind

def word : ParamKind → String
  | .string => "string"
  | .integer => "integer"
  | .number => "number"
  | .boolean => "boolean"
  | .choice => "enum"

/-- The kind for a type of the schema: objects and arrays cannot be edited, and a type that is
missing or unknown is text. -/
def ofSchemaType? : Option String → Option ParamKind
  | some "object" | some "array" => none
  | some "integer" => some .integer
  | some "number" => some .number
  | some "boolean" => some .boolean
  | _ => some .string

end ParamKind

structure Param where
  name : String
  kind : ParamKind
  default : Json
  description : String
  required : Bool
  /-- The texts to choose from, for a choice. -/
  options : Option (List String)

namespace Param

/-- The texts that stand for the values that the schema enumerates. -/
def optionsOf? (property : Json) : Option (List String) :=
  ((property.get? "enum").bind Json.asArray?).map (List.map Json.plainText)

/-- The parameter for a default, if it has one. -/
def ofDefault? (schema : TemplateSchema) (entry : String × Json) : Option Param := do
  let property ← schema.properties.get? entry.1
  if entry.2.isNested then none
  let kind ← ParamKind.ofSchemaType? ((property.get? "type").bind Json.asString?)
  let options := optionsOf? property
  return {
    name := entry.1
    kind := if options.isSome then .choice else kind
    default := entry.2
    description := ((property.get? "description").bind Json.asString?).getD ""
    required := schema.required.contains entry.1
    options }

theorem default_of_ofDefault? {schema : TemplateSchema} {entry : String × Json} {p : Param}
    (h : ofDefault? schema entry = some p) : (p.name, p.default) = entry ∧ ¬ p.default.isNested := by
  simp only [ofDefault?, Option.bind_eq_bind, Option.bind_eq_some_iff] at h
  obtain ⟨property, -, h⟩ := h
  split at h
  · cases h
  next flat =>
    obtain ⟨kind, -, made⟩ := Option.bind_eq_some_iff.mp h
    cases made
    exact ⟨rfl, flat⟩

theorem name_of_ofDefault? {schema : TemplateSchema} {entry : String × Json} {p : Param}
    (h : ofDefault? schema entry = some p) : p.name = entry.1 :=
  congrArg Prod.fst (default_of_ofDefault? h).1

def toJson (p : Param) : Json :=
  .object [("name", .string p.name), ("kind", .string p.kind.word), ("default", p.default),
    ("description", .string p.description), ("required", .bool p.required),
    ("options", p.options.elim .null Json.ofStrings)]

end Param

/-- The parameters of a template. -/
def TemplateDefinition.params (d : TemplateDefinition) : List Param :=
  d.values.entries.filterMap (Param.ofDefault? d.schema)

namespace TemplateDefinition

/-- The names of the parameters, in order. -/
def names (d : TemplateDefinition) : List String :=
  d.params.map (·.name)

/-- The parameters are named after defaults of the template, in their order. -/
theorem names_sublist (d : TemplateDefinition) : d.names.Sublist d.values.keys := by
  unfold names params Members.keys
  induction d.values.entries with
  | nil => exact .slnil
  | cons e rest ih =>
    rw [List.filterMap_cons]
    cases made : Param.ofDefault? d.schema e with
    | none => exact ih.cons _
    | some p =>
      rw [List.map_cons, List.map_cons, Param.name_of_ofDefault? made]
      exact ih.cons_cons _

/-- The default of a parameter is the value of the template with its name, which is not nested. -/
theorem default_of_mem {d : TemplateDefinition} {p : Param} (mem : p ∈ d.params) :
    d.values.get? p.name = some p.default ∧ ¬ p.default.isNested := by
  obtain ⟨entry, held, made⟩ := List.mem_filterMap.mp mem
  obtain ⟨rfl, flat⟩ := Param.default_of_ofDefault? made
  exact ⟨Members.get?_of_mem held, flat⟩

theorem nodup_names (d : TemplateDefinition) : d.names.Nodup :=
  d.values.nodup.sublist d.names_sublist

end TemplateDefinition

/-- What a parameter is set to. -/
inductive ParamValue where
  | unset
  | text (s : String)
  | integer (i : Int64)
  | number (x : Float)
  | boolean (b : Bool)
  deriving DecidableEq

namespace ParamValue

/-- What a default sets a parameter of some kind to. -/
def ofDefault (kind : ParamKind) : Json → ParamValue
  | .null => .unset
  | .bool b => .boolean b
  | .number n =>
    match n.toInt64? with
    | some i => if kind = .number then .number n.toFloat else .integer i
    | none => .number n.toFloat
  | .string s => .text s
  | j => .text j.compact

/-- The value as it is submitted; a number that is not finite is null. -/
def toJson : ParamValue → Json
  | .unset => .null
  | .text s => .string s
  | .integer i => .number (.ofInt64 i)
  | .number x => ((Number.ofFloat? x).map .number).getD .null
  | .boolean b => .bool b

def display : ParamValue → String
  | .unset => ""
  | .text s => s
  | .integer i => Text.integer i.toInt
  | .number x => FloatLayout.plain.text x
  | .boolean b => if b then "true" else "false"

end ParamValue

end PoolConsole
