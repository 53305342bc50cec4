import Mathlib.Data.List.Basic
import PoolConsole.Template.Param

namespace PoolConsole

/-- A value is found under its key, wherever it stands. -/
theorem Members.get?_eq_some_iff {m : Members} {key : String} {value : Json} :
    m.get? key = some value ↔ (key, value) ∈ m.entries := by
  constructor
  · intro found
    obtain ⟨before, after, split, -⟩ := List.lookup_eq_some_iff.mp found
    rw [split]
    exact List.mem_append_right before List.mem_cons_self
  · intro mem
    exact get?_of_mem mem

def Json.schemaType? (property : Json) : Option String :=
  (property.get? "type").bind asString?

/-- The values that a property of a schema enumerates, if that is an array. -/
def Json.enumerated? (property : Json) : Option (List Json) :=
  (property.get? "enum").bind asArray?

/-- The kind for a type of the schema that is neither an object nor an array. -/
def ParamKind.ofType : Option String → ParamKind
  | some "integer" => .integer
  | some "number" => .number
  | some "boolean" => .boolean
  | _ => .string

theorem Json.enumerated?_eq_some_iff {property : Json} {items : List Json} :
    property.enumerated? = some items ↔ property.get? "enum" = some (.array items) := by
  have array {j : Json} : j.asArray? = some items ↔ j = .array items := by
    cases j <;> simp [asArray?]
  simp [enumerated?, Option.bind_eq_some_iff, array]

theorem ParamKind.ofType_ne_choice (type : Option String) : ofType type ≠ .choice := by
  unfold ofType
  split <;> nofun

theorem ParamKind.ofSchemaType?_eq_some_iff {type : Option String} {kind : ParamKind} :
    ofSchemaType? type = some kind ↔
      type ≠ some "object" ∧ type ≠ some "array" ∧ kind = ofType type := by
  unfold ofSchemaType? ofType
  split <;> simp_all [eq_comm]

namespace Param

variable {schema schema' : TemplateSchema} {entry : String × Json} {p : Param}

theorem ofDefault?_eq_some :
    ofDefault? schema entry = some p ↔
      ∃ property, schema.properties.get? entry.1 = some property ∧ ¬ entry.2.isNested ∧
        property.schemaType? ≠ some "object" ∧ property.schemaType? ≠ some "array" ∧
        p = {
          name := entry.1
          kind := if property.enumerated?.isSome then .choice else .ofType property.schemaType?
          default := entry.2
          description := ((property.get? "description").bind Json.asString?).getD ""
          required := schema.required.contains entry.1
          options := property.enumerated?.map (List.map Json.plainText) } := by
  have options (property : Json) :
      optionsOf? property = property.enumerated?.map (List.map Json.plainText) := rfl
  have type (property : Json) :
      (property.get? "type").bind Json.asString? = property.schemaType? := rfl
  simp only [ofDefault?, Option.bind_eq_bind, Option.bind_eq_some_iff]
  constructor
  · rintro ⟨property, described, made⟩
    split at made
    · cases made
    next flat =>
      obtain ⟨kind, known, made⟩ := Option.bind_eq_some_iff.mp made
      rw [type, ParamKind.ofSchemaType?_eq_some_iff] at known
      obtain ⟨object, array, rfl⟩ := known
      refine ⟨property, described, flat, object, array, ?_⟩
      rw [options, Option.isSome_map] at made
      exact (Option.some.inj made).symm
  · rintro ⟨property, described, flat, object, array, rfl⟩
    refine ⟨property, described, ?_⟩
    rw [if_neg flat]
    refine Option.bind_eq_some_iff.mpr ⟨.ofType property.schemaType?, ?_, ?_⟩
    · rw [type]
      exact ParamKind.ofSchemaType?_eq_some_iff.mpr ⟨object, array, rfl⟩
    · rw [options, Option.isSome_map]
      rfl

/-- A schema matters to a default by its property of that name and by whether it requires it. -/
theorem ofDefault?_congr
    (property : schema'.properties.get? entry.1 = schema.properties.get? entry.1)
    (required : entry.1 ∈ schema'.required ↔ entry.1 ∈ schema.required) :
    ofDefault? schema' entry = ofDefault? schema entry := by
  have same : schema'.required.contains entry.1 = schema.required.contains entry.1 := by
    rw [Bool.eq_iff_iff, List.contains_iff_mem, List.contains_iff_mem]
    exact required
  unfold ofDefault?
  rw [property, same]

end Param

/-- A default of the template can be edited: it is a single value, and the schema describes it as
one. -/
def TemplateDefinition.Editable (d : TemplateDefinition) (name : String) : Prop :=
  ∃ default property, d.values.get? name = some default ∧ ¬ default.isNested ∧
    d.schema.properties.get? name = some property ∧
    property.schemaType? ≠ some "object" ∧ property.schemaType? ≠ some "array"

structure Param.TakenFrom (p : Param) (d : TemplateDefinition) (property : Json) : Prop where
  held : d.values.get? p.name = some p.default
  described : d.schema.properties.get? p.name = some property
  choice : p.kind = .choice ↔ ∃ items, property.get? "enum" = some (.array items)
  /-- A type that is missing, unknown or no text is that of a text. -/
  other : p.kind ≠ .choice → p.kind = .ofType property.schemaType?
  options : p.options.isSome = true ↔ p.kind = .choice
  texts : ∀ items, property.get? "enum" = some (.array items) →
    p.options = some (items.map Json.plainText)
  required : p.required = true ↔ p.name ∈ d.schema.required

theorem Param.takenFrom_of_ofDefault? {d : TemplateDefinition} {name : String} {value : Json}
    {p : Param} (held : d.values.get? name = some value)
    (made : ofDefault? d.schema (name, value) = some p) : ∃ property, p.TakenFrom d property := by
  obtain ⟨property, described, -, -, -, rfl⟩ := ofDefault?_eq_some.mp made
  refine ⟨property, ?_⟩
  cases listed : property.enumerated? with
  | none =>
    have other : ∀ items, property.get? "enum" ≠ some (.array items) := by
      simp [← Json.enumerated?_eq_some_iff, listed]
    exact {
      held, described
      choice := by simp [other, ParamKind.ofType_ne_choice]
      other := fun _ => rfl
      options := by simp [ParamKind.ofType_ne_choice]
      texts := fun items array => absurd array (other items)
      required := List.contains_iff_mem }
  | some items =>
    have array := Json.enumerated?_eq_some_iff.mp listed
    exact {
      held, described
      choice := by simp [array]
      other := fun other => absurd rfl other
      options := by simp
      texts := by simp [array]
      required := List.contains_iff_mem }

namespace TemplateDefinition

variable {d d' : TemplateDefinition} {name : String} {p : Param}

theorem mem_params_iff :
    p ∈ d.params ↔ ∃ name value, d.values.get? name = some value ∧
      Param.ofDefault? d.schema (name, value) = some p := by
  simp [params, List.mem_filterMap, Members.get?_eq_some_iff]

/-- There is a parameter for each default that can be edited, and for nothing else. -/
theorem mem_names_iff : name ∈ d.names ↔ d.Editable name := by
  simp only [names, List.mem_map, mem_params_iff]
  constructor
  · rintro ⟨p, ⟨name, value, held, made⟩, rfl⟩
    obtain ⟨property, described, flat, object, array, rfl⟩ := Param.ofDefault?_eq_some.mp made
    exact ⟨value, property, held, flat, described, object, array⟩
  · rintro ⟨value, property, held, flat, described, object, array⟩
    have made : Param.ofDefault? d.schema (name, value) = some _ :=
      Param.ofDefault?_eq_some.mpr ⟨property, described, flat, object, array, rfl⟩
    exact ⟨_, ⟨name, value, held, made⟩, Param.name_of_ofDefault? made⟩

/-- Of the schema only what it says of the template's defaults counts. -/
theorem params_congr (values : d'.values = d.values)
    (properties : ∀ name ∈ d.values.keys,
      d'.schema.properties.get? name = d.schema.properties.get? name)
    (required : ∀ name ∈ d.values.keys, name ∈ d'.schema.required ↔ name ∈ d.schema.required) :
    d'.params = d.params := by
  rw [params, params, values]
  apply List.filterMap_congr
  intro entry mem
  have named : entry.1 ∈ d.values.keys := List.mem_map_of_mem mem
  exact Param.ofDefault?_congr (properties entry.1 named) (required entry.1 named)

/-- Properties are found in any order, and others beside them do not matter. -/
theorem get?_of_perm {m m' : Members} {more : List (String × Json)}
    (perm : m'.entries.Perm (m.entries ++ more)) (other : ∀ e ∈ more, e.1 ≠ name) :
    m'.get? name = m.get? name := by
  apply Option.ext
  intro value
  rw [Members.get?_eq_some_iff, Members.get?_eq_some_iff, perm.mem_iff, List.mem_append]
  constructor
  · rintro (held | added)
    · exact held
    · exact absurd rfl (other _ added)
  · exact .inl

end TemplateDefinition

structure ParamsDerived (d : TemplateDefinition) : Prop where
  /-- There is one parameter for each default that can be edited, in the order of the defaults, and
  none for anything else. -/
  ordered : d.names.Sublist d.values.keys
  distinct : d.names.Nodup
  named : ∀ name, name ∈ d.names ↔ d.Editable name
  described : ∀ p ∈ d.params, ∃ property, p.TakenFrom d property
  /-- The order of the properties, properties for other names, and the order and number of the names
  that are required do not matter. -/
  unmoved : ∀ (schema : TemplateSchema) (more : List (String × Json)),
    schema.properties.entries.Perm (d.schema.properties.entries ++ more) →
    (∀ e ∈ more, e.1 ∉ d.values.keys) →
    (∀ name, name ∈ schema.required ↔ name ∈ d.schema.required) →
      { d with schema }.params = d.params

theorem params_derived (d : TemplateDefinition) : ParamsDerived d := by
  constructor
  case ordered => exact d.names_sublist
  case distinct => exact d.nodup_names
  case named => exact fun name => TemplateDefinition.mem_names_iff
  case described =>
    intro p mem
    obtain ⟨name, value, held, made⟩ := TemplateDefinition.mem_params_iff.mp mem
    exact Param.takenFrom_of_ofDefault? held made
  case unmoved =>
    intro schema more perm other required
    refine TemplateDefinition.params_congr (d := d) rfl ?_ ?_
    · intro name mem
      apply TemplateDefinition.get?_of_perm perm
      rintro e added rfl
      exact other e added mem
    · intro name _
      exact required name

end PoolConsole
