import PoolConsole.Json.Members
import PoolConsole.Json.Record

namespace PoolConsole

structure TemplateSummary where
  name : String
  description : Option String := none
  deriving DecidableEq, Repr

/-- A name alone, or an object with a name. -/
def TemplateSummary.ofJson? : Json → Option TemplateSummary
  | .string name => some { name }
  | .object members => do
    let name ← (members.lookup "name").bind Json.asString?
    let description ←
      Json.field (members.lookup ·) "description" (Json.asOption? Json.asString?) none
    return { name, description }
  | _ => none

structure TemplateSchema where
  properties : Members := ∅
  required : List String := []

def TemplateSchema.ofJson? (j : Json) : Option TemplateSchema := do
  let fields ← j.fields? ["properties", "required"]
  return {
    properties := ← Json.field fields "properties" (Json.nullOr? ∅ Members.ofJson?) ∅
    required := ← Json.field fields "required" (Json.nullOr? [] (Json.asList? Json.asString?)) [] }

structure TemplateMetadata where
  name : Option String := none
  description : Option String := none
  icon : Option String := none
  sources : List String := []
  version : Option String := none
  deriving DecidableEq, Repr

/-- Every member may be null, save the list of sources. -/
def TemplateMetadata.ofJson? (j : Json) : Option TemplateMetadata := do
  let fields ← j.fields? ["name", "description", "icon", "sources", "version"]
  let text (name : String) : Option (Option String) :=
    Json.field fields name (Json.asOption? Json.asString?) none
  return {
    name := ← text "name"
    description := ← text "description"
    icon := ← text "icon"
    sources := ← Json.field fields "sources" (Json.asList? Json.asString?) []
    version := ← text "version" }

def TemplateSchema.toJson (s : TemplateSchema) : Json :=
  .object [("properties", s.properties.toJson), ("required", Json.ofStrings s.required)]

def TemplateMetadata.toJson (m : TemplateMetadata) : Json :=
  .object [("name", Json.ofText? m.name), ("description", Json.ofText? m.description),
    ("icon", Json.ofText? m.icon), ("sources", Json.ofStrings m.sources),
    ("version", Json.ofText? m.version)]

structure TemplateDefinition where
  /-- The defaults of the parameters, in the template's own order. -/
  values : Members := ∅
  schema : TemplateSchema := {}
  metadata : TemplateMetadata := {}

namespace TemplateDefinition

def ofJson? (j : Json) : Option TemplateDefinition := do
  let fields ← j.fields? ["values", "schema", "metadata"]
  return {
    values := ← Json.field fields "values" (Json.nullOr? ∅ Members.ofJson?) ∅
    schema := ← Json.field fields "schema" (Json.nullOr? {} TemplateSchema.ofJson?) {}
    metadata := ← Json.field fields "metadata" (Json.nullOr? {} TemplateMetadata.ofJson?) {} }

def toJson (d : TemplateDefinition) : Json :=
  .object [("values", d.values.toJson), ("schema", d.schema.toJson),
    ("metadata", d.metadata.toJson)]

end TemplateDefinition

end PoolConsole
