import PoolConsole.Json.Basic
import PoolConsole.KeyMap

/-!
Reading a record from a JSON value. A record arrives as an object or as an array of its fields in
their declared order; members that it does not declare are ignored, and nothing is converted: a
value of another kind is refused.
-/

namespace PoolConsole.Json

/-- What a value gives to the fields of a record: an object by name, an array by position, which
may stop early but not go on past the last field. -/
def fields? (names : List String) : Json → Option (String → Option Json)
  | .object members => some fun name => members.lookup name
  | .array items =>
    if items.length ≤ names.length then some fun name => (names.zip items).lookup name else none
  | _ => none

/-- A field, or its default where the record does not have it. -/
def field {α : Type} (fields : String → Option Json) (name : String) (read : Json → Option α)
    (default : α) : Option α :=
  match fields name with
  | none => some default
  | some j => read j

def asBool? : Json → Option Bool
  | .bool b => some b
  | _ => none

/-- Any number as a float. -/
def asFloat? : Json → Option Float
  | .number n => some n.toFloat
  | _ => none

/-- A whole number of 64 bits. -/
def asUInt64? : Json → Option UInt64
  | .number n => n.toUInt64?
  | _ => none

/-- An array all of whose items can be read. -/
def asList? {α : Type} (read : Json → Option α) : Json → Option (List α)
  | .array items => items.mapM read
  | _ => none

/-- Null, or a value that can be read. -/
def asOption? {α : Type} (read : Json → Option α) : Json → Option (Option α)
  | .null => some none
  | j => (read j).map some

/-- Null, which reads as the default, or a value that can be read. -/
def nullOr? {α : Type} (default : α) (read : Json → Option α) : Json → Option α
  | .null => some default
  | j => read j

/-- An object all of whose members can be read, by key. -/
def asKeyMap? {α : Type} (read : Json → Option α) : Json → Option (KeyMap α)
  | .object members => (members.mapM fun m => (read m.2).map (m.1, ·)).map KeyMap.ofList
  | _ => none

def ofKeyMap {α : Type} (write : α → Json) (m : KeyMap α) : Json :=
  .object (m.entries.map fun e => (e.1, write e.2))

end PoolConsole.Json
