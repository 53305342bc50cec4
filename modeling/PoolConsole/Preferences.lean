import PoolConsole.Error
import PoolConsole.Json.Printer
import PoolConsole.Json.Record
import PoolConsole.Json.Shallow
import PoolConsole.Storage.FileTree

namespace PoolConsole

structure Preferences where
  darkMode : Bool := true
  /-- The key that opens the console; without one, or with an empty one, it is open. -/
  accessKey : Option String := none
  deriving DecidableEq, Repr, Inhabited

namespace Preferences

def fieldNames : List String := ["dark_mode", "access_key"]

def ofJson? (j : Json) : Option Preferences := do
  let fields ← j.fields? fieldNames
  return {
    darkMode := ← Json.field fields "dark_mode" Json.asBool? true
    accessKey := ← Json.field fields "access_key" (Json.asOption? Json.asString?) none }

def toJson (p : Preferences) : Json :=
  .object [("dark_mode", .bool p.darkMode), ("access_key", Json.ofText? p.accessKey)]

def text (p : Preferences) : String :=
  p.toJson.pretty

/-- The preferences that a text keeps; one that cannot be read, or none, gives the defaults. -/
def ofText (text : Option String) : Preferences :=
  ((text.bind (Json.shallowRecord? fieldNames)).bind ofJson?).getD {}

/-- Whether a key opens the console. -/
def grants (p : Preferences) (key : String) : Bool :=
  match p.accessKey with
  | none => true
  | some expected => expected = "" || expected == key

end Preferences

/-- Preferences, and where they are kept; without a place they are kept in memory only. -/
structure PreferenceStore where
  place : Option String := none
  current : Preferences := {}
  deriving DecidableEq, Repr, Inhabited

namespace PreferenceStore

/-- The store of a place, with what is kept in the file there. -/
def ofFile (place : String) (file : Except FileError String) : PreferenceStore where
  place := some place
  current := .ofText file.toOption

def load (tree : FileTree) (place : String) : PreferenceStore :=
  .ofFile place (tree.read place)

/-- Changes the preferences and keeps them. They change in memory even if they cannot be kept. -/
def update (store : PreferenceStore) (tree : FileTree) (p : Preferences) :
    Outcome Unit × PreferenceStore × FileTree :=
  match store.place with
  | none => (.ok (), { store with current := p }, tree)
  | some place =>
    let (r, tree) := tree.save place p.text
    (r.mapError fun e => .io e.message, { store with current := p }, tree)

end PreferenceStore

end PoolConsole
