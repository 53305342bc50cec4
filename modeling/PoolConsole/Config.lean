import PoolConsole.Error
import PoolConsole.Resources.Usage
import PoolConsole.Storage.FileTree
import PoolConsole.Toml.Reader

/-!
The settings of the console, read from a TOML file. Whatever the file does not set keeps its
default.
-/

namespace PoolConsole

structure ApiConfig where
  baseUrl : String := "http://localhost:8001"
  apiKey : Option String := none
  timeoutSeconds : Nat := 30
  deriving DecidableEq, Repr, Inhabited

structure LoggingConfig where
  level : String := "info"
  format : String := "text"
  deriving DecidableEq, Repr, Inhabited

structure UiConfig where
  pageSize : Nat := 10
  logTail : Nat := 100
  searchQuietMs : Nat := 300
  timeRange : TimeRange := .day
  deriving DecidableEq, Repr, Inhabited

structure Config where
  api : ApiConfig := {}
  logging : LoggingConfig := {}
  preferencesPath : String
  ui : UiConfig := {}
  deriving DecidableEq, Repr

namespace Config

/-- Where preferences are kept by default: in the home folder, if there is one. -/
def defaultPreferencesPath (home : Option String) : String :=
  match home with
  | some home =>
    home ++ (if home = "" || home.endsWith "/" then "" else "/") ++ ".config/pooldash/prefs.json"
  | none => "pooldash-prefs.json"

def default (home : Option String) : Config where
  preferencesPath := defaultPreferencesPath home

/-! ## Reading sections -/

/-- What a value gives to the fields of a section: a table by name, an array by position, a date or
time nothing. -/
def fields? (names : List String) : Toml → Option (String → Option Toml)
  | .table _ entries => some fun name => entries.lookup name
  | .array items => some fun name => (names.zip items).lookup name
  | .tables latestFirst =>
    some fun name => (names.zip (latestFirst.reverse.map (Toml.table .header))).lookup name
  | .time => some fun _ => none
  | _ => none

def field {α : Type} (fields : String → Option Toml) (name : String) (read : Toml → Option α)
    (default : α) : Option α :=
  match fields name with
  | none => some default
  | some v => read v

def text? : Toml → Option String
  | .string s => some s
  | _ => none

/-- A whole number below a bound. -/
def natural? (bound : Nat) : Toml → Option Nat
  | .integer i => if 0 ≤ i.toInt ∧ i.toInt < bound then some i.toInt.toNat else none
  | _ => none

/-- A time range by its word, which may also stand alone as the key of an empty table. -/
def timeRange? : Toml → Option TimeRange
  | .string s => TimeRange.ofWord? s
  | .table _ [(key, .table _ [])] | .table _ [(key, .array [])] => TimeRange.ofWord? key
  | _ => none

def apiOfToml? (v : Toml) : Option ApiConfig := do
  let fields ← fields? ["base_url", "api_key", "timeout_secs"] v
  let defaults : ApiConfig := {}
  return {
    baseUrl := ← field fields "base_url" text? defaults.baseUrl
    apiKey := ← field fields "api_key" (fun v => (text? v).map some) defaults.apiKey
    timeoutSeconds := ← field fields "timeout_secs" (natural? UInt64.size) defaults.timeoutSeconds }

def loggingOfToml? (v : Toml) : Option LoggingConfig := do
  let fields ← fields? ["level", "format"] v
  let defaults : LoggingConfig := {}
  return {
    level := ← field fields "level" text? defaults.level
    format := ← field fields "format" text? defaults.format }

def preferencesPathOfToml? (default : String) (v : Toml) : Option String := do
  field (← fields? ["prefs_path"] v) "prefs_path" text? default

def uiOfToml? (v : Toml) : Option UiConfig := do
  let fields ← fields? ["page_size", "log_tail", "search_debounce_ms", "time_range"] v
  let defaults : UiConfig := {}
  return {
    pageSize := ← field fields "page_size" (natural? UInt64.size) defaults.pageSize
    logTail := ← field fields "log_tail" (natural? UInt32.size) defaults.logTail
    searchQuietMs :=
      ← field fields "search_debounce_ms" (natural? UInt64.size) defaults.searchQuietMs
    timeRange := ← field fields "time_range" timeRange? defaults.timeRange }

def ofText? (home : Option String) (text : String) : Option Config := do
  let entries ← Toml.parse? text
  let section? {α : Type} (name : String) (read : Toml → Option α) (default : α) : Option α :=
    field (entries.lookup ·) name read default
  let path := defaultPreferencesPath home
  return {
    api := ← section? "api" apiOfToml? {}
    logging := ← section? "logging" loggingOfToml? {}
    preferencesPath := ← section? "storage" (preferencesPathOfToml? path) path
    ui := ← section? "ui" uiOfToml? {} }

/-- The settings in a file that has been read, or could not be. -/
def ofFile (home : Option String) : Except FileError String → Outcome Config
  | .error e => .error (.config ("Failed to read config file: " ++ e.message))
  | .ok text =>
    match ofText? home text with
    | some config => .ok config
    | none => .error (.config "Failed to parse config: not a document of settings")

end Config

end PoolConsole
