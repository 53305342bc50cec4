import PoolConsole.Cli.Script
import PoolConsole.Debounce
import PoolConsole.Http.Client
import PoolConsole.Interpreter

namespace PoolConsole.Cli

/-- What the program finds around it when it starts. -/
structure Environment where
  home : Option String := none
  apiKey : Option String := none
  userKey : Option String := none
  now : Instant

/-- What the program asks of the machine. -/
structure Machine (m : Type → Type) where
  fileAt (path : String) : m (Except FileError String)
  /-- Where the calls of a client go, each of which may take so many seconds. -/
  connect (client : Http.Client) (timeoutSeconds : Nat) : Handler m

/-- How the program ends. -/
structure Ending where
  code : Nat
  terminal : Terminal := {}
  next : Continuation := .nothing

namespace Ending

def failed (f : Failure) (t : Terminal) : Ending where
  code := 1
  terminal := { t with err := t.err ++ f.report }

/-- The overview of the commands. -/
def helpText : String :=
  "Usage: pooldash [OPTIONS] <COMMAND>\n\nCommands:\n" ++
    String.join (commandForms.map fun f => "  " ++ f.name ++ "\n")

def usageText : String :=
  "error: this is no command of pooldash; see 'pooldash --help'\n"

def refused : Refusal → Ending
  | .usage => { code := 2, terminal := { err := usageText } }
  | .help => { code := 0, terminal := { out := helpText } }
  | .version => { code := 0, terminal := { out := "pooldash 0.1.0\n" } }

end Ending

section

variable {m : Type → Type} [Monad m]

/-- The settings of a file, or the defaults where none is named. -/
def fileSettings (machine : Machine m) (home : Option String) :
    Option String → m (Outcome Config)
  | some path => do return Config.ofFile home (← machine.fileAt path)
  | none => return .ok (Config.default home)

/-- Settings in which the command line and the environment come before a file. -/
def Invocation.override (invocation : Invocation) (env : Environment) (c : Config) : Config :=
  { c with api := { c.api with
      baseUrl := invocation.api.getD c.api.baseUrl
      apiKey := (invocation.apiKey.or env.apiKey).or c.api.apiKey } }

/-- Runs a script to its end. -/
def runScript (handler : Handler m) (script : Script Continuation) (t : Terminal) : m Ending := do
  let (result, terminal) ← handler.run script.run t
  match result with
  | .ok next => return { code := 0, terminal, next }
  | .error f => return .failed f terminal

/-- The console that some settings and the preferences kept make. -/
def openConsole (machine : Machine m) (config : Config) : m Console := do
  let kept ← machine.fileAt config.preferencesPath
  return .fresh config.ui (.ofFile config.preferencesPath kept)

/-- Runs the program; gives how it ends, and where its calls went. -/
def run (machine : Machine m) (env : Environment) (args : List String) :
    m (Ending × Option (Handler m)) := do
  match parse args with
  | .error r => return (.refused r, none)
  | .ok invocation =>
    match ← fileSettings machine env.home invocation.config with
    | .error e => return (.failed (.ofError e) {}, none)
    | .ok config =>
      let config := invocation.override env config
      match Http.Client.ofConfig config.api with
      | .error e => return (.failed (.ofError e) {}, none)
      | .ok client =>
        let console ← openConsole machine config
        let handler := machine.connect client config.api.timeoutSeconds
        let key := (invocation.userKey.or env.userKey).getD ""
        let ending ← runScript handler (invocation.command.guarded env.now key) { console }
        return (ending, some handler)

end

/-- The answers to queries that come all at once: only the last one is held back long enough. -/
def answerQueries (quietMs : Nat) (names queries : List String) : List String :=
  let idle : Debouncer := { quiet := quietMs }
  let debouncer := queries.foldl (fun d q => d.push 0 (Text.trim q)) idle
  (debouncer.dispatch quietMs).1.flatMap (matchLines names)

end PoolConsole.Cli
