import PoolConsole.Cli.Arguments
import PoolConsole.Quota

namespace PoolConsole.Cli

structure DeployArguments where
  template : String
  name : String
  params : List String
  targets : List String
  mode : Option String
  space : Option String
  deriving DecidableEq, Repr

structure LogArguments where
  job : String
  tail : Option Nat
  pod : Option String
  space : Option String
  follow : Bool
  /-- Seconds between two looks at the logs. -/
  interval : Nat
  deriving DecidableEq, Repr

inductive Command where
  | status
  | dashboard
  | usage (range : Option String) (resource : String) (devices : List String)
  | devices
  | cordon (node : String) (cordoned : Bool)
  | deleteNode (node : String)
  | labels (node : String)
  | label (node key value : String)
  | jobs (space : Option String) (all : Bool) (page : Nat)
  | job (name : String) (space : Option String)
  | search
  | templates (name : Option String)
  | deploy (args : DeployArguments)
  | delete (names : List String) (space : Option String)
  | logs (args : LogArguments)
  | serviceLogs (tail : Option Nat)
  | services (space : Option String)
  | quota (space : Option String)
  | setQuota (space : String) (limits : QuotaLimits)
  | agent (pause : Bool)
  | updateRepositories
  | theme (dark : Bool)
  | lock (key : Option String)
  deriving DecidableEq, Repr

/-- The options that every command takes. -/
def globalForms : List OptionForm := [
  { name := "config", value := .filled }, { name := "api" }, { name := "api-key" },
  { name := "user-key" },
  { name := "verbose", kind := .flag, letter := some 'v' },
  { name := "help", kind := .ask .help, letter := some 'h' }]

/-- The options that may stand before the command. -/
def leadingForms : List OptionForm :=
  globalForms ++ [{ name := "version", kind := .ask .version, letter := some 'V' }]

/-- A command: its name, its own options, the words that it takes, and what it is for the options
and words given. -/
structure CommandForm where
  name : String
  options : List OptionForm := []
  words : WordsForm := {}
  read : Given → Option Command

namespace CommandForm

def bare (name : String) (command : Command) : CommandForm where
  name
  read _ := some command

/-- A command that takes words only, as many as it has to. -/
def ofWords (name : String) (kinds : List ValueKind) (read : List String → Option Command) :
    CommandForm where
  name
  words := { kinds, least := kinds.length }
  read g := read g.words

end CommandForm

/-- One word, which has to be there. -/
def oneWord : WordsForm :=
  { kinds := [.text], least := 1 }

/-- One word, which may be missing. -/
def optionalWord : WordsForm :=
  { kinds := [.text] }

def namespaceForm : OptionForm :=
  { name := "namespace" }

def tailForm : OptionForm :=
  { name := "tail", value := .natural32 }

namespace Given

/-- The number of lines asked for. -/
def tail? (g : Given) : Option Nat :=
  (g.get? "tail").bind natural32?

/-- The whole number of an option, or a default. -/
def numberOr (g : Given) (name : String) (default : Nat) : Nat :=
  ((g.get? name).bind natural64?).getD default

end Given

def readDeploy (g : Given) : Option Command := do
  return .deploy {
    template := ← g.get? "template"
    name := ← g.get? "name"
    params := g.all "param"
    targets := g.all "target"
    mode := g.get? "mode"
    space := g.get? "namespace" }

def readLogs (g : Given) : Option Command := do
  return .logs {
    job := ← g.words.head?
    tail := g.tail?
    pod := g.get? "pod"
    space := g.get? "namespace"
    follow := g.has "follow"
    interval := g.numberOr "interval" 5 }

/-- The jobs of one namespace or of all: not both can be asked for. -/
def readJobs (g : Given) : Option Command :=
  if g.has "namespace" ∧ g.has "all" then none
  else some (.jobs (g.get? "namespace") (g.has "all") (g.numberOr "page" 1))

def commandForms : List CommandForm := [
  .bare "status" .status,
  .bare "dashboard" .dashboard,
  { name := "usage"
    options := [{ name := "range" }, { name := "resource" }, { name := "device", kind := .many }]
    read := fun g =>
      some (.usage (g.get? "range") ((g.get? "resource").getD "gpus") (g.all "device")) },
  .bare "devices" .devices,
  .ofWords "cordon" [.text] fun ws => ws.head?.map (.cordon · true),
  .ofWords "uncordon" [.text] fun ws => ws.head?.map (.cordon · false),
  .ofWords "delete-node" [.text] fun ws => ws.head?.map .deleteNode,
  .ofWords "labels" [.text] fun ws => ws.head?.map .labels,
  .ofWords "label" [.text, .text, .text] fun
    | [node, key, value] => some (.label node key value)
    | _ => none,
  { name := "jobs"
    options := [namespaceForm, { name := "all", kind := .flag },
      { name := "page", value := .natural64 }]
    read := readJobs },
  { name := "job", options := [namespaceForm], words := oneWord
    read := fun g => g.words.head?.map (.job · (g.get? "namespace")) },
  .bare "search" .search,
  { name := "templates", words := optionalWord
    read := fun g => some (.templates g.words.head?) },
  { name := "deploy"
    options := [{ name := "template" }, { name := "name" }, { name := "param", kind := .many },
      { name := "target", kind := .many }, { name := "mode" }, namespaceForm]
    read := readDeploy },
  { name := "delete", options := [namespaceForm], words := { oneWord with repeated := true }
    read := fun g => some (.delete g.words (g.get? "namespace")) },
  { name := "logs"
    options := [tailForm, { name := "pod" }, namespaceForm,
      { name := "follow", kind := .flag, letter := some 'f' },
      { name := "interval", value := .natural64 }]
    words := oneWord
    read := readLogs },
  { name := "service-logs", options := [tailForm], read := fun g => some (.serviceLogs g.tail?) },
  { name := "services", options := [namespaceForm]
    read := fun g => some (.services (g.get? "namespace")) },
  { name := "quota", words := optionalWord, read := fun g => some (.quota g.words.head?) },
  { name := "set-quota"
    options := [{ name := "cpu" }, { name := "gpu" }, { name := "memory" }]
    words := oneWord
    read := fun g => g.words.head?.map
      (.setQuota · ⟨g.get? "cpu", g.get? "gpu", g.get? "memory"⟩) },
  .ofWords "agent" [.oneOf ["pause", "resume"]] fun ws =>
    ws.head?.map fun word => .agent (word = "pause"),
  .bare "update-repos" .updateRepositories,
  .ofWords "theme" [.oneOf ["dark", "light"]] fun ws =>
    ws.head?.map fun word => .theme (word = "dark"),
  { name := "lock", words := optionalWord, read := fun g => some (.lock g.words.head?) }]

/-- The command that some options and words give, unless words are missing. -/
def CommandForm.command? (form : CommandForm) (g : Given) : Option Command :=
  if g.words.length < form.words.least then none else form.read g

/-- A command together with the options that every command takes. -/
structure Invocation where
  command : Command
  config : Option String
  api : Option String
  apiKey : Option String
  userKey : Option String
  deriving DecidableEq, Repr

/-- What the word `help` and the words behind it ask for: the overview, or help on one command. -/
def helpOn : List String → Refusal
  | [] => .help
  | [name] => if name = "help" ∨ commandForms.any (·.name = name) then .help else .usage
  | _ => .usage

/-- Reads a command line. An option for every command counts from behind the command rather than
from before it. -/
def parse : List String → Except Refusal Invocation
  | args => do
    let (before, rest) ← scan leadingForms none args {}
    match rest with
    | [] => throw .usage
    | name :: rest =>
      if name = "help" then throw (helpOn rest)
      match commandForms.find? fun f => f.name = name with
      | none => throw .usage
      | some form =>
        let (behind, _) ← scan (globalForms ++ form.options) (some form.words) rest {}
        match form.command? behind with
        | none => throw .usage
        | some command =>
          let option (name : String) : Option String := (behind.get? name).or (before.get? name)
          return {
            command
            config := option "config"
            api := option "api"
            apiKey := option "api-key"
            userKey := option "user-key" }

end PoolConsole.Cli
