import PoolConsole.Cli.Command
import PoolConsole.Cli.Report
import PoolConsole.Operation.Nodes
import PoolConsole.Operation.Views
import PoolConsole.Operation.Wizard

namespace PoolConsole.Cli

/-- A console, and what has been printed so far. -/
structure Terminal where
  console : Console := {}
  out : String := ""
  err : String := ""

/-- Why a command fails, and what caused that. -/
structure Failure where
  text : String
  cause : Option String := none
  deriving DecidableEq, Repr

namespace Failure

/-- An error in its full wording, together with its cause. -/
def ofError (e : PoolError) : Failure where
  text := e.message
  cause := match e with
    | .io text => some text
    | _ => none

/-- An error as the operator is told of it. -/
def surface (e : PoolError) : Failure where
  text := e.userMessage

def report (f : Failure) : String :=
  "Error: " ++ f.text ++ (f.cause.elim "" fun cause => "\n\nCaused by:\n    " ++ cause) ++ "\n"

end Failure

/-- The steps of a command, which a failure ends. -/
abbrev Script := ExceptT Failure (Action Terminal)

namespace Script

variable {α : Type}

def onConsole (x : Action Console α) : Script α :=
  (x.onPart (·.console) fun console t => { t with console } : Action Terminal α)

/-- Goes on with what an operation gives, and tells the operator if it fails. -/
def surfaced (x : Action Console (Outcome α)) : Script α := do
  match ← onConsole x with
  | .ok a => return a
  | .error e => throw (.surface e)

/-- Goes on with a value, if there is one. -/
def ofOutcome : Outcome α → Script α
  | .ok a => return a
  | .error e => throw (.ofError e)

def fail (text : String) : Script α :=
  throw { text }

def print (lines : List String) : Script Unit :=
  (Action.modify fun t => { t with out := t.out ++ String.join (lines.map (· ++ "\n")) } :
    Action Terminal Unit)

def warn (line : String) : Script Unit :=
  (Action.modify fun t => { t with err := t.err ++ line ++ "\n" } : Action Terminal Unit)

end Script

/-- What is left to do when a command has come to its end. -/
inductive Continuation where
  | nothing
  /-- Answer queries for job names. -/
  | search (names : List String)
  /-- Look at the logs again every so many seconds. -/
  | follow (seconds : Nat)
  deriving DecidableEq, Repr

namespace Script

open Operation Console

/-- Loads the connection, whether or not that works, and filters by all namespaces, by one, or by
the operator's own. -/
def enterScope (space : Option String) (all : Bool) : Script Unit := do
  let _ ← onConsole loadConnection
  if all then
    let _ ← onConsole (selectNamespace none)
  else
    match space with
    | some space => let _ ← onConsole (selectNamespace (some space))
    | none => return ()

/-- Filters by a namespace, or by all if none is given. -/
def enterSpaceOrAll (space : Option String) : Script Unit :=
  enterScope space space.isNone

/-- The two sides of the first equals sign. -/
def keyValue (text : String) : Script (String × String) :=
  match Text.splitFirst? '=' text with
  | some pair => return pair
  | none => fail ("'" ++ text ++ "' must look like key=value")

def status : Script Unit := do
  enterScope none false
  let status ← surfaced refreshStatus
  print (statusLines status (← onConsole (.read fun c => c.session.connection)))

def dashboard : Script Unit := do
  enterScope none false
  let _ ← surfaced loadOverview
  match ← onConsole (.read fun c => c.overview.panel.data) with
  | none => fail "No resource data available"
  | some overview =>
    print (overviewLines overview (← onConsole (.read fun c => c.session.connection.quota)))

def usage (now : Instant) (range : Option String) (resource : String) (devices : List String) :
    Script Unit := do
  let _ ← surfaced loadMonitorDevices
  let monitor ← onConsole (.read fun c => c.monitor)
  match devices.find? fun d => !monitor.available.contains d with
  | some unknown => fail ("Unknown device '" ++ unknown ++ "'")
  | none => pure ()
  let range ← match range with
    | some word => ofOutcome (TimeRange.parse word)
    | none => pure monitor.filters.range
  let resource ← ofOutcome (MetricResource.parse resource)
  let devices := if devices.isEmpty then monitor.filters.devices else devices
  surfaced (applyFilters { devices, range, resource } now)
  let monitor ← onConsole (.read fun c => c.monitor)
  print (monitor.usage.data.elim [] hoursLines)
  print (pointsLines (monitor.series.data.elim [] UsageSeries.points))

def devices : Script Unit := do
  let _ ← surfaced loadNodes
  print (nodesLines (← onConsole (.read fun c => c.nodes.rows)))

def cordon (node : String) (cordoned : Bool) : Script Unit := do
  surfaced (setCordoned node cordoned)
  print ["Node '" ++ node ++ "' " ++ (if cordoned then "cordoned" else "uncordoned")]

def removeNode (node : String) : Script Unit := do
  surfaced (deleteNode node)
  print ["Node '" ++ node ++ "' deleted"]

def labels (node : String) : Script Unit := do
  let _ ← surfaced (loadDetail node)
  match ← onConsole (.read fun c => c.nodes.detail.data) with
  | some detail => print (detailLines detail)
  | none => fail ("No details for node '" ++ node ++ "'")

def label (node key value : String) : Script Unit := do
  let detail ← surfaced (addLabel node key value)
  print (["Label " ++ Text.trim key ++ "=" ++ Text.trim value ++ " added"] ++ detailLines detail)

def jobs (space : Option String) (all : Bool) (page : Nat) : Script Unit := do
  enterScope space all
  if (← surfaced loadJobs) = .skipped then
    fail "No default namespace yet; pass --namespace or --all"
  onConsole (onJobs (.modify fun b => b.setPage page))
  let console ← onConsole (.read id)
  print (jobsLines console.scope console.jobPage)

/-- Loads the jobs and finds the one of a name. -/
def findJob (name : String) (space : Option String) : Script Job := do
  enterSpaceOrAll space
  let _ ← surfaced loadJobs
  match ← onConsole (.read fun c => c.jobs.find? name) with
  | some job => return job
  | none => fail ("Job '" ++ name ++ "' not found")

def job (name : String) (space : Option String) : Script Unit := do
  print (jobLines (← findJob name space))

def search : Script (List String) :=
  surfaced (.request .jobNames)

def templates : Option String → Script Unit
  | none => do
    print (templatesLines (← surfaced (.request .templates)))
  | some name => do
    let _ ← surfaced (selectTemplate name)
    print (formLines (← onConsole (.read fun c => c.wizard.view.form)))

/-- Adds a target that is written `key=value`. -/
def deployTarget (text : String) : Script Unit := do
  let (key, value) ← keyValue text
  surfaced (onWizard (.update fun w => w.addTarget (labelText key value)))

/-- Sets a parameter that is written `key=value`. -/
def deployParam (text : String) : Script Unit := do
  let (key, value) ← keyValue text
  surfaced (onWizard (.update fun w => w.setParam key value))

def deploy (args : DeployArguments) : Script Unit := do
  enterScope args.space false
  onConsole openWizard
  let _ ← surfaced (selectTemplate args.template)
  args.targets.forM deployTarget
  match args.mode with
  | some word =>
    let mode ← ofOutcome (LabelMode.parse word)
    onConsole (onWizard (.modify fun w => w.setMode mode))
  | none => pure ()
  args.params.forM deployParam
  onConsole (onWizard (.modify fun w => w.setName args.name))
  let notice ← surfaced submit
  print [notice.text]

/-- Turns over whether the job of a name is selected. -/
def markJob (name : String) : Script Unit := do
  match ← onConsole (.read fun c => c.jobs.find? name) with
  | some job =>
    let _ ← onConsole (onJobs (.update fun b => b.toggleSelect job.id))
  | none => warn ("Job '" ++ name ++ "' not found")

def delete (names : List String) (space : Option String) : Script Unit := do
  enterSpaceOrAll space
  let _ ← surfaced loadJobs
  names.forM markJob
  if (← onConsole (.read fun c => c.jobs.selected)).isEmpty then
    fail "Nothing to delete"
  match (← onConsole deleteSelected).deletionNotice with
  | .success text => print [text]
  | .failure text => fail text

/-- Prints the logs that are shown. -/
def printLogs : Script Unit := do
  print [(← onConsole (.read fun c => c.logs.view)).render]

/-- Looks at the logs again. -/
def lookAgain : Script Unit := do
  let _ ← onConsole refreshLogs
  printLogs

def logs (args : LogArguments) : Script Continuation := do
  let job ← findJob args.job args.space
  let tail ← onConsole (.read fun c => args.tail.getD c.session.ui.logTail)
  let target : LogTarget := .job job.id job.namespace? args.pod
  if args.follow then
    let _ ← onConsole (openLogs target tail)
    return .follow (max 1 args.interval)
  else
    let _ ← surfaced (openLogs target tail)
    printLogs
    return .nothing

def serviceLogs (tail : Option Nat) : Script Unit := do
  let tail ← onConsole (.read fun c => tail.getD c.session.ui.logTail)
  let _ ← surfaced (openLogs .services tail)
  printLogs

def services (space : Option String) : Script Unit := do
  enterSpaceOrAll space
  let _ ← surfaced loadServices
  print (servicesLines (← onConsole (.read Console.visibleServices)))

def quota (space : Option String) : Script Unit := do
  surfaced loadConnection
  match space with
  | some space => onConsole (selectSpace space)
  | none => pure ()
  print (connectionQuotaLines (← onConsole (.read fun c => c.session.connection)))

def changeQuota (space : String) (limits : QuotaLimits) : Script Unit := do
  surfaced (setQuota space limits)
  print ["Quota of '" ++ space ++ "' updated"]

def agent (pause : Bool) : Script Unit := do
  let status ← surfaced (if pause then pauseAgent else resumeAgent)
  print ["Agent " ++ (if status.agentRunning then "running" else "paused")]

def updateRepositories : Script Unit := do
  surfaced (.request .updateRepositories)
  print ["Template repositories updated"]

def theme (dark : Bool) : Script Unit := do
  ofOutcome (← onConsole (setDarkMode dark))
  print ["Theme set to " ++ (if dark then "dark" else "light")]

/-- Locks the console with a key; without one, unlocks it. -/
def lock (key : Option String) : Script Unit := do
  ofOutcome (← onConsole (setAccessKey key))
  match key with
  | some _ => print ["Dashboard locked"]
  | none =>
    onConsole signOut
    print ["Dashboard unlocked"]

/-- Lets the operator in, if the key opens the console. -/
def enter (key : String) : Script Unit := do
  if !(← onConsole (authorize key)) then
    fail ((← onConsole (.read fun c => c.session.auth.error)).getD "Invalid user key")

end Script

/-- What a command does. -/
def Command.script (now : Instant) (command : Command) : Script Continuation := do
  match command with
  | .search => return .search (← Script.search)
  | .logs args => return ← Script.logs args
  | .status => Script.status
  | .dashboard => Script.dashboard
  | .usage range resource ds => Script.usage now range resource ds
  | .devices => Script.devices
  | .cordon node cordoned => Script.cordon node cordoned
  | .deleteNode node => Script.removeNode node
  | .labels node => Script.labels node
  | .label node key value => Script.label node key value
  | .jobs space all page => Script.jobs space all page
  | .job name space => Script.job name space
  | .templates name => Script.templates name
  | .deploy args => Script.deploy args
  | .delete names space => Script.delete names space
  | .serviceLogs tail => Script.serviceLogs tail
  | .services space => Script.services space
  | .quota space => Script.quota space
  | .setQuota space limits => Script.changeQuota space limits
  | .agent pause => Script.agent pause
  | .updateRepositories => Script.updateRepositories
  | .theme dark => Script.theme dark
  | .lock key => Script.lock key
  return .nothing

/-- Whether a command is open to everyone, also while the console is locked. -/
def Command.isOpen : Command → Bool
  | .theme _ => true
  | _ => false

/-- A command behind its lock. -/
def Command.guarded (now : Instant) (key : String) (command : Command) : Script Continuation := do
  if !command.isOpen then Script.enter key
  command.script now

end PoolConsole.Cli
