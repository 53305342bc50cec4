import PoolConsole.Console

namespace PoolConsole.Operation

open Console

/-- Loads the services, as soon as there is a scope to show them in. -/
def loadServices : Action Console (Outcome LoadOutcome) := do
  if (← .read Console.scope).isInitialized then
    let ticket ← onServices (.update ServiceBoard.begin)
    let result ← .request .services
    onServices (.update fun b => b.complete ticket result)
  else return .ok .skipped

/-- Loads the capacity of the pool and counts the jobs in the operator's own namespace. -/
def loadOverview : Action Console (Outcome LoadOutcome) := do
  let ticket ← onOverview (.update OverviewBoard.begin)
  let space ← .read fun c => c.session.connection.selected
  let result ← .requestAll [.resources none, .jobs space]
  onOverview (.update fun b => b.complete ticket (result.map fun (resources, jobs, ()) =>
    { summary := .ofSnapshot resources, jobCount := jobs.length }))

/-! ## The monitor -/

def loadMonitorDevices : Action Console (Outcome LoadOutcome) := do
  let ticket ← onMonitor (.update Monitor.beginDevices)
  let result ← .request .devices
  onMonitor (.update fun m => m.completeDevices ticket (result.map fun ds => ds.map (·.name)))

def loadUsage (now : Instant) : Action Console (Outcome LoadOutcome) := do
  let ticket ← onMonitor (.update Monitor.beginUsage)
  let query ← .read fun c => c.monitor.filters.usageQuery now
  let result ← .request (.usage query)
  onMonitor (.update fun m => m.completeUsage ticket result)

def loadSeries (now : Instant) : Action Console (Outcome LoadOutcome) := do
  let ticket ← onMonitor (.update Monitor.beginSeries)
  let query ← .read fun c => c.monitor.filters.metricsQuery now
  let result ← .request (.metrics query)
  onMonitor (.update fun m => m.completeSeries ticket result)

/-- Loads the use and the series at once. A failure of the use is reported before one of the
series. -/
def refreshMonitor (now : Instant) : Action Console (Outcome Unit) := do
  let usage ← onMonitor (.update Monitor.beginUsage)
  let series ← onMonitor (.update Monitor.beginSeries)
  let filters ← .read fun c => c.monitor.filters
  let both : Action Monitor (Outcome LoadOutcome × Outcome LoadOutcome) :=
    .both (.usage (filters.usageQuery now)) (.metrics (filters.metricsQuery now))
      (fun r m => m.completeUsage usage r) (fun r m => m.completeSeries series r)
      fun r q => .done (r, q)
  let (r, q) ← onMonitor both
  return r >>= fun _ => q.map fun _ => ()

/-- Sets the filters and loads what they ask for. -/
def applyFilters (filters : MonitorFilters) (now : Instant) : Action Console (Outcome Unit) := do
  onMonitor (.modify fun m => { m with filters })
  refreshMonitor now

/-! ## Logs -/

/-- Fetches the logs of a target. -/
def fetchLogs (tail : Nat) : LogTarget → Action Console (Outcome LogView)
  | .job id space pod => .request (.jobLogs id space pod tail)
  | .services => .request (.serviceLogs tail)

/-- Loads the logs of the target, if there is one. A failure is shown in place of logs and is no
failure of the operation. -/
def refreshLogs : Action Console (Outcome LoadOutcome) := do
  let poller ← .read fun c => c.logs
  match poller.target with
  | none => return .ok .skipped
  | some target =>
    let ticket ← onLogs (.update LogPoller.begin)
    let result ← fetchLogs poller.tail target
    onLogs (.update fun p => p.complete ticket result)

def openLogs (target : LogTarget) (tail : Nat) : Action Console (Outcome LoadOutcome) := do
  onLogs (.modify fun p => p.aim target tail)
  refreshLogs

def setTail (tail : Nat) : Action Console Unit :=
  onLogs (.modify fun p => { p with tail })

def closeLogs : Action Console Unit :=
  onLogs (.modify LogPoller.close)

end PoolConsole.Operation
