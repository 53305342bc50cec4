import PoolConsole.Namespace
import PoolConsole.Panel
import PoolConsole.Pool.Job
import PoolConsole.Pool.Service
import PoolConsole.Logs
import PoolConsole.Resources.Snapshot
import PoolConsole.Resources.Usage

namespace PoolConsole

/-- All services of the pool, of which a view shows those of its namespace. -/
structure ServiceBoard where
  panel : Panel (List Service) := {}
  deriving Inhabited

namespace ServiceBoard

def begin (b : ServiceBoard) : Ticket × ServiceBoard :=
  let (ticket, panel) := b.panel.begin
  (ticket, { b with panel })

def complete (b : ServiceBoard) (ticket : Ticket) (result : Outcome (List Service)) :
    Outcome LoadOutcome × ServiceBoard :=
  let (outcome, panel) := b.panel.complete ticket result
  (outcome, { b with panel })

/-- The services that a scope admits. -/
def visible (b : ServiceBoard) (scope : Scope) : List Service :=
  (b.panel.data.getD []).filter fun s => scope.admits s.space

end ServiceBoard

structure PoolOverview where
  summary : Summary
  jobCount : Nat
  deriving DecidableEq

structure OverviewBoard where
  panel : Panel PoolOverview := {}
  deriving Inhabited

namespace OverviewBoard

def begin (b : OverviewBoard) : Ticket × OverviewBoard :=
  let (ticket, panel) := b.panel.begin
  (ticket, { b with panel })

def complete (b : OverviewBoard) (ticket : Ticket) (result : Outcome PoolOverview) :
    Outcome LoadOutcome × OverviewBoard :=
  let (outcome, panel) := b.panel.complete ticket result
  (outcome, { b with panel })

end OverviewBoard

structure MonitorFilters where
  devices : List String := []
  range : TimeRange := .day
  resource : MetricResource := .gpus
  deriving DecidableEq, Repr, Inhabited

namespace MonitorFilters

def usageQuery (f : MonitorFilters) (now : Instant) : UsageQuery :=
  .window f.range now f.devices

def metricsQuery (f : MonitorFilters) (now : Instant) : MetricsQuery :=
  .window f.range now f.devices f.resource

end MonitorFilters

structure Monitor where
  devices : Panel (List String) := {}
  filters : MonitorFilters := {}
  usage : Panel UsageHours := {}
  series : Panel UsageSeries := {}
  deriving Inhabited

namespace Monitor

def available (m : Monitor) : List String :=
  m.devices.data.getD []

def beginDevices (m : Monitor) : Ticket × Monitor :=
  let (ticket, devices) := m.devices.begin
  (ticket, { m with devices })

/-- Takes over a list of devices: as the filter of devices, and as what there is to choose from. -/
def completeDevices (m : Monitor) (ticket : Ticket) (result : Outcome (List String)) :
    Outcome LoadOutcome × Monitor :=
  let filters := match result with
    | .ok names => { m.filters with devices := names }
    | .error _ => m.filters
  let (outcome, devices) := m.devices.complete ticket result
  (outcome, { m with devices, filters })

def beginUsage (m : Monitor) : Ticket × Monitor :=
  let (ticket, usage) := m.usage.begin
  (ticket, { m with usage })

def completeUsage (m : Monitor) (ticket : Ticket) (result : Outcome ComputeUsage) :
    Outcome LoadOutcome × Monitor :=
  let (outcome, usage) := m.usage.complete ticket (result.map ComputeUsage.hours)
  (outcome, { m with usage })

def beginSeries (m : Monitor) : Ticket × Monitor :=
  let (ticket, series) := m.series.begin
  (ticket, { m with series })

def completeSeries (m : Monitor) (ticket : Ticket) (result : Outcome UsageSeries) :
    Outcome LoadOutcome × Monitor :=
  let (outcome, series) := m.series.complete ticket result
  (outcome, { m with series })

end Monitor

/-- Whose logs are shown. -/
inductive LogTarget where
  | job (id : String) (space pod : Option String)
  | services
  deriving DecidableEq, Repr

/-- All pods of a job. -/
def LogTarget.ofJob (job : Job) : LogTarget :=
  .job job.id job.namespace? none

structure LogPoller where
  target : Option LogTarget := none
  tail : Nat := 100
  panel : Panel LogView := {}
  deriving Inhabited

namespace LogPoller

def view (p : LogPoller) : LogView :=
  p.panel.data.getD .idle

def aim (p : LogPoller) (target : LogTarget) (tail : Nat) : LogPoller :=
  { p with target := some target, tail }

def begin (p : LogPoller) : Ticket × LogPoller :=
  let (ticket, panel) := p.panel.begin
  (ticket, { p with panel })

/-- Takes over what was fetched; a failure is shown in place of logs. -/
def complete (p : LogPoller) (ticket : Ticket) (result : Outcome LogView) :
    Outcome LoadOutcome × LogPoller :=
  let shown := match result with
    | .ok view => view
    | .error e => .error e.userMessage
  let (outcome, panel) := p.panel.complete ticket (.ok shown)
  (outcome, { p with panel })

/-- Shows nothing any more, whatever is still under way. -/
def close (p : LogPoller) : LogPoller :=
  { p with target := none, panel := p.panel.reset }

end LogPoller

end PoolConsole
