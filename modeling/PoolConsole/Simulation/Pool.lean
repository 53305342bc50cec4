import PoolConsole.Call

namespace PoolConsole

structure MemoryPool where
  devices : List Device := []
  gpus : List GpuNode := []
  resources : Snapshot := {}
  /-- The capacity of single nodes. -/
  nodeResources : KeyMap Snapshot := ∅
  jobs : List Job := []
  templates : List TemplateSummary := []
  definitions : KeyMap TemplateDefinition := ∅
  services : List Service := []
  labels : NodeLabels := ∅
  spaces : List String := []
  quotas : KeyMap Quota := ∅
  usage : ComputeUsage := {}
  series : UsageSeries := {}
  /-- The log payloads of jobs, by id. -/
  jobLogs : KeyMap Json := ∅
  serviceLogs : Json := .null
  connected : Bool := false
  agentRunning : Bool := false
  isServer : Bool := false
  /-- The deployments accepted, first to last. -/
  deployed : List DeployRequest := []
  customDeployed : List CustomDeployRequest := []
  /-- The quotas that have been set, first to last. -/
  quotaUpdates : List (String × KeyMap String) := []
  repositoryUpdates : Nat := 0
  deriving Inhabited

namespace MemoryPool

/-- The devices of a pool in which some nodes are open or closed to new work. -/
def cordonDevices (devices : List Device) (nodes : List String) (cordoned : Bool) : List Device :=
  devices.map fun d => if nodes.contains d.name then { d with cordoned } else d

/-- The job that a deployment starts. -/
def pendingJob (r : DeployRequest) : Job :=
  { id := r.name, name := r.name, owner := r.space.getD "", status := "Pending" }

/-- Whether a job is meant by a name and, if given, a namespace. -/
def isMeant (job : Job) (name : String) (space : Option String) : Bool :=
  job.name == name && space.all (job.owner == ·)

/-- What a call answers, and the pool after it. -/
def perform (p : MemoryPool) : (c : Call) → Outcome c.Answer × MemoryPool
  | .devices => (.ok p.devices, p)
  | .gpus availableOnly => (.ok (p.gpus.filter fun g => !availableOnly || 0 < g.available), p)
  | .resources nodes =>
    match nodes with
    | some [node] => (.ok ((p.nodeResources.get? node).getD {}), p)
    | _ => (.ok p.resources, p)
  | .jobs space => (.ok (p.jobs.filter fun j => space.all (j.owner == ·)), p)
  | .jobNames => (.ok (p.jobs.map (·.name)), p)
  | .templates => (.ok p.templates, p)
  | .template name =>
    match p.definitions.get? name with
    | some definition => (.ok definition, p)
    | none => (.error (.backend ("Template " ++ name ++ " not found")), p)
  | .services => (.ok p.services, p)
  | .labels nodes => (.ok (p.labels.filter fun node _ => nodes.contains node), p)
  | .spaces => (.ok p.spaces, p)
  | .quota space => (.ok (p.quotas.get? space), p)
  | .usage _ => (.ok p.usage, p)
  | .metrics _ => (.ok p.series, p)
  | .serviceLogs _ => (.ok (.ofServiceLogs p.serviceLogs), p)
  | .jobLogs job _ _ _ => (.ok (((p.jobLogs.get? job).map LogView.ofJobLogs).getD .empty), p)
  | .connected => (.ok p.connected, p)
  | .agentRunning => (.ok p.agentRunning, p)
  | .isServer => (.ok p.isServer, p)
  | .health => (.ok (), p)
  | .deploy request =>
    (.ok (), { p with deployed := p.deployed ++ [request], jobs := p.jobs ++ [pendingJob request] })
  | .deployCustom request => (.ok (), { p with customDeployed := p.customDeployed ++ [request] })
  | .deleteJob name space =>
    (.ok (), { p with jobs := p.jobs.filter fun j => !isMeant j name space })
  | .deleteNodes nodes =>
    (.ok (), { p with
      devices := p.devices.filter fun d => !nodes.contains d.name
      gpus := p.gpus.filter fun g => !nodes.contains g.node })
  | .cordon nodes => (.ok (), { p with devices := cordonDevices p.devices nodes true })
  | .uncordon nodes => (.ok (), { p with devices := cordonDevices p.devices nodes false })
  | .addLabels node labels =>
    (.ok (), { p with
      labels := p.labels.insert node (((p.labels.get? node).getD ∅).union labels) })
  | .setQuota space limits =>
    (.ok (), { p with quotaUpdates := p.quotaUpdates ++ [(space, limits)] })
  | .pauseAgent => (.ok (), { p with agentRunning := false })
  | .resumeAgent => (.ok (), { p with agentRunning := true })
  | .updateRepositories => (.ok (), { p with repositoryUpdates := p.repositoryUpdates + 1 })

end MemoryPool

end PoolConsole
