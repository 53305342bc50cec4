import PoolConsole.Console
import PoolConsole.Decimal.Rounding
import PoolConsole.Text.Column

namespace PoolConsole.Cli

open Text

def truth (b : Bool) : String :=
  if b then "true" else "false"

def amount (x : Float) : String :=
  FloatLayout.plain.text x

/-- An amount with two decimal places at most. -/
def rounded (x : Float) : String :=
  amount (Quantity.round2 x)

def statusLines (status : PoolStatus) (connection : Connection) : List String :=
  ["Connected:     " ++ truth status.connected,
    "Agent running: " ++ truth status.agentRunning,
    "Server node:   " ++ truth status.isServer,
    "Namespaces:    " ++ ", ".intercalate connection.spaces] ++
  connection.selected.toList.map ("Default:       " ++ ·)

def gaugeLine (label : String) (g : Gauge) (unit : String) : String :=
  "  " ++ left 8 label ++ " " ++ right 8 (rounded g.online) ++ " / " ++ left 8 (rounded g.total) ++
    " " ++ unit ++ " available (" ++ Decimal.wholeText g.fillPercent ++ "% in use)"

def meterLine (label : String) (m : QuotaMeter) : String :=
  "  " ++ left 8 label ++ " " ++ right 6 (natural m.used.toNat) ++ " / " ++
    left 6 (natural m.max.toNat) ++ " (" ++ natural m.percent ++ "%)"

def quotaLines (q : Quota) : List String :=
  [meterLine "CPU" q.cpu, meterLine "GPU" q.gpu, meterLine "Memory" q.memory]

def overviewLines (o : PoolOverview) (quota : Option Quota) : List String :=
  ["Pool capacity:",
    gaugeLine "CPUs" o.summary.cpu "cores",
    gaugeLine "GPUs" o.summary.gpu "devices",
    gaugeLine "RAM" o.summary.ram "GB",
    gaugeLine "Nodes" o.summary.devices "online",
    "",
    "Jobs: " ++ natural o.jobCount] ++
  quota.elim [] fun q => ["", "Quota:"] ++ quotaLines q

def hoursLines (h : UsageHours) : List String :=
  ["CPU hours:     " ++ rounded h.cpu,
    "Memory GiB-h:  " ++ rounded h.memory,
    "GPU hours:     " ++ rounded h.gpu]

def pointLine (timestamp used total : String) : String :=
  left 28 timestamp ++ " " ++ right 10 used ++ " " ++ right 10 total

def pointsLines (points : List UsagePoint) : List String :=
  if points.isEmpty then ["", "No metrics for this window"]
  else
    ["", pointLine "TIMESTAMP" "USED" "TOTAL", rule 50] ++
      points.map fun p => pointLine p.timestamp (rounded p.used) (rounded p.total)

def nodeLine (node ready cordoned gpus used models issues : String) : String :=
  left 24 node ++ " " ++ left 6 ready ++ " " ++ left 9 cordoned ++ " " ++ right 6 gpus ++ " " ++
    right 6 used ++ "  " ++ left 30 models ++ " " ++ issues

def nodesLines (rows : List NodeRow) : List String :=
  if rows.isEmpty then ["No devices found"]
  else
    [nodeLine "NODE" "READY" "CORDONED" "GPUS" "USED%" "MODELS" "ISSUES", rule 100] ++
      rows.map fun r =>
        nodeLine r.node (truth r.ready) (truth r.cordoned) (amount r.total) (amount r.used)
          (", ".intercalate (split '\n' r.models)) r.issues

def detailLines (d : NodeDetail) : List String :=
  ["Node: " ++ d.node, "", "Labels:"] ++
  (if d.labels.isEmpty then ["  (none)"] else []) ++
  d.labels.entries.map (fun label => "  " ++ labelText label.1 label.2) ++
  ["", "Resources (available / total):"] ++
  d.resources.entries.map fun (key, g) =>
    "  " ++ left 16 key ++ " " ++ rounded g.online ++ " / " ++ rounded g.total

def jobColumns (name owner status workers hosts endpoints : String) : String :=
  left 24 name ++ " " ++ left 16 owner ++ " " ++ left 10 status ++ " " ++ left 8 workers ++ " " ++
    left 24 hosts ++ " " ++ endpoints

def jobLine (job : Job) : String :=
  jobColumns job.name job.owner job.status job.workers (",".intercalate job.hosts)
    (" ".intercalate (job.endpoints.entries.map fun e => e.1 ++ "=" ++ e.2))

def jobsLines (scope : Scope) (page : JobPage) : List String :=
  ["Namespace: " ++ scope.display] ++
  if page.jobs.isEmpty then ["No jobs found"]
  else
    [jobColumns "NAME" "OWNER" "STATUS" "WORKERS" "HOSTS" "ENDPOINTS", rule 110] ++
    page.jobs.map jobLine ++
    ["", "Page " ++ natural page.page ++ "/" ++ natural page.totalPages ++ " (" ++
      natural page.totalJobs ++ " jobs)"]

def jobLines (job : Job) : List String :=
  ["Job: " ++ job.name ++ " (" ++ job.owner ++ ")",
    "Status: " ++ job.status ++ " [" ++ job.tone.color ++ "]",
    "", "Spec:", job.specText,
    "", "Conditions:", job.conditionsText]

/-- Whether a text stands somewhere in another. -/
def occursIn (part : List Char) : List Char → Bool
  | [] => part.isEmpty
  | c :: cs => part.isPrefixOf (c :: cs) || occursIn part cs

/-- The names in which a query occurs, in letters of either case. -/
def matching (names : List String) (query : String) : List String :=
  names.filter fun name => occursIn (lower query).toList (lower name).toList

def matchLines (names : List String) (query : String) : List String :=
  let found := matching names query
  if found.isEmpty then ["No jobs match '" ++ query ++ "'"] else found.map ("  " ++ ·)

def templatesLines (templates : List TemplateSummary) : List String :=
  if templates.isEmpty then ["No templates available"]
  else templates.map fun t =>
    match t.description with
    | some description => left 24 t.name ++ " " ++ description
    | none => t.name

/-- A parameter. The column of kinds is as wide as the kind. -/
def paramLines (form : ParameterForm) (p : Param) : List String :=
  [left 28 p.name ++ " " ++ p.kind.word ++ " " ++ left 9 (truth p.required) ++ " " ++
    ((form.value? p.name).map ParamValue.display).getD ""] ++
  (if p.description = "" then [] else ["    " ++ p.description]) ++
  p.options.toList.map fun options => "    one of: " ++ ", ".intercalate options

def formLines (form : ParameterForm) : List String :=
  [left 28 "PARAMETER" ++ " " ++ left 8 "TYPE" ++ " " ++ left 9 "REQUIRED" ++ " DEFAULT",
    rule 80] ++
    form.params.flatMap (paramLines form)

def serviceColumns (space name inside outside : String) : String :=
  left 16 space ++ " " ++ left 24 name ++ " " ++ left 40 inside ++ " " ++ outside

def servicesLines (services : List Service) : List String :=
  if services.isEmpty then ["No services in this namespace"]
  else
    [serviceColumns "NAMESPACE" "NAME" "INTERNAL" "EXTERNAL", rule 110] ++
      services.map fun s =>
        serviceColumns s.space s.name (" ".intercalate s.inside.values)
          (" ".intercalate s.outside.values)

def connectionQuotaLines (connection : Connection) : List String :=
  let name := connection.selected.getD ""
  match connection.quota with
  | some quota => ["Quota of '" ++ name ++ "':"] ++ quotaLines quota
  | none => ["Namespace '" ++ name ++ "' has no quota"]

end PoolConsole.Cli
