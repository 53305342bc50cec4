import PoolConsole.Logs
import PoolConsole.Pool.Deployment
import PoolConsole.Pool.Device
import PoolConsole.Pool.Job
import PoolConsole.Pool.Service
import PoolConsole.Pool.Template
import PoolConsole.Quota
import PoolConsole.Resources.Snapshot
import PoolConsole.Resources.Usage

namespace PoolConsole

inductive Call where
  | devices
  | gpus (availableOnly : Bool)
  /-- The capacity of the pool, or of some nodes. -/
  | resources (nodes : Option (List String))
  /-- The jobs of one namespace, or of all. -/
  | jobs (space : Option String)
  | jobNames
  | templates
  | template (name : String)
  | services
  | labels (nodes : List String)
  | spaces
  | quota (space : String)
  | usage (query : UsageQuery)
  | metrics (query : MetricsQuery)
  | serviceLogs (tail : Nat)
  | jobLogs (job : String) (space pod : Option String) (tail : Nat)
  | connected
  | agentRunning
  | isServer
  | health
  | deploy (request : DeployRequest)
  | deployCustom (request : CustomDeployRequest)
  | deleteJob (name : String) (space : Option String)
  | deleteNodes (nodes : List String)
  | cordon (nodes : List String)
  | uncordon (nodes : List String)
  | addLabels (node : String) (labels : KeyMap String)
  | setQuota (space : String) (limits : KeyMap String)
  | pauseAgent
  | resumeAgent
  | updateRepositories

namespace Call

/-- What a call answers when it succeeds. -/
abbrev Answer : Call → Type
  | devices => List Device
  | gpus _ => List GpuNode
  | resources _ => Snapshot
  | jobs _ => List Job
  | jobNames => List String
  | templates => List TemplateSummary
  | template _ => TemplateDefinition
  | services => List Service
  | labels _ => NodeLabels
  | spaces => List String
  | quota _ => Option Quota
  | usage _ => ComputeUsage
  | metrics _ => UsageSeries
  | serviceLogs _ => LogView
  | jobLogs _ _ _ _ => LogView
  | connected => Bool
  | agentRunning => Bool
  | isServer => Bool
  | _ => Unit

/-- The name under which the management API offers the call. -/
def endpoint : Call → String
  | devices => "fetch_devices"
  | gpus _ => "fetch_gpus"
  | resources _ => "fetch_resources"
  | jobs _ => "fetch_job_details"
  | jobNames => "fetch_job_names"
  | templates => "fetch_job_templates"
  | template _ => "fetch_template_all"
  | services => "fetch_pool_services"
  | labels _ => "get_node_labels"
  | spaces => "get_available_user_spaces"
  | quota _ => "get_user_space_quota"
  | usage _ => "get_compute_usage"
  | metrics _ => "fetch_nodes_metrics"
  | serviceLogs _ => "fetch_service_logs"
  | jobLogs _ _ _ _ => "fetch_job_logs"
  | connected => "is_connected"
  | agentRunning => "is_agent_running"
  | isServer => "is_server"
  | health => "health"
  | deploy _ => "deploy_job"
  | deployCustom _ => "deploy_custom_job"
  | deleteJob _ _ => "delete_job"
  | deleteNodes _ => "delete_nodes"
  | cordon _ => "cordon_nodes"
  | uncordon _ => "uncordon_nodes"
  | addLabels _ _ => "add_node_labels"
  | setQuota _ _ => "set_user_space_quota"
  | pauseAgent => "pause_agent"
  | resumeAgent => "resume_agent"
  | updateRepositories => "update_repositories"

/-- The answers of several calls together. -/
abbrev Answers : List Call → Type
  | [] => Unit
  | c :: cs => c.Answer × Answers cs

end Call

end PoolConsole
