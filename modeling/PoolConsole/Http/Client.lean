import PoolConsole.Call
import PoolConsole.Config
import PoolConsole.Http.Form
import PoolConsole.Http.Message
import PoolConsole.Reply

namespace PoolConsole.Http

structure Client where
  /-- The address that all endpoints start with, without slashes at its end. -/
  base : String
  key : Option String
  deriving DecidableEq, Repr

namespace Client

/-- The characters that a header may hold: a tab and the printable ones of ASCII. -/
def isHeaderChar (c : Char) : Bool :=
  c == '\t' || (' ' ≤ c && c ≤ '~')

/-- The client that some settings describe. A key must be able to stand in a header. -/
def ofConfig (c : ApiConfig) : Outcome Client :=
  if (c.apiKey.getD "").toList.all isHeaderChar then
    .ok {
      base := String.ofList ((c.baseUrl.toList.reverse.dropWhile (· = '/')).reverse)
      key := c.apiKey }
  else .error (.config "Invalid API key: failed to parse header value")

def url (client : Client) (endpoint : String) : String :=
  client.base ++ "/" ++ String.ofList (endpoint.toList.dropWhile (· = '/'))

/-! ## Requests -/

/-- What a call asks for, besides its endpoint. -/
inductive Payload where
  /-- Pairs in the query. -/
  | query (pairs : List (String × String))
  /-- Values in the body of a request that only reads. -/
  | filter (body : Json)
  /-- Values to post. -/
  | post (body : Json)
  /-- A request to act that says no more than its endpoint. -/
  | act

def nodesBody (nodes : List String) : Json :=
  .object [("nodes", Json.ofStrings nodes)]

def textMap (m : KeyMap String) : Json :=
  Json.ofKeyMap .string m

/-- What each call asks for. -/
def payload : Call → Payload
  | .devices | .jobNames | .templates | .services | .spaces => .query []
  | .connected | .agentRunning | .isServer | .health => .query []
  | .gpus availableOnly => .query [("available", if availableOnly then "true" else "false")]
  | .resources nodes => nodes.elim (.query []) fun nodes => .filter (nodesBody nodes)
  | .jobs space => .query (space.toList.map fun space => ("force_namespace", space))
  | .template name => .query [("name", name)]
  | .labels nodes => .query (nodes.map fun node => ("nodes", node))
  | .quota space => .query [("space_name", space)]
  | .usage query => .post query.toJson
  | .metrics query => .post query.toJson
  | .serviceLogs tail => .query [("tail", Text.natural tail)]
  | .jobLogs job space pod tail =>
    .query ([("job_name", job), ("tail", Text.natural tail)] ++
      space.toList.map (fun space => ("force_namespace", space)) ++
      pod.toList.map fun pod => ("pod_name", pod))
  | .deploy request => .post request.toJson
  | .deployCustom request => .post request.toJson
  | .deleteJob name space =>
    .post (.object [("name", .string name), ("force_namespace", Json.ofText? space)])
  | .deleteNodes nodes | .cordon nodes | .uncordon nodes => .post (nodesBody nodes)
  | .addLabels node labels =>
    .post (.object [("node_name", .string node), ("labels", textMap labels)])
  | .setQuota space limits =>
    .post (.object [("user_id", .string space), ("quota", textMap limits)])
  | .pauseAgent | .resumeAgent | .updateRepositories => .act

def request (client : Client) (c : Call) : Request :=
  let url := client.url c.endpoint
  let key := client.key
  match payload c with
  | .query pairs => { method := .get, url, key, query := formQuery pairs }
  | .filter body => { method := .get, url, key, body := some body.compact }
  | .post body => { method := .post, url, key, body := some body.compact }
  | .act => { method := .post, url, key }

/-! ## Replies -/

/-- What a failure says of itself: its member `detail`, or else all of it. -/
def failureText (body : String) : String :=
  match (Json.parse? body).bind (Json.get? "detail") with
  | some detail => detail.plainText
  | none => body

/-- The value that a reply brings. -/
def valueOf (r : Reply) : Outcome Json :=
  if r.isSuccess then PoolConsole.Reply.ofBody r.body
  else .error (.transport
    ("HTTP " ++ Text.natural r.status ++ " " ++ Reply.reason r.status ++ ": " ++
      failureText r.body))

/-- A record, for which null stands as well. -/
def orDefault {α : Type} (what : String) (default : α) (read? : Json → Option α) (j : Json) :
    Outcome α :=
  PoolConsole.Reply.decode what (Json.nullOr? default read?) j

/-- The member `labels` of a record. -/
def labelsOfJson? (j : Json) : Option NodeLabels := do
  let fields ← j.fields? ["labels"]
  Json.field fields "labels" (Json.asKeyMap? (Json.asKeyMap? Json.asString?)) ∅

open PoolConsole.Reply in
/-- What a value says in answer to a call. -/
def answerOf : (c : Call) → Json → Outcome c.Answer
  | .devices => decodeList "a device" Device.ofJson?
  | .gpus _ => decodeList "a GPU node" GpuNode.ofJson?
  | .resources _ => orDefault "resources" {} Snapshot.ofJson?
  | .jobs _ => decodeList "a job" Job.ofJson?
  | .jobNames => decodeList "a name" Json.asString?
  | .templates => decodeList "a template" TemplateSummary.ofJson?
  | .template _ => decode "a template" TemplateDefinition.ofJson?
  | .services => decode "services" Service.listOfJson?
  | .labels _ => orDefault "labels" ∅ labelsOfJson?
  | .spaces => decodeList "a namespace" Json.asString?
  | .quota _ => fun j => (check j).map Quota.ofListing?
  | .usage _ => orDefault "usage" {} ComputeUsage.ofJson?
  | .metrics _ => orDefault "a series" {} UsageSeries.ofJson?
  | .serviceLogs _ => fun j => .ok (.ofServiceLogs j)
  | .jobLogs _ _ _ _ => fun j => .ok (.ofJobLogs j)
  | .connected | .agentRunning | .isServer => decode "a truth value" Json.asBool?
  | .health | .deploy _ | .deployCustom _ | .deleteJob _ _ => acknowledge
  | .deleteNodes _ | .cordon _ | .uncordon _ | .addLabels _ _ | .setQuota _ _ => acknowledge
  | .pauseAgent | .resumeAgent | .updateRepositories => acknowledge

/-- The answer to a call that a reply brings. -/
def answer (c : Call) (r : Reply) : Outcome c.Answer :=
  valueOf r >>= answerOf c

end Client

end PoolConsole.Http
