import PoolConsole.Proofs.AccessGate
import PoolConsole.Proofs.DeployArguments
import PoolConsole.Proofs.Run.Writes

namespace PoolConsole

open Operation Cli

/-! ## What a command does -/

def Reply.fetched? : Reply → Option (String × Outcome TemplateDefinition)
  | ⟨.template name, r⟩ => some (name, r)
  | _ => none

namespace Transcript

variable {κ σ α : Type}

/-- The templates that have been asked for, each with what the pool says of it. -/
def fetched (ran : Transcript κ σ α) : List (String × Outcome TemplateDefinition) :=
  ran.replies.filterMap Reply.fetched?

/-- The changes that the pool has been asked for. -/
def writes (ran : Transcript κ σ α) : List Call :=
  ran.calls.filter Call.writes

/-- Some replies are neither to a fetch of a template nor to a change. -/
def Quiet (told : List Reply) : Prop :=
  ∀ reply ∈ told, reply.fetched? = none ∧ reply.call.writes = false

variable {earlier later : List Reply} {ran : Transcript κ σ α}

theorem Quiet.fetched (quiet : Quiet earlier) : earlier.filterMap Reply.fetched? = [] :=
  List.filterMap_eq_nil_iff.mpr fun reply mem => (quiet reply mem).1

theorem Quiet.writes (quiet : Quiet earlier) :
    (earlier.map (·.call)).filter Call.writes = [] := by
  rw [List.filter_eq_nil_iff, List.forall_mem_map]
  exact fun reply mem => Bool.eq_false_iff.mp (quiet reply mem).2

theorem fetched_of_quiet (replies : ran.replies = earlier ++ later) (quiet : Quiet earlier) :
    ran.fetched = later.filterMap Reply.fetched? := by
  rw [fetched, replies, List.filterMap_append, quiet.fetched, List.nil_append]

theorem writes_of_quiet (replies : ran.replies = earlier ++ later) (quiet : Quiet earlier) :
    ran.writes = (later.map (·.call)).filter Call.writes := by
  rw [writes, calls, replies, List.map_append, List.filter_append, quiet.writes, List.nil_append]

/-- How a program ends that has run a script. -/
def ending (ran : Transcript κ Terminal (Except Failure Continuation)) : Ending :=
  match ran.value with
  | .ok next => { code := 0, terminal := ran.state, next }
  | .error f => .failed f ran.state

/-- The program says that it has failed, and has changed nothing in the pool. -/
structure Fails (ran : Transcript κ Terminal (Except Failure Continuation)) : Prop where
  code : ran.ending.code = 1
  nothing : ran.writes = []

end Transcript

namespace Handler

variable {κ : Type} (h : Handler (StateM κ)) (t : Terminal) (k : κ)

theorem runScript_eq (script : Script Continuation) :
    (runScript h script t).run k =
      ((h.transcript script.run t k).ending, (h.transcript script.run t k).left) := by
  have runs : (runScript h script t).run k = ((match (h.transcript script.run t k).value with
      | .ok next => pure { code := 0, terminal := (h.transcript script.run t k).state, next }
      | .error f => pure (.failed f (h.transcript script.run t k).state) : StateM κ Ending).run
        (h.transcript script.run t k).left) := rfl
  rw [runs, Transcript.ending]
  cases (h.transcript script.run t k).value <;> rfl

/-- To try a key asks for nothing. -/
theorem transcript_enter (key : String) :
    h.transcript (Script.enter key).run t k =
      let granted := t.console.session.preferences.current.grants key
      ⟨if granted then .ok () else .error { text := "Invalid user key" }, t.tried granted, k, []⟩ := by
  have tried : h.transcript (Script.enter key).run t k =
      h.transcript
        ((if !t.console.session.preferences.current.grants key then (do
            let error ← Script.onConsole (.read fun c => c.session.auth.error)
            Script.fail (error.getD "Invalid user key"))
          else pure () : Script Unit).run)
        (t.tried (t.console.session.preferences.current.grants key)) k := rfl
  rw [tried]
  cases t.console.session.preferences.current.grants key <;> rfl

/-- Behind the lock a command does what it does after the key has been tried, or nothing. -/
theorem transcript_guarded {command : Command} (closed : command.isOpen = false) (now : Instant)
    (key : String) :
    h.transcript (command.guarded now key).run t k =
      if t.console.session.preferences.current.grants key then
        h.transcript (command.script now).run (t.tried true) k
      else ⟨.error { text := "Invalid user key" }, t.tried false, k, []⟩ := by
  have enters := h.transcript_enter t k key
  have parts : command.guarded now key =
      Script.enter key >>= fun _ => command.script now := by
    unfold Command.guarded
    simp only [closed, Bool.not_false, if_true]
  rw [parts]
  cases granted : t.console.session.preferences.current.grants key with
  | true =>
    rw [granted] at enters
    rw [h.transcript_script_ok t k (congrArg Transcript.value enters), enters]
    rfl
  | false =>
    rw [granted] at enters
    rw [h.transcript_script_error t k (congrArg Transcript.value enters), enters]
    rfl

end Handler

/-! ## The command that deploys a job -/

/-- Before it fetches the template the command changes nothing. -/
theorem quiet_of_about {told : List Reply}
    (about : ∀ reply ∈ told, reply.call.AboutConnection ∨ reply.call.AboutChoices) :
    Transcript.Quiet told := by
  rintro ⟨c, r⟩ mem
  have about : c.AboutConnection ∨ c.AboutChoices := about _ mem
  cases c with
  | connected | spaces | quota | templates | devices | labels => exact ⟨rfl, rfl⟩
  | _ => exact about.elim False.elim False.elim

/-- The job can be deployed from a template: all of the arguments can be filled in, and it has a
name. -/
structure Cli.DeployArguments.Valid (args : DeployArguments) (d : TemplateDefinition) : Prop
    extends args.Fits d where
  named : Text.isBlankText args.name = false

/-- A request constrains the placement of its job by exactly some pairs of a key and a value. -/
structure DeployRequest.Constrains (request : DeployRequest) (pairs : List (String × String)) :
    Prop where
  absent : request.targets = none ↔ pairs = []
  consists : (request.targets.getD ∅).Consists pairs

structure DeployRequest.Describes (request : DeployRequest) (args : DeployArguments)
    (d : TemplateDefinition) (space : Option String) : Prop where
  template : request.template = args.template
  name : request.name = Text.lower (Text.trim args.name)
  /-- Each parameter, in order, with what the last argument for it sets or else its default. -/
  values : request.values.entries = d.params.map fun p => (p.name, (args.valueFor p).toJson)
  space : request.space = space
  targets : request.Constrains args.labels

/-- The course that the command takes, with a key that is granted or with another one. -/
inductive DeployCourse {κ : Type} (args : DeployArguments) :
    Bool → Transcript κ Terminal (Except Failure Continuation) → Prop where
  | locked (f : Failure) (state : Terminal) (left : κ) :
      DeployCourse args false ⟨.error f, state, left, []⟩
  | entered {entered : Console} {before : List Reply}
      {done : Transcript κ Terminal (Except Failure Unit)} :
      DeployEnd args entered before done → Transcript.Quiet before →
      entered.wizard.submitting = false →
      (∀ later, entered.scope.forced = args.space.or (defaultSpace (before ++ later))) →
      DeployCourse args true { done with value := done.value.map fun _ => .nothing }

theorem Handler.deploy_course {κ : Type} (h : Handler (StateM κ)) (args : DeployArguments)
    (now : Instant) (key : String) (ui : UiConfig) (store : PreferenceStore) (k : κ) :
    DeployCourse args (store.current.grants key)
      (h.transcript ((Command.deploy args).guarded now key).run { console := .fresh ui store } k) := by
  rw [h.transcript_guarded _ k rfl]
  change DeployCourse args _ (if store.current.grants key then _ else _)
  cases store.current.grants key with
  | false => exact .locked _ _ k
  | true =>
    let t : Terminal := Terminal.tried { console := .fresh ui store } true
    have script : (Command.deploy args).script now =
        Script.deploy args >>= fun _ => pure .nothing := rfl
    obtain ⟨-, wizard, about, early, scope⟩ := h.enterScope_end t k args.space
    obtain ⟨opening, choices, ends⟩ := h.deploy_end t k args
    rw [if_pos rfl, script, h.transcript_script_map]
    refine .entered ends (quiet_of_about fun reply mem => ?_) ?_ fun later => ?_
    · rcases List.mem_append.mp mem with first | second
      · exact .inl (about reply first)
      · exact .inr (choices reply second)
    · rw [wizard]
      rfl
    · rw [List.append_assoc, early]
      exact scope rfl rfl

structure DeployRun {κ : Type} (args : DeployArguments) (granted : Bool)
    (ran : Transcript κ Terminal (Except Failure Continuation)) : Prop where
  fetched : granted = true → ∃ answer, ran.fetched = [(args.template, answer)]
  unfetched : (∀ d, ran.fetched ≠ [(args.template, .ok d)]) → ran.Fails
  invalid : ∀ d, ran.fetched = [(args.template, .ok d)] → ¬ args.Valid d → ran.Fails
  deployed : ∀ d, ran.fetched = [(args.template, .ok d)] → args.Valid d →
    ∃ request, ran.writes = [.deploy request] ∧
      request.Describes args d (args.space.or (defaultSpace ran.replies))

namespace DeployRun

variable {κ : Type} {args : DeployArguments} {before rest : List Reply}
  {ran : Transcript κ Terminal (Except Failure Continuation)}

/-- Nothing has been asked for after the template, which cannot be had or does not fit. -/
theorem of_fails {answer : Outcome TemplateDefinition} {f : Failure}
    (replies : ran.replies = before ++ [⟨.template args.template, answer⟩])
    (quiet : Transcript.Quiet before) (failed : ran.value = .error f)
    (refused : ∀ d, answer = .ok d → ¬ args.Valid d) : DeployRun args true ran := by
  have fetched : ran.fetched = [(args.template, answer)] := Transcript.fetched_of_quiet replies quiet
  have writes : ran.writes = [] := Transcript.writes_of_quiet replies quiet
  have code : ran.ending.code = 1 := by
    rw [Transcript.ending, failed]
    rfl
  constructor
  case fetched => exact fun _ => ⟨answer, fetched⟩
  case unfetched => exact fun _ => ⟨code, writes⟩
  case invalid => exact fun _ _ _ => ⟨code, writes⟩
  case deployed =>
    intro d same valid
    cases fetched.symm.trans same
    exact absurd valid (refused d rfl)

theorem of_deployed {d : TemplateDefinition} {request : DeployRequest} {r : Outcome Unit}
    (replies : ran.replies =
      before ++ ⟨.template args.template, .ok d⟩ :: ⟨.deploy request, r⟩ :: rest)
    (quiet : Transcript.Quiet before) (quiet' : Transcript.Quiet rest) (valid : args.Valid d)
    (describes : request.Describes args d (args.space.or (defaultSpace ran.replies))) :
    DeployRun args true ran := by
  have fetched : ran.fetched = [(args.template, .ok d)] :=
    (Transcript.fetched_of_quiet replies quiet).trans (congrArg (_ :: ·) quiet'.fetched)
  have writes : ran.writes = [.deploy request] :=
    (Transcript.writes_of_quiet replies quiet).trans (congrArg (_ :: ·) quiet'.writes)
  constructor
  case fetched => exact fun _ => ⟨.ok d, fetched⟩
  case unfetched => exact fun none => absurd fetched (none d)
  case invalid =>
    intro d' same invalid
    cases fetched.symm.trans same
    exact absurd valid invalid
  case deployed =>
    intro d' same _
    cases fetched.symm.trans same
    exact ⟨request, writes, describes⟩

/-- What is deployed has been described by arguments that are valid. -/
theorem describes_of_mem {granted : Bool} (run : DeployRun args granted ran)
    {request : DeployRequest} (mem : .deploy request ∈ ran.calls) :
    ∃ d, args.Valid d ∧ request.Describes args d (args.space.or (defaultSpace ran.replies)) := by
  have sent : .deploy request ∈ ran.writes := List.mem_filter.mpr ⟨mem, rfl⟩
  have works : ¬ ran.Fails := fun fails => by
    rw [fails.nothing] at sent
    cases sent
  by_cases fetched : ∃ d, ran.fetched = [(args.template, .ok d)]
  · obtain ⟨d, fetched⟩ := fetched
    have valid : args.Valid d := by
      by_contra invalid
      exact works (run.invalid d fetched invalid)
    obtain ⟨other, writes, describes⟩ := run.deployed d fetched valid
    rw [writes] at sent
    cases List.mem_singleton.mp sent
    exact ⟨d, valid, describes⟩
  · exact absurd (run.unfetched (not_exists.mp fetched)) works

end DeployRun

section

variable {args : DeployArguments} {d : TemplateDefinition} {w : Wizard} {scope : Scope}
  {request : DeployRequest}

/-- A wizard that has been filled in is good for a request if the job has a name. -/
theorem request_filled_iff (template : w.view.template = some args.template)
    (fits : args.Fits d) :
    (∃ request, (args.filled w).request scope = .ok request) ↔ args.Valid d := by
  have named : Text.lower (Text.trim args.name) ≠ "" ↔ Text.isBlankText args.name = false := by
    rw [Ne, Text.lower_eq_empty_iff, Text.trim_eq_empty_iff, Bool.not_eq_true]
  constructor
  · rintro ⟨request, made⟩
    obtain ⟨present, -⟩ := Wizard.request_eq_ok_iff.mp made
    exact ⟨fits, named.mp present⟩
  · intro valid
    exact ⟨_, Wizard.request_eq_ok_iff.mpr ⟨named.mpr valid.named, args.template, template, rfl⟩⟩

theorem constrains_of_consists (targets : request.targets = w.targets?)
    {pairs : List (String × String)} (consists : w.view.targets.Consists pairs) :
    request.Constrains pairs := by
  have empty := consists.eq_empty_iff
  cases held : w.targets? with
  | none =>
    have none : w.view.targets = ∅ := by
      by_contra some
      rw [Wizard.targets?_eq_some_iff.mpr ⟨rfl, some⟩] at held
      cases held
    rw [held] at targets
    constructor
    case absent => exact iff_of_true targets (empty.mp none)
    case consists => rwa [targets, Option.getD_none, ← none]
  | some labels =>
    obtain ⟨rfl, some⟩ := Wizard.targets?_eq_some_iff.mp held
    rw [held] at targets
    constructor
    case absent => simp [targets, ← empty, some]
    case consists => rwa [targets, Option.getD_some]

theorem describes_of_filled {entered c : Console} (ready : args.Ready d entered c)
    (fits : args.Fits d) (made : (args.filled c.wizard).request scope = .ok request) :
    request.Describes args d scope.forced := by
  have values := args.values_filled ready.form fits
  have targets : (args.filled c.wizard).view.targets = .addAll ∅ args.labels :=
    congrArg (TargetLabels.addAll · args.labels) ready.targets
  obtain ⟨-, name, chosen, rfl⟩ := Wizard.request_eq_ok_iff.mp made
  constructor
  case template => exact Option.some.inj (chosen.symm.trans ready.template)
  case name | space => rfl
  case values => exact values
  case targets =>
    apply constrains_of_consists rfl
    rw [targets]
    exact TargetLabels.consists_addAll args.labels

/-- After the job has been submitted at most the jobs are listed. -/
theorem Concludes.quiet {c after : Console} {r : Outcome Unit} {value : Outcome Notice}
    {rest : List Reply} (concludes : Concludes c r value after rest) : Transcript.Quiet rest := by
  cases concludes with
  | rejected | unscoped => exact List.forall_mem_nil _
  | reloaded _ space answer =>
    intro reply mem
    rw [List.mem_singleton.mp mem]
    exact ⟨rfl, rfl⟩

end

/-- A command that is let in deploys one job, or it fails. -/
theorem DeployCourse.run {κ : Type} {args : DeployArguments} {granted : Bool}
    {ran : Transcript κ Terminal (Except Failure Continuation)}
    (course : DeployCourse args granted ran) : DeployRun args granted ran := by
  cases course with
  | locked =>
    constructor
    case fetched => nofun
    case unfetched => exact fun _ => ⟨rfl, rfl⟩
    case invalid | deployed => nofun
  | entered ends quiet free scope =>
    cases ends with
    | unfetched => exact .of_fails rfl quiet rfl nofun
    | unfilled state left ready failed =>
      refine .of_fails rfl quiet rfl ?_
      rintro d ⟨⟩ valid
      rw [(DeployArguments.fillIn_eq_ok_iff ready.form).mpr ⟨valid.toFits, rfl⟩] at failed
      cases failed
    | @submitted d c w done state ready filled ends =>
      obtain ⟨fits, rfl⟩ := (DeployArguments.fillIn_eq_ok_iff ready.form).mp filled
      have usable : (∃ request, (args.filled c.wizard).request c.scope = .ok request) ↔
          args.Valid d := request_filled_iff ready.template fits
      cases ends with
      | refused e left _ why =>
        refine .of_fails rfl quiet rfl ?_
        rintro d ⟨⟩ valid
        obtain ⟨request, made⟩ := usable.mpr valid
        -- Nothing else holds the flag, and for valid arguments there is a request.
        have free : c.wizard.submitting = false := ready.submitting.trans free
        rcases why with held | unmade
        · cases free.symm.trans held
        · have unmade : ((args.filled c.wizard).request c.scope).map Call.deploy = .error e := unmade
          rw [made] at unmade
          cases unmade
      | answered reply left _ asked _ concludes =>
        obtain ⟨call, answer⟩ := reply
        have asked : ((args.filled c.wizard).request c.scope).map Call.deploy = .ok call := asked
        cases made : (args.filled c.wizard).request c.scope with
        | error e =>
          rw [made] at asked
          cases asked
        | ok request =>
          rw [made] at asked
          cases asked
          refine .of_deployed rfl quiet concludes.quiet (usable.mp ⟨request, made⟩) ?_
          rw [← scope, ← ready.scope]
          exact describes_of_filled ready fits made

/-- With valid arguments one job is deployed. Otherwise the command fails, and nothing is changed
in the pool. -/
theorem deploy_all_or_nothing {κ : Type} (h : Handler (StateM κ)) (args : DeployArguments)
    (now : Instant) (key : String) (ui : UiConfig) (store : PreferenceStore) (k : κ) :
    DeployRun args (store.current.grants key)
      (h.transcript ((Command.deploy args).guarded now key).run { console := .fresh ui store } k) :=
  (h.deploy_course args now key ui store k).run

def Handler.offering (name : String) (d : TemplateDefinition) (spaces : List String) :
    Handler (StateM Unit) where
  answer
    | .template other => fun k => (if other = name then .ok d else .error (.notFound other), k)
    | .connected => fun k => (.ok true, k)
    | .spaces => fun k => (.ok spaces, k)
    | .deploy _ => fun k => (.ok (), k)
    | _ => fun k => (.error (.transport "down"), k)
  save _ _ k := (.ok (), k)

/-- The template is fetched once, with its definition. -/
theorem DeployRun.fetched_offering {args : DeployArguments} {d : TemplateDefinition}
    {spaces : List String} {x : Action Terminal (Except Failure Continuation)} {t : Terminal}
    (run : DeployRun args true ((Handler.offering args.template d spaces).transcript x t ())) :
    ((Handler.offering args.template d spaces).transcript x t ()).fetched =
      [(args.template, .ok d)] := by
  obtain ⟨answer, fetched⟩ := run.fetched rfl
  have told : (args.template, answer) ∈
      ((Handler.offering args.template d spaces).transcript x t ()).fetched := by
    rw [fetched]
    exact List.mem_cons_self
  obtain ⟨⟨c, r⟩, mem, of⟩ := List.mem_filterMap.mp told
  obtain ⟨k, answers⟩ := Handler.exists_answer_of_mem_replies _ mem
  cases c with
  | template name =>
    cases of
    obtain rfl : answer = .ok d := answers.trans (if_pos rfl)
    exact fetched
  | _ => cases of

def TemplateDefinition.sized : TemplateDefinition where
  values := ⟨[("size", .null), ("note", .string "x")], by simp⟩
  schema := { properties :=
    ⟨[("note", .object []), ("size", .object [("type", .string "integer")])], by simp⟩ }

/-- Of two values for a parameter the last one is deployed. With a parameter that the template does
not have the job is not deployed at all. -/
theorem deployed_with_last_value :
    let args (params : List String) : DeployArguments :=
      { template := "a", name := "Job", params, targets := ["gpu=a100"], mode := none, space := none }
    let ran (params : List String) := (Handler.offering "a" .sized ["lab"]).transcript
      ((Command.deploy (args params)).guarded ⟨0, 0⟩ "").run { console := .fresh {} {} } ()
    (∃ request, (ran ["size=1", "size=2"]).writes = [.deploy request] ∧ request.name = "job" ∧
      request.values.entries = [("size", .number (.unsigned 2)), ("note", .string "x")]) ∧
    (ran ["size=1", "colour=red"]).Fails := by
  intro args ran
  have runs (params : List String) : DeployRun (args params) true (ran params) :=
    deploy_all_or_nothing (.offering "a" .sized ["lab"]) (args params) ⟨0, 0⟩ "" {} {} ()
  have fetched (params : List String) : (ran params).fetched = [("a", .ok .sized)] :=
    (runs params).fetched_offering
  constructor
  · have valid : (args ["size=1", "size=2"]).Valid .sized := by
      constructor
      · constructor
        case targets =>
          rw [List.forall_mem_singleton]
          exact ⟨("gpu", "a100"), by decide⟩
        case mode => nofun
        case params =>
          rw [List.forall_mem_cons, List.forall_mem_singleton]
          exact ⟨⟨("size", "1"), by decide, _, .head _, rfl, .integer 1, by decide⟩,
            ⟨("size", "2"), by decide, _, .head _, rfl, .integer 2, by decide⟩⟩
      · decide
    obtain ⟨request, writes, describes⟩ := (runs _).deployed _ (fetched _) valid
    refine ⟨request, writes, describes.name.trans ?_, describes.values.trans ?_⟩
    · decide
    · rfl
  · refine (runs _).invalid _ (fetched _) fun valid => ?_
    obtain ⟨_, split, p, mem, named, -⟩ :=
      valid.params "colour=red" (List.mem_cons_of_mem _ List.mem_cons_self)
    have other : Text.splitFirst? '=' "colour=red" = some ("colour", "red") := by decide
    cases other.symm.trans split
    have none : "colour" ∉ TemplateDefinition.sized.names := by decide
    exact none (List.mem_map.mpr ⟨p, mem, named⟩)

end PoolConsole
