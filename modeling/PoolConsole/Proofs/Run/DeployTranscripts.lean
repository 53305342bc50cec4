import PoolConsole.Proofs.Run.Scripts
import PoolConsole.Proofs.SubmissionOutcome

namespace PoolConsole

open PoolConsole.Action Console Operation Cli

/-! ## Filling in the wizard -/

/-- A script that asks for nothing and does to the wizard what a function says. -/
structure Cli.Script.Fills (x : Script Unit) (fill : Wizard → Except Failure Wizard) : Prop where
  ok : ∀ {κ : Type} (h : Handler (StateM κ)) (t : Terminal) (k : κ) (w : Wizard),
    fill t.console.wizard = .ok w →
    h.transcript x.run t k = ⟨.ok (), { t with console.wizard := w }, k, []⟩
  error : ∀ {κ : Type} (h : Handler (StateM κ)) (t : Terminal) (k : κ) (f : Failure),
    fill t.console.wizard = .error f → ∃ t', h.transcript x.run t k = ⟨.error f, t', k, []⟩

namespace Cli.Script.Fills

variable {x y : Script Unit} {f g : Wizard → Except Failure Wizard}

theorem nothing : Fills (pure ()) .ok := by
  constructor
  · rintro _ h t k _ ⟨⟩
    rfl
  · rintro _ h t k f ⟨⟩

theorem fail (text : String) : Fills (Script.fail text) fun _ => .error { text } := by
  constructor
  · rintro _ h t k _ ⟨⟩
  · rintro _ h t k _ ⟨⟩
    exact ⟨t, rfl⟩

theorem modify (change : Wizard → Wizard) :
    Fills (onConsole (onWizard (.modify change))) fun w => .ok (change w) := by
  constructor
  · rintro _ h t k _ ⟨⟩
    rfl
  · rintro _ h t k f ⟨⟩

theorem update (change : Wizard → Outcome Unit × Wizard) :
    Fills (surfaced (onWizard (.update change))) fun w =>
      (change w).1.mapError Failure.surface >>= fun () => .ok (change w).2 := by
  have updates {κ : Type} (h : Handler (StateM κ)) (t : Terminal) (k : κ) :
      h.transcript (surfaced (onWizard (.update change))).run t k =
        ⟨(change t.console.wizard).1.mapError .surface,
          { t with console.wizard := (change t.console.wizard).2 }, k, []⟩ := by
    rw [h.transcript_surfaced]
    rfl
  constructor
  · intro _ h t k w filled
    rw [updates]
    cases changed : (change t.console.wizard).1 with
    | ok =>
      rw [changed] at filled
      cases filled
      rfl
    | error e =>
      rw [changed] at filled
      cases filled
  · intro _ h t k f failed
    rw [updates]
    cases changed : (change t.console.wizard).1 with
    | ok =>
      rw [changed] at failed
      cases failed
    | error e =>
      rw [changed] at failed
      cases failed
      exact ⟨_, rfl⟩

theorem bind (first : Fills x f) (second : Fills y g) :
    Fills (x >>= fun _ => y) fun w => f w >>= g := by
  constructor
  · intro _ h t k w filled
    cases begun : f t.console.wizard with
    | error e =>
      rw [begun] at filled
      cases filled
    | ok v =>
      rw [begun] at filled
      have ran := first.ok h t k v begun
      have rest := second.ok h { t with console.wizard := v } k w filled
      rw [h.transcript_script_ok t k (congrArg Transcript.value ran), ran, rest]
      rfl
  · intro _ h t k e failed
    cases begun : f t.console.wizard with
    | error e' =>
      rw [begun] at failed
      cases failed
      obtain ⟨t', ran⟩ := first.error h t k e begun
      refine ⟨t', ?_⟩
      rw [h.transcript_script_error t k (congrArg Transcript.value ran), ran]
    | ok v =>
      rw [begun] at failed
      have ran := first.ok h t k v begun
      obtain ⟨t', rest⟩ := second.error h { t with console.wizard := v } k e failed
      refine ⟨t', ?_⟩
      rw [h.transcript_script_ok t k (congrArg Transcript.value ran), ran, rest]
      rfl

/-- A loop fills in what its rounds do, one after the other. -/
theorem forM {α : Type} {x : α → Script Unit} {f : Wizard → α → Except Failure Wizard}
    (each : ∀ a, Fills (x a) (f · a)) (as : List α) : Fills (as.forM x) (as.foldlM f ·) := by
  induction as with
  | nil => exact nothing
  | cons a as ih => exact (each a).bind ih

end Cli.Script.Fills

namespace Wizard

/-- A target is typed as `key=value`, and added as the label `key: value`. -/
def typeTarget (w : Wizard) (text : String) : Except Failure Wizard :=
  match Text.splitFirst? '=' text with
  | none => .error { text := "'" ++ text ++ "' must look like key=value" }
  | some (key, value) =>
    (w.addTarget (labelText key value)).1.mapError Failure.surface >>= fun () =>
      .ok (w.addTarget (labelText key value)).2

def typeMode (w : Wizard) : Option String → Except Failure Wizard
  | none => .ok w
  | some word => match LabelMode.parse word with
    | .ok mode => .ok (w.setMode mode)
    | .error e => .error (.ofError e)

/-- A parameter is typed as `name=value`. -/
def typeParam (w : Wizard) (text : String) : Except Failure Wizard :=
  match Text.splitFirst? '=' text with
  | none => .error { text := "'" ++ text ++ "' must look like key=value" }
  | some (name, raw) =>
    (w.setParam name raw).1.mapError Failure.surface >>= fun () => .ok (w.setParam name raw).2

end Wizard

namespace Cli

/-- What the arguments of a deployment do to the wizard. -/
def DeployArguments.fillIn (args : DeployArguments) (w : Wizard) : Except Failure Wizard :=
  args.targets.foldlM Wizard.typeTarget w >>= fun w => w.typeMode args.mode >>= fun w =>
    args.params.foldlM Wizard.typeParam w >>= fun w => .ok (w.setName args.name)

namespace Script

def deployMode : Option String → Script Unit
  | none => pure ()
  | some word => do
    let mode ← ofOutcome (LabelMode.parse word)
    onConsole (onWizard (.modify fun w => w.setMode mode))

def fillIn (args : DeployArguments) : Script Unit :=
  args.targets.forM deployTarget >>= fun _ => deployMode args.mode >>= fun _ =>
    args.params.forM deployParam >>= fun _ =>
      onConsole (onWizard (.modify fun w => w.setName args.name))

theorem deploy_eq (args : DeployArguments) :
    deploy args = (do
      enterScope args.space false
      onConsole openWizard
      let _ ← surfaced (selectTemplate args.template)
      fillIn args
      let notice ← surfaced submit
      print [notice.text]) := by
  unfold deploy fillIn deployMode
  cases args.mode with
  | none => simp only [LawfulMonad.bind_assoc, pure_bind]
  | some word => simp only [LawfulMonad.bind_assoc]

theorem fills_deployTarget (text : String) : Fills (deployTarget text) (·.typeTarget text) := by
  unfold deployTarget keyValue Wizard.typeTarget
  cases Text.splitFirst? '=' text with
  | none => exact .fail _
  | some sides => exact .update fun w => w.addTarget (labelText sides.1 sides.2)

theorem fills_deployParam (text : String) : Fills (deployParam text) (·.typeParam text) := by
  unfold deployParam keyValue Wizard.typeParam
  cases Text.splitFirst? '=' text with
  | none => exact .fail _
  | some sides => exact .update fun w => w.setParam sides.1 sides.2

theorem fills_deployMode (word : Option String) : Fills (deployMode word) (·.typeMode word) := by
  cases word with
  | none => exact .nothing
  | some word =>
    unfold deployMode Wizard.typeMode
    dsimp only
    cases LabelMode.parse word with
    | ok mode => exact .modify fun w => w.setMode mode
    | error e =>
      constructor
      · rintro _ h t k _ ⟨⟩
      · rintro _ h t k _ ⟨⟩
        exact ⟨t, rfl⟩

theorem fills_fillIn (args : DeployArguments) : Fills (fillIn args) args.fillIn :=
  (Fills.forM fills_deployTarget args.targets).bind <| (fills_deployMode args.mode).bind <|
    (Fills.forM fills_deployParam args.params).bind <| .modify fun w => w.setName args.name

end Script

end Cli

/-! ## The parts of the command -/

/-- What the load of the connection asks for. -/
def Call.AboutConnection : Call → Prop
  | connected | spaces | quota _ => True
  | _ => False

/-- What the load of a connection has been told of the namespaces. -/
def Reply.connection? : Reply → Option (Outcome Bool)
  | ⟨.connected, r⟩ => some r
  | _ => none

def Reply.spaces? : Reply → Option (Outcome (List String))
  | ⟨.spaces, r⟩ => some r
  | _ => none

/-- The default namespace: the first of those that the load of the connection has been told, if it
has been answered. -/
def defaultSpace (told : List Reply) : Option String :=
  match told.findSome? Reply.connection?, told.findSome? Reply.spaces? with
  | some (.ok _), some (.ok spaces) => spaces.head?
  | _, _ => none

namespace Handler

variable {κ : Type} (h : Handler (StateM κ)) (c : Console) (t : Terminal) (k : κ)

theorem transcript_loadQuota (space : String) :
    ∃ connection, h.transcript (loadQuota space) c k =
      ⟨(), { c with session.connection := connection }, (h.answer (.quota space) k).2,
        [⟨.quota space, (h.answer (.quota space) k).1⟩]⟩ := by
  have asked : h.transcript (.request (.quota space)) c k =
      ⟨(h.answer (.quota space) k).1, c, (h.answer (.quota space) k).2,
        [⟨.quota space, (h.answer (.quota space) k).1⟩]⟩ := rfl
  rw [loadQuota, bind_eq, transcript_bind, asked]
  generalize h.answer (.quota space) k = answer
  obtain ⟨r, left⟩ := answer
  cases r with
  | ok quota => exact ⟨_, rfl⟩
  | error e => exact ⟨c.session.connection, rfl⟩

theorem transcript_loadQuota_forM (selected : Option String) :
    ∃ connection left rest, h.transcript (selected.forM loadQuota) c k =
        ⟨(), { c with session.connection := connection }, left, rest⟩ ∧
      ∀ reply ∈ rest, reply.call.AboutConnection := by
  cases selected with
  | none => exact ⟨c.session.connection, k, [], rfl, List.forall_mem_nil _⟩
  | some space =>
    obtain ⟨connection, ran⟩ := h.transcript_loadQuota c k space
    refine ⟨connection, _, _, ran, fun reply mem => ?_⟩
    rw [List.mem_singleton.mp mem]
    trivial

/-- The connection and the namespaces are asked for, and the filter resolves by the answers. -/
theorem loadConnection_end :
    ∃ (connected : Outcome Bool) (spaces : Outcome (List String)) (rest : List Reply),
      (h.transcript loadConnection c k).replies =
        ⟨.connected, connected⟩ :: ⟨.spaces, spaces⟩ :: rest ∧
      (∀ reply ∈ rest, reply.call.AboutConnection) ∧
      (h.transcript loadConnection c k).state.session.filter = match connected, spaces with
        | .ok b, .ok s => (takeConnection b s c.session).2.filter
        | _, _ => c.session.filter := by
  let first := h.answer .connected k
  let second := h.answer .spaces first.2
  refine ⟨first.1, second.1, ?_⟩
  have asked : h.transcript (.requestAll [.connected, .spaces]) c k =
      ⟨first.1 >>= fun b => (second.1 >>= fun s => (Except.ok ()).map fun u => (s, u)).map
          fun rest => (b, rest), c, second.2,
        [⟨.connected, first.1⟩, ⟨.spaces, second.1⟩]⟩ := rfl
  rw [loadConnection, bind_eq, transcript_bind, asked]
  generalize first.1 = connected
  generalize second = answer
  obtain ⟨spaces, left⟩ := answer
  cases connected with
  | error e => exact ⟨[], rfl, List.forall_mem_nil _, rfl⟩
  | ok b =>
    cases spaces with
    | error e => exact ⟨[], rfl, List.forall_mem_nil _, rfl⟩
    | ok s =>
      let taken := { c with session := (takeConnection b s c.session).2 }
      obtain ⟨connection, left', rest, ran, about⟩ :=
        h.transcript_loadQuota_forM taken left (takeConnection b s c.session).1
      have loads : h.transcript (((takeConnection b s c.session).1.forM loadQuota).bind
          fun _ => .done (.ok () : Outcome Unit)) taken left =
            ⟨.ok (), { taken with session.connection := connection }, left', rest⟩ := by
        rw [transcript_bind, ran, transcript_done, Transcript.after, List.append_nil]
      exact ⟨rest, congrArg (fun t => _ :: _ :: Transcript.replies t) loads, about,
        congrArg (fun t => t.state.session.filter) loads⟩

/-- A command that is given no namespace works in the default one. -/
theorem enterScope_end (space : Option String) :
    let entered := h.transcript (Script.enterScope space false).run t k
    entered.value = .ok () ∧ entered.state.console.wizard = t.console.wizard ∧
      (∀ reply ∈ entered.replies, reply.call.AboutConnection) ∧
      (∀ later, defaultSpace (entered.replies ++ later) = defaultSpace entered.replies) ∧
      (t.console.session.connection = {} → t.console.session.filter = {} →
        entered.state.console.scope.forced = space.or (defaultSpace entered.replies)) := by
  have loads := h.transcript_onConsole t k loadConnection
  have confined : loadConnection.Confined (·.wizard) fun _ _ => True :=
    loadConnection_confined (fun _ _ _ => trivial) fun _ _ => rfl
  have kept := (confined.transcript h t.console k).1
  obtain ⟨connected, spaces, rest, replies, quota, filter⟩ := h.loadConnection_end t.console k
  unfold Script.enterScope
  rw [h.transcript_script_ok t k (congrArg Transcript.value loads), loads]
  simp only [Bool.false_eq_true, if_false]
  generalize h.transcript loadConnection t.console k = loaded at *
  have about : ∀ reply ∈ loaded.replies, reply.call.AboutConnection := by
    rw [replies]
    exact List.forall_mem_cons.mpr ⟨trivial, List.forall_mem_cons.mpr ⟨trivial, quota⟩⟩
  have early (later : List Reply) :
      defaultSpace (loaded.replies ++ later) = defaultSpace loaded.replies := by
    rw [replies]
    rfl
  cases space with
  | some space =>
    have selects (t : Terminal) (k : κ) :
        h.transcript (Script.onConsole (selectNamespace (some space)) >>= fun _ => pure ()).run t k =
          ⟨.ok (), { t with console.session := t.console.session.selectNamespace space }, k, []⟩ :=
      rfl
    rw [selects, Transcript.after, List.append_nil]
    exact ⟨rfl, kept, about, early, fun _ _ => rfl⟩
  | none =>
    have stays (t : Terminal) (k : κ) :
        h.transcript (pure () : Script Unit).run t k = ⟨.ok (), t, k, []⟩ := rfl
    rw [stays, Transcript.after, List.append_nil]
    refine ⟨rfl, kept, about, early, fun unconnected unfiltered => ?_⟩
    rw [replies, Option.none_or]
    change loaded.state.session.filter.scope.forced = _
    rw [filter]
    cases connected with
    | error e =>
      change t.console.session.filter.scope.forced = none
      rw [unfiltered]
      rfl
    | ok b =>
      cases spaces with
      | error e =>
        change t.console.session.filter.scope.forced = none
        rw [unfiltered]
        rfl
      | ok s =>
        change (takeConnection b s t.console.session).2.filter.scope.forced = s.head?
        simp only [takeConnection, Session.resolve, Connection.connect, unconnected, unfiltered]
        cases s <;> rfl

/-- An opening of the wizard leaves it blank, and the rest of the console as it is. -/
theorem openWizard_end :
    let opened := h.transcript openWizard c k
    opened.state.session = c.session ∧
      opened.state.wizard.submitting = c.wizard.submitting ∧
      opened.state.wizard.view.targets = ∅ ∧
      ∀ reply ∈ opened.replies, reply.call.AboutChoices := by
  let blank (c : Console) := (c.session, c.wizard.submitting, c.wizard.view.targets)
  have confined : loadChoices.Confined blank fun c _ => c.AboutChoices :=
    loadChoices_confined (fun _ _ about => about) (fun _ _ => rfl) fun _ _ _ => rfl
  have opens : h.transcript openWizard c k =
      h.transcript loadChoices { c with wizard := c.wizard.reopen } k := rfl
  obtain ⟨kept, asked⟩ := confined.transcript h { c with wizard := c.wizard.reopen } k
  simp only [blank, Prod.mk.injEq] at kept
  obtain ⟨session, submitting, targets⟩ := kept
  rw [opens]
  refine ⟨session, submitting, targets, fun reply mem => ?_⟩
  obtain ⟨_, about⟩ := asked reply mem
  exact about

end Handler

namespace Wizard

/-- The wizard with the template of a name chosen and its definition arrived, or why it has not. -/
def selected (w : Wizard) (name : String) (answer : Outcome TemplateDefinition) : Wizard :=
  ((w.choose name).2.complete (w.choose name).1 answer).2

theorem complete_choose (w : Wizard) (name : String) (answer : Outcome TemplateDefinition) :
    (w.choose name).2.complete (w.choose name).1 answer =
      (answer.map fun _ => .applied, w.selected name answer) := by
  cases answer with
  | ok d => simp [selected, complete, choose, Except.map]
  | error e => simp [selected, complete, choose, Except.map]

end Wizard

theorem Handler.transcript_selectTemplate {κ : Type} (h : Handler (StateM κ)) (c : Console) (k : κ)
    (name : String) :
    h.transcript (selectTemplate name) c k =
      let answer := h.answer (.template name) k
      { value := answer.1.map fun _ => .applied
        state := { c with wizard := c.wizard.selected name answer.1 }
        left := answer.2
        replies := [⟨.template name, answer.1⟩] } := by
  let answer := (h.answer (.template name) k).1
  have run : h.transcript (selectTemplate name) c k =
      let (result, wizard) := (c.wizard.choose name).2.complete (c.wizard.choose name).1 answer
      ⟨result, { c with wizard }, (h.answer (.template name) k).2, [⟨.template name, answer⟩]⟩ :=
    rfl
  rw [run, Wizard.complete_choose]

/-! ## The command -/

structure Cli.DeployArguments.Ready (args : DeployArguments) (d : TemplateDefinition)
    (entered c : Console) : Prop where
  template : c.wizard.view.template = some args.template
  form : c.wizard.view.form = .ofParams d.params
  targets : c.wizard.view.targets = ∅
  submitting : c.wizard.submitting = entered.wizard.submitting
  scope : c.scope = entered.scope

inductive DeployEnd {κ : Type} (args : DeployArguments) (entered : Console) (before : List Reply) :
    Transcript κ Terminal (Except Failure Unit) → Prop where
  | unfetched (e : PoolError) (state : Terminal) (left : κ) :
      DeployEnd args entered before
        ⟨.error (.surface e), state, left, before ++ [⟨.template args.template, .error e⟩]⟩
  | unfilled {d : TemplateDefinition} {c : Console} {f : Failure} (state : Terminal) (left : κ) :
      args.Ready d entered c → args.fillIn c.wizard = .error f →
      DeployEnd args entered before
        ⟨.error f, state, left, before ++ [⟨.template args.template, .ok d⟩]⟩
  | submitted {d : TemplateDefinition} {c : Console} {w : Wizard}
      {done : Transcript κ Console (Outcome Notice)} (state : Terminal) :
      args.Ready d entered c → args.fillIn c.wizard = .ok w →
      SubmissionEnd .filledIn { c with wizard := w } done →
      DeployEnd args entered before
        ⟨(done.value.mapError .surface).map fun _ => (), state, done.left,
          before ++ ⟨.template args.template, .ok d⟩ :: done.replies⟩

namespace Handler

variable {κ : Type} (h : Handler (StateM κ)) (t : Terminal) (k : κ)

/-- The command fills in what it has been given, submits it and says what has come of it. -/
theorem filled_end {args : DeployArguments} {d : TemplateDefinition} {entered : Console}
    (ready : args.Ready d entered t.console) (before : List Reply) :
    DeployEnd args entered before
      ((h.transcript (do
        Script.fillIn args
        let notice ← Script.surfaced submit
        Script.print [notice.text] : Script Unit).run t k).after
          (before ++ [⟨.template args.template, .ok d⟩])) := by
  have fills := Script.fills_fillIn args
  cases filled : args.fillIn t.console.wizard with
  | error f =>
    obtain ⟨state, ran⟩ := fills.error h t k f filled
    rw [h.transcript_script_error t k (congrArg Transcript.value ran), ran, Transcript.after,
      List.append_nil]
    exact .unfilled state k ready filled
  | ok w =>
    have ran := fills.ok h t k w filled
    let ready' : Terminal := { t with console.wizard := w }
    have submits := h.transcript_surfaced ready' k submit
    have ends : SubmissionEnd .filledIn { t.console with wizard := w }
        (h.transcript submit ready'.console k) :=
      h.submission_end ready'.console k .filledIn
    rw [h.transcript_script_ok t k (congrArg Transcript.value ran), ran]
    change DeployEnd args entered before (((h.transcript
      (Script.surfaced submit >>= fun notice => Script.print [notice.text]).run ready' k).after
        []).after _)
    rw [Transcript.after_nil]
    generalize h.transcript submit ready'.console k = done at submits ends
    dsimp only at submits
    have last (state : Terminal) : DeployEnd args entered before
        ⟨(done.value.mapError .surface).map fun _ => (), state, done.left,
          before ++ ⟨.template args.template, .ok d⟩ :: done.replies⟩ :=
      .submitted state ready filled ends
    cases value : done.value with
    | error e =>
      rw [value] at submits last
      rw [h.transcript_script_error ready' k (congrArg Transcript.value submits), submits,
        Transcript.after, List.append_assoc]
      exact last _
    | ok notice =>
      rw [value] at submits last
      have prints (t : Terminal) (k : κ) :
          h.transcript (Script.print [notice.text]).run t k =
            ⟨.ok (), { t with out := t.out ++ String.join ([notice.text].map (· ++ "\n")) }, k, []⟩ :=
        rfl
      rw [h.transcript_script_ok ready' k (congrArg Transcript.value submits), submits, prints]
      simp only [Transcript.after, List.append_nil, List.append_assoc]
      exact last _

theorem deploy_end (args : DeployArguments) :
    let entered := h.transcript (Script.enterScope args.space false).run t k
    ∃ opening : List Reply, (∀ reply ∈ opening, reply.call.AboutChoices) ∧
      DeployEnd args entered.state.console (entered.replies ++ opening)
        (h.transcript (Script.deploy args).run t k) := by
  intro entered
  have enters : entered.value = .ok () := (h.enterScope_end t k args.space).1
  have opens := h.transcript_onConsole entered.state entered.left openWizard
  obtain ⟨session, submitting, targets, about⟩ :=
    h.openWizard_end entered.state.console entered.left
  rw [Script.deploy_eq, h.transcript_script_ok t k enters,
    h.transcript_script_ok _ _ (congrArg Transcript.value opens), opens]
  generalize h.transcript openWizard entered.state.console entered.left = opened at *
  let chosen : Terminal := { entered.state with console := opened.state }
  have fetches := h.transcript_surfaced chosen opened.left (selectTemplate args.template)
  rw [h.transcript_selectTemplate] at fetches
  dsimp only at fetches
  generalize h.answer (.template args.template) opened.left = answer at fetches
  obtain ⟨answer, left⟩ := answer
  refine ⟨opened.replies, about, ?_⟩
  cases answer with
  | error e =>
    rw [h.transcript_script_error chosen opened.left (congrArg Transcript.value fetches), fetches]
    simp only [Transcript.after, ← List.append_assoc]
    exact .unfetched e _ left
  | ok d =>
    rw [h.transcript_script_ok chosen opened.left (congrArg Transcript.value fetches), fetches,
      Transcript.after_after, Transcript.after_after]
    have ready : args.Ready d entered.state.console
        { opened.state with wizard := opened.state.wizard.selected args.template (.ok d) } := by
      constructor
      case template | form => simp [Wizard.selected, Wizard.choose, Wizard.complete, Wizard.edit]
      case targets =>
        simpa [Wizard.selected, Wizard.choose, Wizard.complete, Wizard.edit] using targets
      case submitting =>
        simpa [Wizard.selected, Wizard.choose, Wizard.complete, Wizard.edit] using submitting
      case scope => exact congrArg (fun s => s.filter.scope) session
    exact h.filled_end _ left ready _

end Handler

end PoolConsole
