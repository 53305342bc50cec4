import PoolConsole.Proofs.Run.Activity
import PoolConsole.Proofs.Run.Discipline

/-!
What the activities of one part of the console leave alone, and which calls they make.

* `SessionActivity.confined`, `JobActivity.confined`, `WizardActivity.confined`,
  `NodeActivity.confined`, `ViewActivity.confined`: an activity of a part leaves every view of the
  other parts as it is, at each of its steps, and makes the calls of its part only.
* `Wizard.next_keeps` and its siblings, `Activity.confined_wizard`: what else of the wizard an
  activity of it leaves alone.
* Jobs are loaded for the scope of that moment, services once there is a scope.
-/

namespace PoolConsole

namespace Call

def AboutSession : Call → Prop
  | connected | spaces | quota _ | agentRunning | isServer => True
  | setQuota _ _ | pauseAgent | resumeAgent => True
  | _ => False

/-- Jobs are also loaded, but for the scope only. -/
def AboutJobs : Call → Prop
  | deleteJob _ _ => True
  | _ => False

/-- What the wizard asks for as it opens. -/
def AboutChoices : Call → Prop
  | templates | devices | labels _ => True
  | _ => False

def AboutTemplates : Call → Prop
  | templates | template _ | devices | labels _ => True
  | _ => False

def AboutDeployment : Call → Prop
  | deploy _ | deployCustom _ => True
  | _ => False

def AboutNodes : Call → Prop
  | devices | gpus _ | labels _ | resources _ => True
  | cordon _ | uncordon _ | deleteNodes _ | addLabels _ _ => True
  | _ => False

/-- Services are also loaded, but only for a scope, and the overview counts jobs. -/
def AboutViews : Call → Prop
  | resources _ | devices | usage _ | metrics _ => True
  | serviceLogs _ | jobLogs _ _ _ _ => True
  | _ => False

/-- What the overview and the monitor ask for. -/
def AboutUse : Call → Prop
  | resources _ | devices | usage _ | metrics _ => True
  | _ => False

def AboutLogs : Call → Prop
  | serviceLogs _ | jobLogs _ _ _ _ => True
  | _ => False

theorem aboutTemplates_of_choices {c : Call} (about : c.AboutChoices) : c.AboutTemplates := by
  cases c with
  | templates | devices | labels => trivial
  | _ => exact about.elim

theorem aboutViews_of_use {c : Call} (about : c.AboutUse) : c.AboutViews := by
  cases c with
  | resources | devices | usage | metrics => trivial
  | _ => exact about.elim

theorem aboutViews_of_logs {c : Call} (about : c.AboutLogs) : c.AboutViews := by
  cases c with
  | serviceLogs | jobLogs => trivial
  | _ => exact about.elim

end Call

open PoolConsole.Action Console

variable {α γ : Type} {view : Console → γ} {calls : Call → Console → Prop}

/-! ## Changes of one part -/

theorem confined_onSession (apart : ∀ session c, view { c with session } = view c)
    {x : Action Session α} (may : x.Confined (fun _ => ()) fun c _ => ∀ s, calls c s) :
    (onSession x).Confined view calls :=
  .onPart (fun _ _ => rfl) apart may

theorem confined_onJobs (apart : ∀ jobs c, view { c with jobs } = view c)
    {x : Action JobBoard α} (may : x.Confined (fun _ => ()) fun c _ => ∀ s, calls c s) :
    (onJobs x).Confined view calls :=
  .onPart (fun _ _ => rfl) apart may

theorem confined_onNodes (apart : ∀ nodes c, view { c with nodes } = view c)
    {x : Action NodeBoard α} (may : x.Confined (fun _ => ()) fun c _ => ∀ s, calls c s) :
    (onNodes x).Confined view calls :=
  .onPart (fun _ _ => rfl) apart may

theorem confined_onOverview (apart : ∀ overview c, view { c with overview } = view c)
    {x : Action OverviewBoard α} (may : x.Confined (fun _ => ()) fun c _ => ∀ s, calls c s) :
    (onOverview x).Confined view calls :=
  .onPart (fun _ _ => rfl) apart may

theorem confined_onMonitor (apart : ∀ monitor c, view { c with monitor } = view c)
    {x : Action Monitor α} (may : x.Confined (fun _ => ()) fun c _ => ∀ s, calls c s) :
    (onMonitor x).Confined view calls :=
  .onPart (fun _ _ => rfl) apart may

theorem confined_onLogs (apart : ∀ logs c, view { c with logs } = view c)
    {x : Action LogPoller α} (may : x.Confined (fun _ => ()) fun c _ => ∀ s, calls c s) :
    (onLogs x).Confined view calls :=
  .onPart (fun _ _ => rfl) apart may

/-- Some changes of the wizard leave a view of it alone. -/
theorem confined_modifyWizard {f : Wizard → Wizard}
    (keeps : ∀ c, view { c with wizard := f c.wizard } = view c) :
    (onWizard (.modify f)).Confined view calls :=
  ⟨fun _ s same => (keeps s).trans same⟩

theorem confined_updateWizard {f : Wizard → α × Wizard}
    (keeps : ∀ c, view { c with wizard := (f c.wizard).2 } = view c) :
    (onWizard (.update f)).Confined view calls :=
  ⟨fun _ s same => (keeps s).trans same⟩

theorem confined_modifySession {f : Session → Session}
    (keeps : ∀ c, view { c with session := f c.session } = view c) :
    (onSession (.modify f)).Confined view calls :=
  ⟨fun _ s same => (keeps s).trans same⟩

theorem confined_updateSession {f : Session → α × Session}
    (keeps : ∀ c, view { c with session := (f c.session).2 } = view c) :
    (onSession (.update f)).Confined view calls :=
  ⟨fun _ s same => (keeps s).trans same⟩

namespace Operation

/-! ## Nodes -/

section
variable (apart : ∀ nodes c, view { c with nodes } = view c)
variable (may : ∀ c s, c.AboutNodes → calls c s)
include apart may

theorem loadNodes_confined : loadNodes.Confined view calls := by
  refine .bind (confined_onNodes apart (.update fun _ => rfl)) fun _ => ?_
  refine .bind (.requestAll may (by simp [Call.AboutNodes])) fun _ => ?_
  exact confined_onNodes apart (.update fun _ => rfl)

theorem setCordoned_confined (node : String) (cordoned : Bool) :
    (setCordoned node cordoned).Confined view calls := by
  refine .attempt (.ite ?_ ?_) fun () => .attempt (loadNodes_confined apart may) fun _ => .done _
  · exact .request fun s => may _ s trivial
  · exact .request fun s => may _ s trivial

theorem deleteNode_confined (node : String) : (deleteNode node).Confined view calls :=
  .attempt (.request fun s => may _ s trivial) fun () =>
    .attempt (loadNodes_confined apart may) fun _ => .done _

theorem loadDetail_confined (node : String) : (loadDetail node).Confined view calls := by
  refine .bind (confined_onNodes apart (.update fun _ => rfl)) fun _ => ?_
  refine .bind (.requestAll may (by simp [Call.AboutNodes])) fun _ => ?_
  exact confined_onNodes apart (.update fun _ => rfl)

theorem toggleCordon_confined (node : String) : (toggleCordon node).Confined view calls := by
  refine .bind (.read _) fun row => ?_
  cases row with
  | none => exact .done _
  | some row => exact .attempt (setCordoned_confined apart may node _) fun () => .done _

theorem addLabel_confined (node key value : String) :
    (addLabel node key value).Confined view calls := by
  refine .ite (.done _) (.attempt (.request fun s => may _ s trivial) fun () => ?_)
  refine .attempt (loadDetail_confined apart may node) fun _ => .bind (.read _) fun detail => ?_
  cases detail with
  | none => exact .done _
  | some detail => exact .done _

end

/-! ## Session -/

section
variable (may : ∀ c s, c.AboutSession → calls c s)
include may

section
variable (keeps : ∀ connection c, view { c with session.connection := connection } = view c)
include keeps

theorem loadQuota_confined (space : String) : (loadQuota space).Confined view calls := by
  refine .bind (.request fun s => may _ s trivial) fun r => ?_
  cases r with
  | ok quota => exact confined_modifySession fun c => keeps _ c
  | error e => exact .done _

theorem refreshStatus_confined : refreshStatus.Confined view calls := by
  refine .attempt (.requestAll may (by simp [Call.AboutSession])) fun _ => ?_
  exact .bind (confined_modifySession fun c => keeps _ c) fun _ => .done _

theorem setQuota_confined (space : String) (limits : QuotaLimits) :
    (setQuota space limits).Confined view calls := by
  refine .ite (.done _) (.ite (.done _) (.attempt (.request fun s => may _ s trivial) fun () => ?_))
  refine .bind (.read _) fun selected => .ite ?_ (.done _)
  exact .bind (loadQuota_confined may keeps space) fun _ => .done _

end

theorem loadConnection_confined (apart : ∀ session c, view { c with session } = view c) :
    loadConnection.Confined view calls := by
  refine .bind (.requestAll may (by simp [Call.AboutSession])) fun r => ?_
  cases r with
  | error e => exact .bind (confined_onSession apart (.modify fun _ => rfl)) fun _ => .done _
  | ok answers =>
    refine .bind (confined_onSession apart (.update fun _ => rfl)) fun selected => ?_
    refine .bind ?_ fun _ => .done _
    cases selected with
    | none => exact .done _
    | some space =>
      refine loadQuota_confined may (fun connection c => ?_) space
      exact apart { c.session with connection } c

end

theorem authorize_confined
    (keeps : ∀ auth c, view { c with session.auth := auth } = view c) (key : String) :
    (authorize key).Confined view calls :=
  confined_updateSession fun c => keeps _ c

theorem changePreferences_confined
    (keeps : ∀ preferences c, view { c with session.preferences := preferences } = view c)
    (change : Preferences → Preferences) : (changePreferences change).Confined view calls := by
  refine .bind (confined_updateSession fun c => keeps _ c) fun store => ?_
  cases store.place with
  | none => exact .done _
  | some place => exact .save place _

/-! ## Jobs -/

section
variable (keeps : ∀ jobs c, jobs.selected = c.jobs.selected → view { c with jobs } = view c)
variable (load : ∀ (space : Option String) (s : Console),
  s.scope.toFetch = some space → calls (.jobs space) s)
include keeps load

/-- Jobs are loaded for the scope in which the load begins, and only if there is one. The selection
stays as it is. -/
theorem loadJobs_confined : loadJobs.Confined view calls := by
  constructor
  intro s₀ s same
  simp only [loadJobs, bind_eq, obeys_bind, obeys_read]
  cases found : s.scope.toFetch with
  | none => exact same
  | some space =>
    have begun := (keeps (s.jobs.begin s.scope).2 s rfl).trans same
    exact ⟨load space _ found, begun, fun r t _ => keeps _ t rfl⟩

theorem reloadJobs_confined : reloadJobs.Confined view calls :=
  .bind (loadJobs_confined keeps load) fun _ => .done _

variable (may : ∀ c s, c.AboutJobs → calls c s)
include may

theorem deleteJob_confined (job : Job) : (deleteJob job).Confined view calls :=
  .attempt (.request fun s => may (deletion job) s trivial) fun () =>
    .bind (reloadJobs_confined keeps load) fun _ => .done _

omit keeps load in
theorem deleteEach_confined (jobs : List Job) : (deleteEach jobs).Confined view calls := by
  induction jobs with
  | nil => exact .done _
  | cons job rest ih =>
    exact .bind (.request fun s => may (deletion job) s trivial) fun _ => .bind ih fun _ => .done _

omit keeps in
theorem deleteSelected_confined (apart : ∀ jobs c, view { c with jobs } = view c) :
    deleteSelected.Confined view calls :=
  .bind (confined_onJobs apart (.update fun _ => rfl)) fun jobs =>
    .bind (deleteEach_confined may jobs) fun _ =>
      .bind (reloadJobs_confined (fun jobs c _ => apart jobs c) load) fun _ => .done _

end

/-! ## Wizard -/

section
variable (may : ∀ c s, c.AboutChoices → calls c s)
include may

theorem loadLabelCatalogue_confined : loadLabelCatalogue.Confined view calls := by
  refine .attempt (.request fun s => may _ s trivial) fun devices => .ite (.done _) ?_
  exact .attempt (.request fun s => may _ s trivial) fun _ => .done _

/-- That the templates cannot be had is shown, and shown only. -/
theorem loadTemplates_confined
    (fails : ∀ text c, view { c with wizard := c.wizard.fail text } = view c) :
    loadTemplates.Confined view calls := by
  refine .bind (.request fun s => may _ s trivial) fun r => ?_
  cases r with
  | ok templates => exact .done _
  | error e => exact .bind (confined_modifyWizard fun c => fails _ c) fun _ => .done _

theorem loadChoices_confined
    (fails : ∀ text c, view { c with wizard := c.wizard.fail text } = view c)
    (fills : ∀ templates labels c,
      view { c with wizard := c.wizard.edit fun v => { v with templates, labels } } = view c) :
    loadChoices.Confined view calls :=
  .bind (loadTemplates_confined may fails) fun _ =>
    .bind (loadLabelCatalogue_confined may) fun _ => confined_modifyWizard fun c => fills _ _ c

end

theorem finishSubmission_confined
    (keeps : ∀ jobs c, jobs.selected = c.jobs.selected → view { c with jobs } = view c)
    (load : ∀ (space : Option String) (s : Console),
      s.scope.toFetch = some space → calls (.jobs space) s)
    (settles : ∀ result c, view { c with wizard := c.wizard.settle result } = view c)
    (result : Outcome Unit) (success : String) :
    (finishSubmission result success).Confined view calls := by
  refine .bind (confined_modifyWizard fun c => settles _ c) fun _ => ?_
  cases result with
  | ok => exact .bind (reloadJobs_confined keeps load) fun _ => .done _
  | error e => exact .done _

section
variable (marks : ∀ submitting c, view { c with wizard.submitting := submitting } = view c)
variable (settles : ∀ result c, view { c with wizard := c.wizard.settle result } = view c)
variable (jobs : ∀ jobs c, jobs.selected = c.jobs.selected → view { c with jobs } = view c)
variable (load : ∀ (space : Option String) (s : Console),
  s.scope.toFetch = some space → calls (.jobs space) s)
include marks settles jobs load

theorem submitCall_confined {send : Action Console (Outcome Unit)}
    (sends : send.Confined view calls) (success : String) :
    (submitCall send success).Confined view calls := by
  have begins (c : Console) : view { c with wizard := c.wizard.beginSubmission.2 } = view c := by
    unfold Wizard.beginSubmission
    split
    · rfl
    · exact marks true c
  have finishes (result : Outcome Unit) :=
    finishSubmission_confined jobs load settles result success
  refine .attempt (confined_updateWizard begins) fun () => .bind sends fun result => ?_
  refine .bind (finishes result) fun _ => ?_
  exact .bind (confined_modifyWizard fun c => marks false c) fun _ => .done _

theorem submission_confined (may : ∀ c s, c.AboutDeployment → calls c s) (what : Submission) :
    (WizardActivity.submit what).action.Confined view calls := by
  cases what with
  | filledIn =>
    refine .attempt (.read _) fun request => ?_
    exact submitCall_confined marks settles jobs load
      (.request (c := .deploy request) fun s => may _ s trivial) _
  | custom template values defaults =>
    refine .attempt (.read _) fun request => ?_
    exact submitCall_confined marks settles jobs load
      (.request (c := .deployCustom request) fun s => may _ s trivial) _

end

/-! ## Views -/

/-- Services are loaded only once there is a scope to show them in. -/
theorem loadServices_confined (apart : ∀ services c, view { c with services } = view c)
    (load : ∀ s : Console, s.scope.isInitialized = true → calls .services s) :
    loadServices.Confined view calls := by
  constructor
  intro s₀ s same
  simp only [loadServices, bind_eq, obeys_bind, obeys_read]
  by_cases found : s.scope.isInitialized = true
  · rw [if_pos found]
    have begun := (apart s.services.begin.2 s).trans same
    exact ⟨load _ found, begun, fun r t _ => apart _ t⟩
  · rw [if_neg found]
    exact same

theorem loadOverview_confined (apart : ∀ overview c, view { c with overview } = view c)
    (may : ∀ c s, c.AboutUse → calls c s) (count : ∀ space s, calls (.jobs space) s) :
    loadOverview.Confined view calls := by
  refine .bind (confined_onOverview apart (.update fun _ => rfl)) fun _ => ?_
  refine .bind (.read _) fun space => .bind ?_ fun _ => ?_
  · refine .requestAll (k := fun c => c.AboutUse ∨ c = .jobs space) ?_ (by simp [Call.AboutUse])
    rintro c s (about | rfl)
    · exact may c s about
    · exact count space s
  · exact confined_onOverview apart (.update fun _ => rfl)

section
variable (apart : ∀ monitor c, view { c with monitor } = view c)
variable (may : ∀ c s, c.AboutUse → calls c s)
include apart may

theorem loadMonitorDevices_confined : loadMonitorDevices.Confined view calls := by
  refine .bind (confined_onMonitor apart (.update fun _ => rfl)) fun _ => ?_
  refine .bind (.request fun s => may _ s trivial) fun _ => ?_
  exact confined_onMonitor apart (.update fun _ => rfl)

theorem loadUsage_confined (now : Instant) : (loadUsage now).Confined view calls := by
  refine .bind (confined_onMonitor apart (.update fun _ => rfl)) fun _ => ?_
  refine .bind (.read _) fun _ => ?_
  refine .bind (.request fun s => may _ s trivial) fun _ => ?_
  exact confined_onMonitor apart (.update fun _ => rfl)

theorem loadSeries_confined (now : Instant) : (loadSeries now).Confined view calls := by
  refine .bind (confined_onMonitor apart (.update fun _ => rfl)) fun _ => ?_
  refine .bind (.read _) fun _ => ?_
  refine .bind (.request fun s => may _ s trivial) fun _ => ?_
  exact confined_onMonitor apart (.update fun _ => rfl)

theorem refreshMonitor_confined (now : Instant) : (refreshMonitor now).Confined view calls := by
  refine .bind (confined_onMonitor apart (.update fun _ => rfl)) fun _ => ?_
  refine .bind (confined_onMonitor apart (.update fun _ => rfl)) fun _ => ?_
  refine .bind (.read _) fun _ => ?_
  refine .bind (confined_onMonitor apart ?_) fun _ => .done _
  constructor
  intro _ _ _
  refine ⟨⟨fun s => may _ s trivial, fun s => may _ s trivial, rfl⟩, fun _ _ => ?_⟩
  exact ⟨fun _ => ⟨rfl, fun _ _ _ => rfl⟩, fun _ => ⟨rfl, fun _ _ _ => rfl⟩⟩

end

section
variable (apart : ∀ logs c, view { c with logs } = view c)
variable (may : ∀ c s, c.AboutLogs → calls c s)
include apart may

theorem refreshLogs_confined : refreshLogs.Confined view calls := by
  refine .bind (.read _) fun poller => ?_
  cases poller.target with
  | none => exact .done _
  | some target =>
    refine .bind (confined_onLogs apart (.update fun _ => rfl)) fun _ => .bind ?_ fun _ => ?_
    · cases target with
      | job id space pod => exact .request fun s => may _ s trivial
      | services => exact .request fun s => may _ s trivial
    · exact confined_onLogs apart (.update fun _ => rfl)

theorem openLogs_confined (target : LogTarget) (tail : Nat) :
    (openLogs target tail).Confined view calls :=
  .bind (confined_onLogs apart (.modify fun _ => rfl)) fun _ => refreshLogs_confined apart may

end

end Operation

/-! ## Whole parts -/

theorem NodeActivity.confined (apart : ∀ nodes c, view { c with nodes } = view c)
    (may : ∀ c s, c.AboutNodes → calls c s) (a : NodeActivity) :
    a.action.Confined view calls := by
  cases a with
  | load => exact Operation.loadNodes_confined apart may
  | setCordoned node cordoned => exact Operation.setCordoned_confined apart may node cordoned
  | toggleCordon node => exact Operation.toggleCordon_confined apart may node
  | delete node => exact Operation.deleteNode_confined apart may node
  | loadDetail node => exact Operation.loadDetail_confined apart may node
  | addLabel node key value => exact Operation.addLabel_confined apart may node key value

/-- Whether the activity can set the filter of namespaces. -/
def SessionActivity.filters : SessionActivity → Bool
  | loadConnection | selectSpace _ | selectNamespace _ => true
  | _ => false

theorem SessionActivity.confined (may : ∀ c s, c.AboutSession → calls c s)
    (connection : ∀ connection c, view { c with session.connection := connection } = view c)
    (auth : ∀ auth c, view { c with session.auth := auth } = view c)
    (preferences : ∀ preferences c, view { c with session.preferences := preferences } = view c)
    (a : SessionActivity)
    (apart : a.filters = true → ∀ session c, view { c with session } = view c) :
    a.action.Confined view calls := by
  cases a with
  | loadConnection => exact Operation.loadConnection_confined may (apart rfl)
  | selectSpace space =>
    exact .bind (confined_onSession (apart rfl) (.modify fun _ => rfl)) fun _ =>
      Operation.loadQuota_confined may connection space
  | selectNamespace choice => exact confined_onSession (apart rfl) (.update fun _ => rfl)
  | refreshStatus => exact Operation.refreshStatus_confined may connection
  | pauseAgent | resumeAgent =>
    exact .attempt (.request fun s => may _ s trivial) fun () =>
      Operation.refreshStatus_confined may connection
  | setQuota space limits => exact Operation.setQuota_confined may connection space limits
  | authorize key => exact Operation.authorize_confined auth key
  | signOut => exact confined_modifySession fun c => auth {} c
  | setDarkMode darkMode =>
    exact Operation.changePreferences_confined preferences fun p => { p with darkMode }
  | setAccessKey accessKey =>
    exact Operation.changePreferences_confined preferences fun p => { p with accessKey }

section
variable (apart : ∀ jobs c, view { c with jobs } = view c)
variable (load : ∀ (space : Option String) (s : Console),
  s.scope.toFetch = some space → calls (.jobs space) s)
include apart load

theorem JobActivity.confined (may : ∀ c s, c.AboutJobs → calls c s) (a : JobActivity)
    (filter : ∀ choice, a = .setNamespace choice →
      ∀ filter c, view { c with session.filter := filter } = view c) :
    a.action.Confined view calls := by
  have keeps (jobs : JobBoard) (c : Console) (_ : jobs.selected = c.jobs.selected) := apart jobs c
  cases a with
  | load => exact Operation.loadJobs_confined keeps load
  | setNamespace choice =>
    exact .bind (confined_updateSession fun c => filter choice rfl _ c) fun _ =>
      Operation.loadJobs_confined keeps load
  | setPage page => exact confined_onJobs apart (.modify fun _ => rfl)
  | toggleSelect id => exact confined_onJobs apart (.update fun _ => rfl)
  | toggleSelectAll => exact confined_onJobs apart (.modify fun _ => rfl)
  | delete job => exact Operation.deleteJob_confined keeps load may job
  | deleteSelected => exact Operation.deleteSelected_confined load may apart

end

/-! ## Changes of the wizard

Each leaves alone what an edit of the fields that it is about leaves alone. -/

namespace Wizard

variable {g : Wizard → γ} (w : Wizard)

theorem next_keeps (steps : ∀ step, g (w.edit fun v => { v with step }) = g w) :
    g w.next.2 = g w := by
  unfold next
  split
  · rfl
  · exact steps w.view.step.next

theorem complete_keeps
    (loads : ∀ loading form definition error,
      g (w.edit fun v => { v with loading, form, definition, error }) = g w)
    (ticket : Ticket) (r : Outcome TemplateDefinition) : g (w.complete ticket r).2 = g w := by
  unfold complete
  split
  · rfl
  · cases r with
    | ok d => exact loads false (.ofParams d.params) (some d) w.view.error
    | error e => exact loads false w.view.form w.view.definition (some _)

theorem setParam_keeps (forms : ∀ form, g (w.edit fun v => { v with form }) = g w)
    (name raw : String) : g (w.setParam name raw).2 = g w := by
  unfold setParam
  split
  · exact forms _
  · rfl

theorem toggleParam_keeps (forms : ∀ form, g (w.edit fun v => { v with form }) = g w)
    (name : String) : g (w.toggleParam name).2 = g w := by
  unfold toggleParam
  split
  · exact forms _
  · rfl

theorem addTarget_keeps (targets : ∀ targets, g (w.edit fun v => { v with targets }) = g w)
    (text : String) : g (w.addTarget text).2 = g w := by
  unfold addTarget
  split
  · exact targets _
  · rfl

theorem settle_keeps (closes : ∀ isOpen error, g (w.edit fun v => { v with isOpen, error }) = g w)
    (result : Outcome Unit) : g (w.settle result) = g w := by
  cases result with
  | ok => exact closes false none
  | error e => exact closes w.view.isOpen (some e.userMessage)

end Wizard

/-- Whatever an activity of the wizard does that is no submission, the flag stays as it is. -/
theorem WizardActivity.confined
    (edits : ∀ wizard c, wizard.submitting = c.wizard.submitting →
      view { c with wizard } = view c)
    (may : ∀ c s, c.AboutTemplates → calls c s) (a : WizardActivity)
    (submission : ∀ what, a = .submit what → (submit what).action.Confined view calls) :
    a.action.Confined view calls := by
  cases a with
  | reopen =>
    refine .bind (confined_modifyWizard (f := Wizard.reopen) fun c => edits _ c rfl) fun _ => ?_
    exact Operation.loadChoices_confined
      (fun c s about => may c s (Call.aboutTemplates_of_choices about))
      (fun _ c => edits _ c rfl) fun _ _ c => edits _ c rfl
  | close => exact confined_modifyWizard (f := fun w => w.edit _) fun c => edits _ c rfl
  | next => exact confined_updateWizard fun c => edits _ c (c.wizard.next_keeps fun _ => rfl)
  | back => exact confined_updateWizard (f := Wizard.back) fun c => edits _ c rfl
  | select template =>
    refine .bind (confined_updateWizard (f := fun w => w.choose template) fun c => edits _ c rfl)
      fun ticket => .bind (.request fun s => may _ s trivial) fun result => ?_
    refine confined_updateWizard fun c => edits _ c ?_
    exact c.wizard.complete_keeps (fun _ _ _ _ => rfl) ticket result
  | setParam name raw =>
    exact confined_updateWizard fun c => edits _ c (c.wizard.setParam_keeps (fun _ => rfl) name raw)
  | toggleParam name =>
    exact confined_updateWizard fun c => edits _ c (c.wizard.toggleParam_keeps (fun _ => rfl) name)
  | addTarget text =>
    exact confined_updateWizard fun c => edits _ c (c.wizard.addTarget_keeps (fun _ => rfl) text)
  | removeTarget key value =>
    exact confined_modifyWizard (f := fun w => w.removeTarget key value) fun c => edits _ c rfl
  | setMode mode =>
    exact confined_modifyWizard (f := fun w => w.setMode mode) fun c => edits _ c rfl
  | setName name =>
    exact confined_modifyWizard (f := fun w => w.setName name) fun c => edits _ c rfl
  | submit what => exact submission what rfl

theorem ViewActivity.confined
    (services : ∀ services c, view { c with services } = view c)
    (overview : ∀ overview c, view { c with overview } = view c)
    (monitor : ∀ monitor c, view { c with monitor } = view c)
    (logs : ∀ logs c, view { c with logs } = view c)
    (load : ∀ s : Console, s.scope.isInitialized = true → calls .services s)
    (may : ∀ c s, c.AboutViews → calls c s) (a : ViewActivity)
    (count : a = .loadOverview → ∀ space s, calls (.jobs space) s) :
    a.action.Confined view calls := by
  have use (c : Call) (s : Console) (about : c.AboutUse) := may c s (Call.aboutViews_of_use about)
  have fetch (c : Call) (s : Console) (about : c.AboutLogs) :=
    may c s (Call.aboutViews_of_logs about)
  cases a with
  | loadServices => exact Operation.loadServices_confined services load
  | loadOverview => exact Operation.loadOverview_confined overview use (count rfl)
  | loadMonitorDevices => exact Operation.loadMonitorDevices_confined monitor use
  | loadUsage now => exact Operation.loadUsage_confined monitor use now
  | loadSeries now => exact Operation.loadSeries_confined monitor use now
  | refreshMonitor now => exact Operation.refreshMonitor_confined monitor use now
  | applyFilters filters now =>
    exact .bind (confined_onMonitor monitor (.modify fun _ => rfl)) fun _ =>
      Operation.refreshMonitor_confined monitor use now
  | refreshLogs => exact Operation.refreshLogs_confined logs fetch
  | openLogs target tail => exact Operation.openLogs_confined logs fetch target tail
  | setTail => exact confined_onLogs logs (.modify fun _ => rfl)
  | closeLogs => exact confined_onLogs logs (.modify fun _ => rfl)

/-- What an activity that is none of the wizard does leaves the wizard alone. -/
theorem Activity.confined_wizard {g : Wizard → γ} (a : Activity)
    (wizard : ∀ b, a = .wizard b →
      b.action.Confined (fun c : Console => g c.wizard) fun _ _ => True) :
    a.action.Confined (fun c : Console => g c.wizard) fun _ _ => True := by
  have may {k : Call → Prop} (c : Call) (_ : Console) (_ : k c) : True := trivial
  cases a with
  | session a =>
    exact SessionActivity.confined may (fun _ _ => rfl) (fun _ _ => rfl) (fun _ _ => rfl) a
      fun _ _ _ => rfl
  | jobs a =>
    exact JobActivity.confined (fun _ _ => rfl) (fun _ _ _ => trivial) may a fun _ _ _ _ => rfl
  | wizard b => exact wizard b rfl
  | nodes a => exact NodeActivity.confined (fun _ _ => rfl) may a
  | views a =>
    exact ViewActivity.confined (fun _ _ => rfl) (fun _ _ => rfl) (fun _ _ => rfl) (fun _ _ => rfl)
      (fun _ _ => trivial) may a fun _ _ _ => trivial

end PoolConsole
