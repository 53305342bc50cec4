import PoolConsole.Namespace
import PoolConsole.Panel
import PoolConsole.Pool.Deployment
import PoolConsole.Template.Form
import PoolConsole.Text.Lower

namespace PoolConsole

inductive WizardStep where
  | selectTemplate
  | selectTargets
  | setParameters
  deriving DecidableEq, Repr, Inhabited

namespace WizardStep

def index : WizardStep → Nat
  | .selectTemplate => 0
  | .selectTargets => 1
  | .setParameters => 2

def title : WizardStep → String
  | .selectTemplate => "Select template"
  | .selectTargets => "Select targets"
  | .setParameters => "Set parameters"

def next : WizardStep → WizardStep
  | .selectTemplate => .selectTargets
  | _ => .setParameters

def back : WizardStep → WizardStep
  | .setParameters => .selectTargets
  | _ => .selectTemplate

end WizardStep

structure WizardView where
  isOpen : Bool := false
  step : WizardStep := .selectTemplate
  templates : List TemplateSummary := []
  /-- The labels to choose from. -/
  labels : List String := []
  template : Option String := none
  definition : Option TemplateDefinition := none
  /-- Whether the definition of the chosen template is on its way. -/
  loading : Bool := false
  form : ParameterForm := {}
  targets : TargetLabels := ∅
  mode : LabelMode := .all
  name : String := ""
  error : Option String := none
  deriving Inhabited

structure Wizard where
  view : WizardView := {}
  /-- The generation of the latest choice of a template. -/
  chosen : Nat := 0
  submitting : Bool := false
  deriving Inhabited

namespace Wizard

/-- Opens the wizard afresh; a definition that is on its way will be dropped. -/
def reopen (w : Wizard) : Wizard :=
  { w with chosen := w.chosen + 1, view := { isOpen := true } }

/-- Changes what the wizard shows. -/
def edit (w : Wizard) (change : WizardView → WizardView) : Wizard :=
  { w with view := change w.view }

def fail (w : Wizard) (text : String) : Wizard :=
  w.edit fun v => { v with error := some text }

/-! ## Steps -/

def next (w : Wizard) : Outcome WizardStep × Wizard :=
  if w.view.step = .selectTemplate ∧ w.view.template = none then
    (.error (.notReady "Select a template first"), w)
  else (.ok w.view.step.next, w.edit fun v => { v with step := v.step.next })

def back (w : Wizard) : WizardStep × Wizard :=
  (w.view.step.back, w.edit fun v => { v with step := v.step.back })

/-! ## The template -/

/-- Chooses a template, of which nothing is known yet. -/
def choose (w : Wizard) (name : String) : Ticket × Wizard :=
  (⟨w.chosen + 1⟩,
    { w with
      chosen := w.chosen + 1
      view := { w.view with
        template := some name, definition := none, form := {}, loading := true } })

/-- The definition asked for with the ticket has arrived. -/
def complete (w : Wizard) (ticket : Ticket) (result : Outcome TemplateDefinition) :
    Outcome LoadOutcome × Wizard :=
  if ticket.generation ≠ w.chosen then (.ok .stale, w)
  else match result with
    | .ok definition =>
      (.ok .applied, w.edit fun v =>
        { v with
          loading := false, form := .ofParams definition.params, definition := some definition })
    | .error e =>
      (.error e, w.edit fun v =>
        { v with loading := false, error := some ("Failed to load template: " ++ e.userMessage) })

def setParam (w : Wizard) (name raw : String) : Outcome Unit × Wizard :=
  match w.view.form.setInput name raw with
  | .ok form => (.ok (), w.edit fun v => { v with form })
  | .error e => (.error e, w)

def toggleParam (w : Wizard) (name : String) : Outcome Bool × Wizard :=
  match w.view.form.toggle name with
  | .ok (b, form) => (.ok b, w.edit fun v => { v with form })
  | .error e => (.error e, w)

/-! ## Targets -/

/-- Adds a label that is written `key: value`. -/
def addTarget (w : Wizard) (text : String) : Outcome Unit × Wizard :=
  match TargetLabels.readLabel text with
  | .ok (key, value) => (.ok (), w.edit fun v => { v with targets := v.targets.add key value })
  | .error e => (.error e, w)

def removeTarget (w : Wizard) (key value : String) : Wizard :=
  w.edit fun v => { v with targets := v.targets.remove key value }

def setMode (w : Wizard) (mode : LabelMode) : Wizard :=
  w.edit fun v => { v with mode }

def setName (w : Wizard) (name : String) : Wizard :=
  w.edit fun v => { v with name }

/-! ## Submission -/

/-- The target labels of a request, which has none rather than an empty map. -/
def targets? (w : Wizard) : Option TargetLabels :=
  if w.view.targets.isEmpty then none else some w.view.targets

/-- The request that the wizard has been filled in for. -/
def request (w : Wizard) (scope : Scope) : Outcome DeployRequest :=
  let name := Text.lower (Text.trim w.view.name)
  if name = "" then .error (.validation "Job name is required")
  else match w.view.template with
    | none => .error (.validation "Select a template first")
    | some template =>
      .ok {
        name, template
        values := w.view.form.toValues
        space := scope.forced
        targets := w.targets?
        mode := w.targets?.map fun _ => w.view.mode }

/-- A request to deploy the text of a template where the wizard points to. -/
def customRequest (w : Wizard) (scope : Scope) (template : String) (values : Members)
    (defaults : Option Members) : Outcome CustomDeployRequest :=
  if Text.isBlankText template then .error (.validation "Template is required")
  else .ok { template, values, space := scope.forced, defaults, targets := w.targets? }

/-- Begins a submission, unless one is under way. -/
def beginSubmission (w : Wizard) : Outcome Unit × Wizard :=
  if w.submitting then (.error (.busy "deployment already being submitted"), w)
  else (.ok (), { w with submitting := true })

/-- Takes over what became of a submission: a successful one closes the wizard. -/
def settle (w : Wizard) : Outcome Unit → Wizard
  | .ok () => w.edit fun v => { v with isOpen := false, error := none }
  | .error e => w.fail e.userMessage

def endSubmission (w : Wizard) : Wizard :=
  { w with submitting := false }

end Wizard

end PoolConsole
