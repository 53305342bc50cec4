import PoolConsole.Operation.Jobs

namespace PoolConsole.Operation

open Console

/-- The labels that the nodes of the pool carry. Without nodes there is nothing to ask for. -/
def loadLabelCatalogue : Action Console (Outcome (List String)) :=
  (Action.request .devices).attempt fun devices =>
    if devices.isEmpty then return .ok []
    else (Action.request (.labels (devices.map (·.name)))).attempt fun labels =>
      return .ok labels.catalogue

/-- The templates to choose from; where they cannot be had, the wizard says so and offers none. -/
def loadTemplates : Action Console (List TemplateSummary) := do
  match ← .request .templates with
  | .ok templates => return templates
  | .error e =>
    onWizard (.modify fun w => w.fail ("Failed to load templates: " ++ e.userMessage))
    return []

/-- Loads the templates and the labels that there are to choose from. -/
def loadChoices : Action Console Unit := do
  let templates ← loadTemplates
  let labels ← loadLabelCatalogue
  onWizard (.modify fun w =>
    w.edit fun v => { v with templates, labels := labels.toOption.getD [] })

/-- Opens the wizard and loads what there is to choose from. -/
def openWizard : Action Console Unit := do
  onWizard (.modify Wizard.reopen)
  loadChoices

/-- Closes the wizard; whatever is under way goes on. -/
def closeWizard : Action Console Unit :=
  onWizard (.modify fun w => w.edit fun v => { v with isOpen := false })

/-- Chooses a template and loads its definition. -/
def selectTemplate (name : String) : Action Console (Outcome LoadOutcome) := do
  let ticket ← onWizard (.update fun w => w.choose name)
  let result ← .request (.template name)
  onWizard (.update fun w => w.complete ticket result)

/-- What follows a submission that the pool has answered. Once accepted it has succeeded, whether or
not the jobs can be read back. -/
def finishSubmission (result : Outcome Unit) (success : String) :
    Action Console (Outcome Notice) := do
  onWizard (.modify fun w => w.settle result)
  match result with
  | .ok () =>
    reloadJobs
    return .ok (.success success)
  | .error e => return .error e

/-- Finishes a submission, after which another one can begin. -/
def concludeSubmission (result : Outcome Unit) (success : String) :
    Action Console (Outcome Notice) := do
  let answer ← finishSubmission result success
  onWizard (.modify Wizard.endSubmission)
  return answer

/-- Makes the one call of a submission, if none is under way. -/
def submitCall (send : Action Console (Outcome Unit)) (success : String) :
    Action Console (Outcome Notice) :=
  (onWizard (.update Wizard.beginSubmission)).attempt fun () => do
    let result ← send
    concludeSubmission result success

/-- Deploys the job that the wizard has been filled in for. -/
def submit : Action Console (Outcome Notice) :=
  (Action.read fun c => c.wizard.request c.scope).attempt fun request =>
    submitCall (.request (.deploy request)) ("Job \"" ++ request.name ++ "\" submitted")

/-- Deploys the text of a template where the wizard points to. -/
def submitCustom (template : String) (values : Members) (defaults : Option Members) :
    Action Console (Outcome Notice) :=
  (Action.read fun c => c.wizard.customRequest c.scope template values defaults).attempt
    fun request => submitCall (.request (.deployCustom request)) "Custom job submitted"

end PoolConsole.Operation
