import PoolConsole.Proofs.Run.Frame
import PoolConsole.Proofs.Run.History

namespace PoolConsole

open PoolConsole.Action Console

def Activity.opens : Activity → Bool
  | .wizard .reopen => true
  | _ => false

def Moment.Opens (m : Moment) : Prop :=
  m.begins = true ∧ m.activity.opens = true

/-- The wizard has been opened afresh since the activity of a number began. -/
def Reopened (h : List Moment) (n : Nat) : Prop :=
  ∃ m ∈ h, m.Opens ∧ n < m.strand

namespace Wizard

def catalogue (w : Wizard) : List TemplateSummary × List String :=
  (w.view.templates, w.view.labels)

def offer (w : Wizard) (choices : List TemplateSummary × List String) : Wizard :=
  w.edit fun v => { v with templates := choices.1, labels := choices.2 }

def failTemplates (w : Wizard) (e : PoolError) : Wizard :=
  w.fail ("Failed to load templates: " ++ e.userMessage)

end Wizard

namespace Operation

/-- The labels are loaded, and offered together with the templates. -/
def labelling (templates : List TemplateSummary) : Action Console Unit :=
  loadLabelCatalogue.bind fun labels =>
    onWizard (.modify fun w => w.offer (templates, labels.toOption.getD []))

/-- The labels of some nodes are loaded, and offered together with the templates. -/
def naming (templates : List TemplateSummary) (nodes : List String) : Action Console Unit :=
  ((Action.request (.labels nodes)).attempt fun labels => .done (.ok labels.catalogue)).bind
    fun labels => onWizard (.modify fun w => w.offer (templates, labels.toOption.getD []))

end Operation

open Operation

section
variable {s t : Console} {reply : Reply} {issues : List (Issue Console)} {y : Action Console Unit}
  {templates : List TemplateSummary}

theorem advances_openWizard (h : openWizard.Advances s issues y t) :
    loadChoices.Advances { s with wizard := s.wizard.reopen } issues y t := by
  simpa only [openWizard, onWizard, bind_eq, advances_modify_bind] using h

theorem advances_offer {choices : List TemplateSummary × List String}
    (h : (onWizard (.modify fun w => w.offer choices)).Advances s issues y t) :
    y = .done () ∧ t = { s with wizard := s.wizard.offer choices } := by
  simp only [onWizard, Action.modify, onPart, advances_get, advances_set, advances_done] at h
  exact h.2

theorem advances_loadChoices (h : loadChoices.Advances s issues y t) : y = loadChoices ∧ t = s :=
  ((advances_call Call.templates _).mp h).2

theorem advances_labelling (h : (labelling templates).Advances s issues y t) :
    y = labelling templates ∧ t = s :=
  ((advances_call Call.devices _).mp h).2

theorem advances_naming {nodes : List String} (h : (naming templates nodes).Advances s issues y t) :
    y = naming templates nodes ∧ t = s :=
  ((advances_call (Call.labels nodes) _).mp h).2

theorem takes_loadChoices (h : loadChoices.Takes s reply issues y t) :
    ∃ r, reply = ⟨.templates, r⟩ ∧ y = labelling (r.toOption.getD []) ∧
      t.wizard = match r with
        | .ok _ => s.wizard
        | .error e => s.wizard.failTemplates e := by
  obtain ⟨r, rfl, run⟩ := (takes_call Call.templates _ reply).mp h
  refine ⟨r, rfl, ?_⟩
  cases r with
  | ok templates =>
    obtain ⟨rfl, rfl⟩ := advances_labelling run
    exact ⟨rfl, rfl⟩
  | error e =>
    have run : ((onWizard (.modify fun w => w.failTemplates e)).bind fun _ => labelling []).Advances
        s issues y t := run
    rw [onWizard, advances_modify_bind] at run
    obtain ⟨rfl, rfl⟩ := advances_labelling run
    exact ⟨rfl, rfl⟩

theorem takes_labelling (h : (labelling templates).Takes s reply issues y t) :
    ∃ r, reply = ⟨.devices, r⟩ ∧
      ((∃ nodes, y = naming templates nodes ∧ t = s) ∨
        (y = .done () ∧ t = { s with wizard := s.wizard.offer (templates, []) })) := by
  obtain ⟨r, rfl, run⟩ := (takes_call Call.devices _ reply).mp h
  refine ⟨r, rfl, ?_⟩
  cases r with
  | error e => exact .inr (advances_offer run)
  | ok devices =>
    cases devices with
    | nil => exact .inr (advances_offer run)
    | cons d ds =>
      have run : (naming templates ((d :: ds : List Device).map (·.name))).Advances s issues y t :=
        run
      exact .inl ⟨_, advances_naming run⟩

theorem takes_naming {nodes : List String} (h : (naming templates nodes).Takes s reply issues y t) :
    ∃ r : Outcome NodeLabels, reply = ⟨.labels nodes, r⟩ ∧ y = .done () ∧
      t = { s with
        wizard := s.wizard.offer (templates, (r.toOption.map NodeLabels.catalogue).getD []) } := by
  obtain ⟨r, rfl, run⟩ := (takes_call (Call.labels nodes) _ reply).mp h
  refine ⟨r, rfl, ?_⟩
  cases r with
  | ok labels => exact advances_offer run
  | error e => exact advances_offer run

end

theorem confined_catalogue (a : Activity) (other : a.opens = false) :
    a.action.Confined (·.wizard.catalogue) fun _ _ => True := by
  refine a.confined_wizard fun b is => ?_
  subst is
  cases b with
  | reopen => cases other
  | close => exact confined_modifyWizard (f := fun w => w.edit _) fun _ => rfl
  | next => exact confined_updateWizard fun c => c.wizard.next_keeps fun _ => rfl
  | back => exact confined_updateWizard (f := Wizard.back) fun _ => rfl
  | select template =>
    refine .bind (confined_updateWizard (f := fun w => w.choose template) fun _ => rfl)
      fun ticket => .bind (.request fun _ => trivial) fun result => ?_
    exact confined_updateWizard fun c => c.wizard.complete_keeps (fun _ _ _ _ => rfl) ticket result
  | setParam name raw =>
    exact confined_updateWizard fun c => c.wizard.setParam_keeps (fun _ => rfl) name raw
  | toggleParam name =>
    exact confined_updateWizard fun c => c.wizard.toggleParam_keeps (fun _ => rfl) name
  | addTarget text =>
    exact confined_updateWizard fun c => c.wizard.addTarget_keeps (fun _ => rfl) text
  | removeTarget key value =>
    exact confined_modifyWizard (f := fun w => w.removeTarget key value) fun _ => rfl
  | setMode mode => exact confined_modifyWizard (f := fun w => w.setMode mode) fun _ => rfl
  | setName name => exact confined_modifyWizard (f := fun w => w.setName name) fun _ => rfl
  | submit what =>
    exact Operation.submission_confined (fun _ _ => rfl)
      (fun r c => c.wizard.settle_keeps (fun _ _ => rfl) r) (fun _ _ _ => rfl)
      (fun _ _ _ => trivial) (fun _ _ _ => trivial) what

end PoolConsole
