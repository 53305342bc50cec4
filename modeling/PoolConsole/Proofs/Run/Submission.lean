import PoolConsole.Proofs.Run.Frame
import PoolConsole.Proofs.Run.Sequence

/-!
A submission of the wizard, from its beginning to what follows the answer of the pool.

* `Submits`: how a submission begins. It is refused, or it takes the flag and makes its one call.
* `Deploying`: the rest of a submission that awaits the answer to its call.
* `Deploying.takes`: the answer is taken over into what the wizard shows at that moment, which the
  submission leaves alone from then on.
-/

namespace PoolConsole

open PoolConsole.Action Console Operation

def Call.deploys : Call → Bool
  | .deploy _ | .deployCustom _ => true
  | _ => false

def Reply.deployed? : Reply → Option (Outcome Unit)
  | ⟨.deploy _, r⟩ => some r
  | ⟨.deployCustom _, r⟩ => some r
  | _ => none

theorem Reply.deployed?_of_quiet {reply : Reply} (quiet : reply.call.deploys = false) :
    reply.deployed? = none := by
  obtain ⟨c, r⟩ := reply
  cases c with
  | deploy | deployCustom => cases quiet
  | _ => rfl

def Activity.submits : Activity → Bool
  | .wizard (.submit _) => true
  | _ => false

theorem Activity.exists_of_submits {a : Activity} (submits : a.submits = true) :
    ∃ what, a = .wizard (.submit what) := by
  cases a with
  | wizard a =>
    cases a with
    | submit what => exact ⟨what, rfl⟩
    | _ => cases submits
  | _ => cases submits

/-- A submission is refused before it does anything. -/
def PoolError.Refuses : PoolError → Prop
  | .validation _ | .busy _ => True
  | _ => False

namespace Console

def hold (c : Console) : Console :=
  { c with wizard.submitting := true }

def settle (c : Console) (result : Outcome Unit) : Console :=
  { c with wizard := c.wizard.settle result }

end Console

inductive Submits (s : Console) : Submission → List (Issue Console) →
    Action Console (Outcome Notice) → Console → Prop where
  | refused (what : Submission) (e : PoolError) :
      e.Refuses → Submits s what [] (.done (.error e)) s
  | filledIn (request : DeployRequest) (success : String) :
      s.wizard.submitting = false → s.wizard.request s.scope = .ok request →
      Submits s .filledIn [⟨.deploy request, s.hold⟩]
        (.call (.deploy request) fun r => concludeSubmission r success) s.hold
  | custom {template : String} {values : Members} {defaults : Option Members}
      (request : CustomDeployRequest) (success : String) :
      s.wizard.submitting = false →
      s.wizard.customRequest s.scope template values defaults = .ok request →
      Submits s (.custom template values defaults) [⟨.deployCustom request, s.hold⟩]
        (.call (.deployCustom request) fun r => concludeSubmission r success) s.hold

namespace Wizard

theorem beginSubmission_of_held {w : Wizard} (held : w.submitting = true) :
    w.beginSubmission = (.error (.busy "deployment already being submitted"), w) := by
  unfold beginSubmission
  exact if_pos held

theorem beginSubmission_of_free {w : Wizard} (free : w.submitting = false) :
    w.beginSubmission = (.ok (), { w with submitting := true }) := by
  unfold beginSubmission
  exact if_neg (by simp [free])

end Wizard

theorem Wizard.request_eq_ok_iff {w : Wizard} {scope : Scope} {request : DeployRequest} :
    w.request scope = .ok request ↔
      Text.lower (Text.trim w.view.name) ≠ "" ∧ ∃ template, w.view.template = some template ∧
        request = {
          name := Text.lower (Text.trim w.view.name), template
          values := w.view.form.toValues
          space := scope.forced
          targets := w.targets?
          mode := w.targets?.map fun _ => w.view.mode } := by
  simp only [Wizard.request]
  by_cases unnamed : Text.lower (Text.trim w.view.name) = ""
  · simp only [if_pos unnamed, reduceCtorEq, false_iff]
    exact fun named => named.1 unnamed
  · rw [if_neg unnamed]
    cases w.view.template with
    | none => simp
    | some template =>
      simp only [Except.ok.injEq, Option.some.injEq]
      constructor
      · rintro rfl
        exact ⟨unnamed, template, rfl, rfl⟩
      · rintro ⟨-, _, rfl, rfl⟩
        rfl

theorem refuses_request {w : Wizard} {scope : Scope} {e : PoolError}
    (h : w.request scope = .error e) : e.Refuses := by
  simp only [Wizard.request] at h
  split at h
  next =>
    obtain rfl := Except.error.inj h
    trivial
  next =>
    cases chosen : w.view.template with
    | none =>
      rw [chosen] at h
      obtain rfl := Except.error.inj h
      trivial
    | some template =>
      rw [chosen] at h
      exact nomatch h

theorem refuses_customRequest {w : Wizard} {scope : Scope} {template : String} {values : Members}
    {defaults : Option Members} {e : PoolError}
    (h : w.customRequest scope template values defaults = .error e) : e.Refuses := by
  unfold Wizard.customRequest at h
  split at h
  · cases h
    trivial
  · cases h

section
variable {s t : Console} {issues : List (Issue Console)} {x : Action Console (Outcome Notice)}

theorem advances_submitCall {send : Action Console (Outcome Unit)} {success : String}
    (h : (submitCall send success).Advances s issues x t) :
    (issues = [] ∧ x = .done (.error (.busy "deployment already being submitted")) ∧ t = s) ∨
    (s.wizard.submitting = false ∧
      (send.bind fun r => concludeSubmission r success).Advances s.hold issues x t) := by
  simp only [submitCall, attempt, onWizard, advances_update_bind] at h
  cases held : s.wizard.submitting with
  | true =>
    rw [Wizard.beginSubmission_of_held held] at h
    exact .inl ((advances_done _).mp h)
  | false =>
    rw [Wizard.beginSubmission_of_free held] at h
    exact .inr ⟨rfl, h⟩

theorem advances_submission {what : Submission}
    (h : (WizardActivity.submit what).action.Advances s issues x t) :
    Submits s what issues x t := by
  cases what with
  | filledIn =>
    simp only [WizardActivity.action, submit, attempt, advances_read_bind] at h
    cases found : s.wizard.request s.scope with
    | error e =>
      rw [found] at h
      obtain ⟨rfl, rfl, rfl⟩ := (advances_done _).mp h
      exact .refused _ e (refuses_request found)
    | ok request =>
      rw [found] at h
      rcases advances_submitCall h with ⟨rfl, rfl, rfl⟩ | ⟨free, run⟩
      · exact .refused _ _ trivial
      · simp only [Action.request, Action.bind, advances_call] at run
        obtain ⟨rfl, rfl, rfl⟩ := run
        exact .filledIn request _ free found
  | custom template values defaults =>
    simp only [WizardActivity.action, submitCustom, attempt, advances_read_bind] at h
    cases found : s.wizard.customRequest s.scope template values defaults with
    | error e =>
      rw [found] at h
      obtain ⟨rfl, rfl, rfl⟩ := (advances_done _).mp h
      exact .refused _ e (refuses_customRequest found)
    | ok request =>
      rw [found] at h
      rcases advances_submitCall h with ⟨rfl, rfl, rfl⟩ | ⟨free, run⟩
      · exact .refused _ _ trivial
      · simp only [Action.request, Action.bind, advances_call] at run
        obtain ⟨rfl, rfl, rfl⟩ := run
        exact .custom request _ free found

inductive Deploying : Action Console (Outcome Notice) → Prop where
  | filledIn (request : DeployRequest) (success : String) :
      Deploying (.call (.deploy request) fun r => concludeSubmission r success)
  | custom (request : CustomDeployRequest) (success : String) :
      Deploying (.call (.deployCustom request) fun r => concludeSubmission r success)

/-- A submission takes over its answer and then leaves what the wizard shows alone. -/
theorem advances_concludeSubmission {result : Outcome Unit} {success : String}
    (h : (concludeSubmission result success).Advances s issues x t) :
    Keeps (·.wizard.view) (·.deploys = false) (s.settle result) issues x t := by
  have reloads : reloadJobs.Confined (·.wizard.view) fun c _ => c.deploys = false :=
    reloadJobs_confined (fun _ _ _ => rfl) fun _ _ _ => rfl
  simp only [concludeSubmission, finishSubmission, bind_eq, bind_assoc, onWizard,
    advances_modify_bind] at h
  refine Confined.keeps ?_ h
  refine .bind ?_ fun answer => .bind (confined_modifyWizard fun _ => rfl) fun _ => .done _
  cases result with
  | ok => exact .bind reloads fun _ => .done _
  | error e => exact .done _

theorem Deploying.takes {y : Action Console (Outcome Notice)} {reply : Reply}
    (deploying : Deploying x) (takes : x.Takes s reply issues y t) :
    ∃ r, reply.deployed? = some r ∧
      Keeps (·.wizard.view) (·.deploys = false) (s.settle r) issues y t := by
  cases deploying with
  | filledIn request success =>
    obtain ⟨r, rfl, run⟩ := (takes_call _ _ _).mp takes
    exact ⟨r, rfl, advances_concludeSubmission run⟩
  | custom request success =>
    obtain ⟨r, rfl, run⟩ := (takes_call _ _ _).mp takes
    exact ⟨r, rfl, advances_concludeSubmission run⟩

end

end PoolConsole
