import PoolConsole.Proofs.Run.JobTranscripts
import PoolConsole.Proofs.Run.Submission

namespace PoolConsole

open PoolConsole.Action Console Operation

/-- The call that a submission is for, if the wizard is filled in for one. -/
def Submission.call (c : Console) : Submission → Outcome Call
  | .filledIn => (c.wizard.request c.scope).map .deploy
  | .custom template values defaults =>
    (c.wizard.customRequest c.scope template values defaults).map .deployCustom

namespace Console

/-- The console with an error that the wizard shows. -/
def complaining (c : Console) (text : String) : Console :=
  { c with wizard.view.error := some text }

def submitted (c : Console) : Console :=
  { c with wizard.view := { c.wizard.view with isOpen := false, error := none } }

def release (c : Console) : Console :=
  { c with wizard := c.wizard.endSubmission }

variable {c : Console}

/-- A flag that is taken and given back is as it was before. -/
theorem release_hold (free : c.wizard.submitting = false) : c.hold.release = c := by
  obtain ⟨_, _, ⟨_, _, submitting⟩, _⟩ := c
  obtain rfl : submitting = false := free
  rfl

end Console

variable {κ : Type}

/-- What follows the answer to the call of a submission: its value, the console that it leaves, and
the replies to further calls. -/
inductive Concludes (c : Console) :
    Outcome Unit → Outcome Notice → Console → List Reply → Prop where
  | rejected (e : PoolError) :
      Concludes c (.error e) (.error e) (c.complaining e.userMessage) []
  | unscoped (notice : Notice) :
      c.scope.toFetch = none → Concludes c (.ok ()) (.ok notice) c.submitted []
  | reloaded (notice : Notice) (space : Option String) (answer : Outcome (List Job)) :
      c.scope.toFetch = some space →
      Concludes c (.ok ()) (.ok notice) { c.submitted with jobs := c.jobs.loaded c.scope answer }
        [⟨.jobs space, answer⟩]

inductive SubmissionEnd (what : Submission) (c : Console) :
    Transcript κ Console (Outcome Notice) → Prop where
  | refused (e : PoolError) (left : κ) :
      e.Refuses → c.wizard.submitting = true ∨ what.call c = .error e →
      SubmissionEnd what c ⟨.error e, c, left, []⟩
  | answered (reply : Reply) {r : Outcome Unit} {value : Outcome Notice} {state : Console}
      (left : κ) {rest : List Reply} :
      c.wizard.submitting = false → what.call c = .ok reply.call → reply.deployed? = some r →
      Concludes c r value state rest → SubmissionEnd what c ⟨value, state, left, reply :: rest⟩

namespace Handler

variable (h : Handler (StateM κ)) (c : Console) (k : κ)

theorem transcript_onWizard {α : Type} (x : Action Wizard α) :
    h.transcript (onWizard x) c k =
      let wizard := h.transcript x c.wizard k
      { wizard with state := { c with wizard := wizard.state } } :=
  h.transcript_onPart Console.wizard (fun wizard c => { c with wizard }) (fun _ _ => rfl)
    (fun _ _ _ => rfl) (fun _ => rfl) x c k

theorem transcript_conclude_rejected (e : PoolError) (success : String) :
    h.transcript (concludeSubmission (.error e) success) c k =
      ⟨.error e, (c.complaining e.userMessage).release, k, []⟩ :=
  rfl

theorem transcript_conclude_accepted (success : String) :
    h.transcript (concludeSubmission (.ok ()) success) c k =
      let reload := h.transcript loadJobs c.submitted k
      { reload with
        value := .ok (.success success)
        state := reload.state.release } := by
  simp only [concludeSubmission, finishSubmission, bind_eq, bind_assoc, transcript_bind,
    transcript_onWizard, transcript_modify, transcript_reloadJobs, pure_eq, transcript_done,
    Transcript.after, List.nil_append, List.append_nil]
  rfl

/-- What follows the call of a submission that holds the flag. -/
theorem conclusion_end {what : Submission} {reply : Reply} {r : Outcome Unit}
    (free : c.wizard.submitting = false) (asked : what.call c = .ok reply.call)
    (answered : reply.deployed? = some r) (success : String) :
    SubmissionEnd what c
      ((h.transcript (concludeSubmission r success) c.hold k).after [reply]) := by
  have returned : c.hold.release = c := release_hold free
  cases r with
  | error e =>
    have state : (c.hold.complaining e.userMessage).release = c.complaining e.userMessage :=
      congrArg (complaining · e.userMessage) returned
    rw [transcript_conclude_rejected, state]
    exact .answered reply k free asked answered (.rejected e)
  | ok =>
    rw [transcript_conclude_accepted]
    cases scope : c.scope.toFetch with
    | none =>
      have state : c.hold.submitted.release = c.submitted := congrArg submitted returned
      rw [h.transcript_loadJobs_of_pending k (c := c.hold.submitted) scope]
      simp only [state]
      exact .answered reply k free asked answered (.unscoped _ scope)
    | some space =>
      have state (jobs : JobBoard) : { c.hold.submitted with jobs }.release =
          { c.submitted with jobs } :=
        congrArg (fun c : Console => { c.submitted with jobs }) returned
      rw [h.transcript_loadJobs k (c := c.hold.submitted) scope]
      simp only [state]
      exact .answered reply _ free asked answered (.reloaded _ space _ scope)

/-- A submission that has been checked takes the flag and makes its call. -/
theorem submitCall_end {what : Submission} {send : Action Console (Outcome Unit)} {call : Call}
    (asked : what.call c = .ok call)
    (sends : ∀ s, ∃ reply r left, reply.call = call ∧ reply.deployed? = some r ∧
      h.transcript send s k = ⟨r, s, left, [reply]⟩)
    (success : String) :
    SubmissionEnd what c (h.transcript (submitCall send success) c k) := by
  simp only [submitCall, attempt, bind_eq, transcript_bind, transcript_onWizard, transcript_update]
  cases held : c.wizard.submitting with
  | true =>
    rw [Wizard.beginSubmission_of_held held]
    exact .refused _ k trivial (.inl held)
  | false =>
    rw [Wizard.beginSubmission_of_free held]
    change SubmissionEnd what c
      (h.transcript (send.bind fun r => concludeSubmission r success) c.hold k)
    obtain ⟨reply, r, left, rfl, answered, sent⟩ := sends c.hold
    rw [transcript_bind, sent]
    exact h.conclusion_end c left held asked answered success

theorem submission_end (what : Submission) :
    SubmissionEnd what c (h.transcript (Activity.wizard (.submit what)).action c k) := by
  cases what with
  | filledIn =>
    change SubmissionEnd .filledIn c (h.transcript submit c k)
    simp only [submit, attempt, transcript_bind, transcript_read]
    have asked : Submission.filledIn.call c = (c.wizard.request c.scope).map .deploy := rfl
    cases found : c.wizard.request c.scope with
    | error e =>
      rw [found] at asked
      exact .refused e k (refuses_request found) (.inr asked)
    | ok request =>
      rw [found] at asked
      refine h.submitCall_end c k asked (fun s => ?_) _
      exact ⟨⟨.deploy request, (h.answer _ k).1⟩, _, _, rfl, rfl, rfl⟩
  | custom template values defaults =>
    change SubmissionEnd _ c (h.transcript (submitCustom template values defaults) c k)
    simp only [submitCustom, attempt, transcript_bind, transcript_read]
    have asked : (Submission.custom template values defaults).call c =
        (c.wizard.customRequest c.scope template values defaults).map .deployCustom := rfl
    cases found : c.wizard.customRequest c.scope template values defaults with
    | error e =>
      rw [found] at asked
      exact .refused e k (refuses_customRequest found) (.inr asked)
    | ok request =>
      rw [found] at asked
      refine h.submitCall_end c k asked (fun s => ?_) _
      exact ⟨⟨.deployCustom request, (h.answer _ k).1⟩, _, _, rfl, rfl, rfl⟩

end Handler

/-- What becomes of a submission that nothing comes between, by the replies of the pool. -/
structure SubmissionOutcome (what : Submission) (c : Console)
    (t : Transcript κ Console (Outcome Notice)) : Prop where
  /-- Without a request, or with another submission under way, nothing is asked and nothing
  changes. -/
  refused : c.wizard.submitting = true ∨ (∃ e, what.call c = .error e) →
    t.replies = [] ∧ t.state = c ∧ ∃ e, e.Refuses ∧ t.value = .error e
  /-- Otherwise the pool is asked to deploy, once. -/
  asked : ∀ call, c.wizard.submitting = false → what.call c = .ok call →
    ∃ reply rest r, t.replies = reply :: rest ∧ reply.call = call ∧ reply.deployed? = some r ∧
      ∀ other ∈ rest, other.deployed? = none
  /-- A rejected submission changes the error that the wizard shows, in the wording of the pool
  where the pool has refused it, and loads nothing. -/
  rejected : ∀ reply ∈ t.replies, ∀ e, reply.deployed? = some (.error e) →
    t.value = .error e ∧ t.replies = [reply] ∧
      t.state = { c with wizard.view.error := some e.userMessage } ∧
      ∀ text, e = .backend text → t.state.wizard.view.error = some text
  /-- An accepted one closes the wizard and has succeeded, however the load that follows it ends. -/
  accepted : ∀ reply ∈ t.replies, reply.deployed? = some (.ok ()) →
    (∃ notice, t.value = .ok notice) ∧
      ∃ jobs, t.state = { c with
        jobs, wizard.view := { c.wizard.view with isOpen := false, error := none } }
  /-- The jobs of the scope are loaded once, after the deployment has been accepted. -/
  reloaded : ∀ reply ∈ t.replies, reply.deployed? = some (.ok ()) →
    c.scope.isInitialized = true →
      ∃ space answer, c.scope.toFetch = some space ∧ t.replies = [reply, ⟨.jobs space, answer⟩] ∧
        t.state.jobs = c.jobs.loaded c.scope answer
  /-- Before there is a scope they are not. -/
  unscoped : ∀ reply ∈ t.replies, reply.deployed? = some (.ok ()) →
    c.scope.isInitialized = false → t.replies = [reply] ∧ t.state.jobs = c.jobs

namespace Concludes

variable {c state : Console} {r : Outcome Unit} {value : Outcome Notice} {rest : List Reply}

/-- The pool is not asked to deploy again. -/
theorem deployed?_eq_none (concludes : Concludes c r value state rest) :
    ∀ other ∈ rest, other.deployed? = none := by
  intro other mem
  cases concludes with
  | rejected | unscoped => cases mem
  | reloaded notice space answer =>
    rw [List.mem_singleton.mp mem]
    rfl

theorem of_error {e : PoolError} (concludes : Concludes c (.error e) value state rest) :
    value = .error e ∧ state = c.complaining e.userMessage ∧ rest = [] := by
  cases concludes
  exact ⟨rfl, rfl, rfl⟩

theorem of_ok (concludes : Concludes c (.ok ()) value state rest) :
    ∃ notice, value = .ok notice ∧
      ((c.scope.toFetch = none ∧ state = c.submitted ∧ rest = []) ∨
        ∃ space answer, c.scope.toFetch = some space ∧
          state = { c.submitted with jobs := c.jobs.loaded c.scope answer } ∧
          rest = [⟨.jobs space, answer⟩]) := by
  cases concludes with
  | unscoped notice pending => exact ⟨notice, rfl, .inl ⟨pending, rfl, rfl⟩⟩
  | reloaded notice space answer scope =>
    exact ⟨notice, rfl, .inr ⟨space, answer, scope, rfl, rfl⟩⟩

end Concludes

theorem Scope.isInitialized_eq_false {scope : Scope} :
    scope.isInitialized = false ↔ scope.toFetch = none := by
  cases scope <;> simp [isInitialized, toFetch]

theorem SubmissionEnd.outcome {what : Submission} {c : Console}
    {t : Transcript κ Console (Outcome Notice)} (ends : SubmissionEnd what c t) :
    SubmissionOutcome what c t := by
  cases ends with
  | refused e left refuses why =>
    constructor
    case refused => exact fun _ => ⟨rfl, rfl, e, refuses, rfl⟩
    case asked =>
      intro call free asked
      rcases why with held | error
      · exact absurd (free.symm.trans held) Bool.false_ne_true
      · cases asked.symm.trans error
    all_goals
      intro reply mem
      exact absurd mem List.not_mem_nil
  | answered reply left free asked answered concludes =>
    rename_i r value state rest
    have others := concludes.deployed?_eq_none
    have only : ∀ reply' ∈ reply :: rest, ∀ r', reply'.deployed? = some r' →
        reply' = reply ∧ r' = r := by
      intro reply' mem r' answered'
      rcases List.mem_cons.mp mem with rfl | mem
      · exact ⟨rfl, Option.some.inj (answered'.symm.trans answered)⟩
      · cases (others reply' mem).symm.trans answered'
    constructor
    case refused =>
      rintro (held | ⟨e, error⟩)
      · exact absurd (free.symm.trans held) Bool.false_ne_true
      · cases asked.symm.trans error
    case asked =>
      intro call _ same
      have call_eq := Except.ok.inj (asked.symm.trans same)
      exact ⟨reply, rest, r, rfl, call_eq, answered, others⟩
    case rejected =>
      intro reply' mem e rejected
      obtain ⟨rfl, rfl⟩ := only reply' mem _ rejected
      obtain ⟨rfl, rfl, rfl⟩ := concludes.of_error
      refine ⟨rfl, rfl, rfl, ?_⟩
      rintro text rfl
      rfl
    case accepted =>
      intro reply' mem accepted
      obtain ⟨rfl, rfl⟩ := only reply' mem _ accepted
      obtain ⟨notice, rfl, ⟨-, rfl, -⟩ | ⟨_, answer, -, rfl, -⟩⟩ := concludes.of_ok
      · exact ⟨⟨notice, rfl⟩, c.jobs, rfl⟩
      · exact ⟨⟨notice, rfl⟩, _, rfl⟩
    case reloaded =>
      intro reply' mem accepted initialized
      obtain ⟨rfl, rfl⟩ := only reply' mem _ accepted
      obtain ⟨_, -, ⟨pending, -, -⟩ | ⟨space, answer, scope, rfl, rfl⟩⟩ := concludes.of_ok
      · rw [Scope.isInitialized_eq_false.mpr pending] at initialized
        cases initialized
      · exact ⟨space, answer, scope, rfl, rfl⟩
    case unscoped =>
      intro reply' mem accepted pending
      obtain ⟨rfl, rfl⟩ := only reply' mem _ accepted
      obtain ⟨_, -, ⟨-, rfl, rfl⟩ | ⟨space, _, scope, -, -⟩⟩ := concludes.of_ok
      · exact ⟨rfl, rfl⟩
      · cases (Scope.isInitialized_eq_false.mp pending).symm.trans scope

/-- However the pool answers, a submission that nothing comes between has one of these outcomes. -/
theorem submission_outcome (h : Handler (StateM κ)) (what : Submission) (c : Console) (k : κ) :
    SubmissionOutcome what c (h.transcript (Activity.wizard (.submit what)).action c k) :=
  (h.submission_end c k what).outcome

/-- The pool accepts a job and can then not be reached any more: the submission has succeeded. -/
theorem accepted_out_of_reach :
    ∃ (h : Handler (StateM Unit)) (c : Console) (job : CustomDeployRequest),
      let t := h.transcript (Activity.wizard (.submit (.custom "kind: Job" ∅ none))).action c ()
      c.wizard.view.isOpen = true ∧
        t.replies =
          [⟨.deployCustom job, .ok ()⟩, ⟨.jobs (some "al"), .error (.transport "gone")⟩] ∧
        (∃ notice, t.value = .ok notice) ∧ t.state.wizard.view.isOpen = false ∧
        t.state.wizard.view.error = none := by
  let h : Handler (StateM Unit) := {
    answer := fun
      | .deployCustom _ => fun k => (.ok (), k)
      | _ => fun k => (.error (.transport "gone"), k)
    save := fun _ _ k => (.ok (), k) }
  let c : Console := {
    session := { filter := ⟨.only "al", true⟩ }
    wizard.view := { isOpen := true, error := some "held" } }
  let job : CustomDeployRequest := ⟨"kind: Job", ∅, some "al", none, none⟩
  let what : Submission := .custom "kind: Job" ∅ none
  have replies : (h.transcript (Activity.wizard (.submit what)).action c ()).replies =
      [⟨.deployCustom job, .ok ()⟩, ⟨.jobs (some "al"), .error (.transport "gone")⟩] := by
    rfl
  have accepted := (submission_outcome h what c ()).accepted ⟨.deployCustom job, .ok ()⟩
    (replies ▸ List.mem_cons_self) rfl
  obtain ⟨succeeded, jobs, state⟩ := accepted
  refine ⟨h, c, job, rfl, replies, succeeded, ?_, ?_⟩
  · rw [state]
  · rw [state]

end PoolConsole
