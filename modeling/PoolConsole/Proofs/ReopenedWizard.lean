import PoolConsole.Proofs.Run.Opening
import PoolConsole.Proofs.SingleSubmission

namespace PoolConsole

open PoolConsole.Action Console

namespace Moment

def deployed? (m : Moment) : Option (Outcome Unit) :=
  m.reply.bind Reply.deployed?

theorem deployed?_of_reply {m : Moment} {reply : Reply} (answered : m.reply = some reply) :
    m.deployed? = reply.deployed? := by
  rw [deployed?, answered]
  rfl

end Moment

/-- Once the wizard has been opened afresh, the answers to earlier submissions leave what it shows
alone. -/
def SessionsApart (h : List Moment) : Prop :=
  ∀ later m earlier r, h = later ++ m :: earlier → m.deployed? = some r →
    Reopened earlier m.strand → m.after.wizard.view = m.before.wizard.view

def WizardView.Reports (v : WizardView) : Outcome Unit → Prop
  | .ok () => v.isOpen = false ∧ v.error = none
  | .error e => v.error = some e.userMessage

/-- An answer leaves what the wizard shows alone only if it shows it already. -/
theorem Wizard.settle_view (w : Wizard) (r : Outcome Unit) :
    (w.settle r).view = w.view ↔ w.view.Reports r := by
  constructor
  · intro same
    cases r with
    | ok => exact ⟨(congrArg WizardView.isOpen same).symm, (congrArg WizardView.error same).symm⟩
    | error e => exact (congrArg WizardView.error same).symm
  · intro reports
    obtain ⟨v, chosen, submitting⟩ := w
    cases r with
    | ok =>
      obtain ⟨closed, clear⟩ := reports
      cases v
      cases closed
      cases clear
      rfl
    | error e =>
      cases v
      cases reports
      rfl

inductive Expects (c : Console) : Strand → Prop where
  | deploying (what : Submission) (rest : Action Console (Outcome Notice)) :
      Deploying rest → Expects c ⟨.wizard (.submit what), rest⟩
  | settled (a : Activity) (rest : Action Console a.Result) :
      rest.Still (·.wizard.view) (·.deploys = false) c → Expects c ⟨a, rest⟩
  | other (a : Activity) (rest : Action Console a.Result) :
      a.submits = false → rest.Still (·.wizard.submitting) (·.deploys = false) c →
      Expects c ⟨a, rest⟩

theorem Expects.mono {s t : Console} {strand : Strand} (expects : Expects s strand) :
    Expects t strand := by
  cases expects with
  | deploying what rest deploying => exact .deploying what rest deploying
  | settled a rest still => exact .settled a rest still.mono
  | other a rest apart still => exact .other a rest apart still.mono

/-- What a submission does to what is shown, as far as the moment is one of a submission. -/
structure Answers (m : Moment) : Prop where
  settles : ∀ r, m.deployed? = some r →
    m.activity.submits = true ∧ m.after.wizard.view = (m.before.wizard.settle r).view
  silent : m.activity.submits = true → m.deployed? = none →
    m.after.wizard.view = m.before.wizard.view

theorem Answers.of_settled {m : Moment} (quiet : m.deployed? = none)
    (same : m.after.wizard.view = m.before.wizard.view) : Answers m :=
  ⟨fun _ is => (nomatch quiet.symm.trans is), fun _ _ => same⟩

theorem Answers.of_other {m : Moment} (quiet : m.deployed? = none)
    (other : m.activity.submits = false) : Answers m :=
  ⟨fun _ is => (nomatch quiet.symm.trans is), fun submits => nomatch other.symm.trans submits⟩

theorem Expects.of_begins {m : Moment} (begins : m.reply = none)
    (advances : m.activity.action.Advances m.before m.issues m.rest m.after) :
    Answers m ∧ Expects m.after ⟨m.activity, m.rest⟩ := by
  have quiet : m.deployed? = none := by
    rw [Moment.deployed?, begins]
    rfl
  cases submits : m.activity.submits with
  | false =>
    have keeps := (confined_submitting _ submits).keeps advances
    exact ⟨.of_other quiet submits, .other _ m.rest submits keeps.still⟩
  | true =>
    obtain ⟨what, is⟩ := Activity.exists_of_submits submits
    obtain ⟨n, a, reply, before, after, issues, rest⟩ := m
    cases is
    dsimp only at advances
    cases advances_submission advances with
    | refused _ e => exact ⟨.of_settled quiet rfl, .settled _ _ (.done _)⟩
    | filledIn request success =>
      exact ⟨.of_settled quiet rfl, .deploying _ _ (.filledIn request success)⟩
    | custom request success =>
      exact ⟨.of_settled quiet rfl, .deploying _ _ (.custom request success)⟩

theorem Expects.of_answer {m : Moment} {x : Action Console m.activity.Result} {reply : Reply}
    (answered : m.reply = some reply) (expects : Expects m.before ⟨m.activity, x⟩)
    (takes : x.Takes m.before reply m.issues m.rest m.after) :
    Answers m ∧ Expects m.after ⟨m.activity, m.rest⟩ := by
  obtain ⟨n, a, _, before, after, issues, rest⟩ := m
  cases expects with
  | deploying what _ deploying =>
    obtain ⟨r, settled, keeps⟩ := deploying.takes takes
    have deployed := (Moment.deployed?_of_reply answered).trans settled
    refine ⟨⟨fun r' is => ⟨rfl, ?_⟩, fun _ quiet => ?_⟩, .settled _ _ keeps.still⟩
    · rw [deployed, Option.some.injEq] at is
      subst is
      exact keeps.same
    · rw [deployed] at quiet
      cases quiet
  | settled _ _ still =>
    have keeps := still.keeps takes
    have quiet := (Moment.deployed?_of_reply answered).trans
      (Reply.deployed?_of_quiet (still.answered takes))
    exact ⟨.of_settled quiet keeps.same, .settled _ rest keeps.still⟩
  | other _ _ other still =>
    have keeps := still.keeps takes
    have quiet := (Moment.deployed?_of_reply answered).trans
      (Reply.deployed?_of_quiet (still.answered takes))
    exact ⟨.of_other quiet other, .other _ rest other keeps.still⟩

variable {start : Console} {h : List Moment} {m : Moment} {w : World}

theorem Run.answers (run : Run start h w) (mem : m ∈ h) : Answers m :=
  (run.each Expects Expects.mono (fun _ => Expects.of_begins)
    fun _ _ _ => Expects.of_answer).1 m mem

structure SubmissionAnswers (h : List Moment) : Prop where
  /-- An answer is taken over into what the wizard shows when it arrives. -/
  settles : ∀ m ∈ h, ∀ r, m.deployed? = some r →
    m.activity.submits = true ∧ m.after.wizard.view = (m.before.wizard.settle r).view
  /-- At no other moment does a submission change what the wizard shows. -/
  silent : ∀ m ∈ h, m.activity.submits = true → m.deployed? = none →
    m.after.wizard.view = m.before.wizard.view
  /-- So a wizard that has been opened afresh is left alone by the answers to earlier submissions
  only where it happens to show already what they come to. -/
  apart_iff : SessionsApart h ↔
    ∀ later m earlier r, h = later ++ m :: earlier → m.deployed? = some r →
      Reopened earlier m.strand → m.before.wizard.view.Reports r

/-- An answer is taken over into whatever the wizard shows when it arrives: a submission does not
know from which opening of the wizard it came. -/
theorem submission_answers (run : Run start h w) : SubmissionAnswers h := by
  have settles (m : Moment) (mem : m ∈ h) (r : Outcome Unit) (answer : m.deployed? = some r) :
      m.after.wizard.view = (m.before.wizard.settle r).view :=
    ((run.answers mem).settles r answer).2
  have mem {later earlier : List Moment} {m : Moment} (split : h = later ++ m :: earlier) : m ∈ h :=
    split ▸ List.mem_append_right _ List.mem_cons_self
  refine ⟨fun m mem => (run.answers mem).settles, fun m mem => (run.answers mem).silent, ?_⟩
  constructor
  · intro apart later m earlier r split answer reopened
    have same := apart later m earlier r split answer reopened
    rw [settles m (mem split) r answer] at same
    exact (Wizard.settle_view _ r).mp same
  · intro reports later m earlier r split answer reopened
    rw [settles m (mem split) r answer]
    exact (Wizard.settle_view _ r).mpr (reports later m earlier r split answer reopened)

/-- A job is refused after the wizard has been opened afresh, which then shows why. -/
theorem error_after_reopening :
    ∃ m earlier w, Run {} (m :: earlier) w ∧ Reopened earlier m.strand ∧
      m.before.wizard.view.error = none ∧ m.after.wizard.view.error = some "quota exceeded" := by
  have submitted := Run.next (@Run.start {}) (.begin
    (.wizard (.submit (.custom "kind: Job" ∅ none))) (.get (.get (.get (.set (.call _ _ _))))))
  have reopened := submitted.next (.begin (.wizard .reopen) (.get (.get (.set (.call _ _ _)))))
  have refused := reopened.next (.answer 0 _ ⟨.deployCustom _, .error (.backend "quota exceeded")⟩
    rfl (.call _ (.get (.get (.set (.get (.get (.set (.done _ _)))))))))
  have answered := (submission_answers refused).settles _ (.head _) _ rfl
  exact ⟨_, _, _, refused, ⟨_, .head _, ⟨rfl, rfl⟩, by decide⟩, rfl,
    congrArg WizardView.error answered.2⟩

/-- A job is accepted after the wizard has been opened afresh, which is closed. -/
theorem not_sessionsApart : ¬ ∀ h w, Run {} h w → SessionsApart h := by
  intro apart
  have submitted := Run.next (@Run.start {}) (.begin
    (.wizard (.submit (.custom "kind: Job" ∅ none))) (.get (.get (.get (.set (.call _ _ _))))))
  have reopened := submitted.next (.begin (.wizard .reopen) (.get (.get (.set (.call _ _ _)))))
  have accepted := reopened.next (.answer 0 _ ⟨.deployCustom _, .ok ()⟩ rfl
    (.call _ (.get (.get (.set (.get (.get (.get (.set (.done _ _))))))))))
  have same := apart _ _ accepted [] _ _ (.ok ()) rfl rfl ⟨_, .head _, ⟨rfl, rfl⟩, by decide⟩
  exact absurd (congrArg WizardView.isOpen same) (by decide)

end PoolConsole
