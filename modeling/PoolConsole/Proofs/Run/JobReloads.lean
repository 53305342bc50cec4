import PoolConsole.Proofs.Run.Loading

namespace PoolConsole

open PoolConsole.Action Console Operation

def Call.changesJobs : Call → Bool
  | .deploy _ | .deployCustom _ | .deleteJob _ _ => true
  | _ => false

def jobList : Source (List Job) where
  panel c := c.jobs.panel
  Query := Option String
  calls space := [.jobs space]
  read _ answers := answers.1
  asks _ space _ s := s.scope = .ofChoice space ∧ s.jobs.scope = some (.ofChoice space)
  writes := Call.changesJobs
  blocked s := s.scope = .pending

theorem changesJobs_of_about {k : Call → Prop} (deploy : ∀ request, ¬ k (.deploy request))
    (deployCustom : ∀ request, ¬ k (.deployCustom request))
    (delete : ∀ name space, ¬ k (.deleteJob name space)) (c : Call) (_ : Console) (about : k c) :
    c.changesJobs = false := by
  cases c with
  | deploy request => exact absurd about (deploy request)
  | deployCustom request => exact absurd about (deployCustom request)
  | deleteJob name space => exact absurd about (delete name space)
  | _ => rfl

theorem Scope.toFetch_eq_none {scope : Scope} : scope.toFetch = none ↔ scope = .pending := by
  cases scope <;> simp [toFetch]

variable {a : Activity} {accepted : List Reply} {s₀ s : Console}

/-- A load of the jobs, if none has begun before. Without a scope it is left out. -/
theorem loads_loadJobs (same : jobList.panel s = jobList.panel s₀) :
    loadJobs.Loads jobList a (fun _ stage u v => jobList.Ends a stage u v) (.ahead accepted)
      s₀ s := by
  have begun := congrArg (fun p => (Panel.begin p).2) same
  have ticket := congrArg (fun p => (Panel.begin p).1) same
  simp only [loadJobs, bind_eq, loads_bind, loads_read]
  cases fetch : s.scope.toFetch with
  | none => exact (loads_done _).mpr ⟨_, .kept same, fun _ => Scope.toFetch_eq_none.mp fetch⟩
  | some space =>
    have scope := Scope.toFetch_eq_some.mp fetch
    simp only [onJobs, loads_bind, loads_update]
    refine loads_request (S := jobList) space begun ⟨scope, congrArg some scope⟩
      (List.Subset.refl _) rfl fun r t => ⟨_, .takes r ?_ ⟨_, .one r, ?_⟩, trivial⟩
    · rw [← ticket]
      rfl
    · cases r with
      | ok | error => rfl

theorem loads_reloadJobs (same : jobList.panel s = jobList.panel s₀) :
    reloadJobs.Loads jobList a (fun _ stage u v => jobList.Ends a stage u v) (.ahead accepted)
      s₀ s :=
  (loads_loadJobs same).bind fun ends => (loads_done _).mpr ends

theorem loads_setNamespace (choice : Option String) (s : Console) :
    (setNamespace choice).Loads jobList a (fun _ stage u v => jobList.Ends a stage u v)
      (.ahead []) s s := by
  simp only [setNamespace, selectNamespace, onSession, bind_eq, loads_bind, loads_update]
  exact loads_loadJobs rfl

/-- Jobs are deleted one after the other while the load is ahead. -/
theorem loads_deleteEach (jobs : List Job) (same : jobList.panel s = jobList.panel s₀) :
    (deleteEach jobs).Loads jobList a
      (fun _ stage u v => ∃ accepted, stage = .ahead accepted ∧ jobList.panel v = jobList.panel u)
      (.ahead accepted) s₀ s := by
  induction jobs generalizing accepted s₀ s with
  | nil => exact (loads_done _).mpr ⟨accepted, rfl, same⟩
  | cons job rest ih =>
    refine (loads_bind _ _).mpr (loads_write same (fun _ t => ?_) fun _ t => ?_)
    · exact (ih rfl).bind fun ends => (loads_done _).mpr ends
    · exact (ih rfl).bind fun ends => (loads_done _).mpr ends

theorem loads_deleteSelected (s : Console) :
    deleteSelected.Loads jobList a (fun _ stage u v => jobList.Ends a stage u v) (.ahead [])
      s s := by
  refine (loads_bind _ _).mpr ((loads_update _).mpr ((loads_bind _ _).mpr ?_))
  refine (loads_deleteEach _ ?_).imp ?_
  · rfl
  · rintro results stage u v ⟨accepted, rfl, same⟩
    exact (loads_reloadJobs same).bind fun ends => (loads_done _).mpr ends

/-- Once the pool has accepted a submission the jobs are loaded, and then it ends. -/
theorem loads_concludeSubmission {result : Outcome Unit} (success : String) (s : Console)
    (owed : result.isOk = true ∨ accepted = []) :
    (concludeSubmission result success).Loads jobList a
      (fun _ stage u v => jobList.Ends a stage u v) (.ahead accepted) s s := by
  have finishes : (finishSubmission result success).Loads jobList a
      (fun _ stage u v => jobList.Ends a stage u v) (.ahead accepted) s s := by
    refine (loads_bind _ _).mpr ((loads_modify _).mpr ?_)
    cases result with
    | ok =>
      refine (loads_reloadJobs ?_).bind fun ends => (loads_done _).mpr ends
      rfl
    | error e =>
      cases owed with
      | inl ok => cases ok
      | inr none =>
        subst none
        exact (loads_done _).mpr (.of_kept rfl)
  refine finishes.bind fun ends => (loads_bind _ _).mpr ((loads_modify _).mpr ?_)
  exact (loads_done _).mpr (ends.move rfl id)

theorem loads_send {c : Call} {post : Outcome c.Answer → jobList.Stage → Console → Console → Prop}
    (same : jobList.panel s = jobList.panel s₀)
    (next : ∀ r accepted t, r.isOk = true ∨ accepted = [] → post r (.ahead accepted) t t) :
    (request c).Loads jobList a post (.ahead []) s₀ s :=
  loads_write same (fun _ t => next _ _ t (.inl rfl)) fun _ t => next _ _ t (.inr rfl)

theorem loads_submitCall {send : Action Console (Outcome Unit)}
    (sends : ∀ {post : Outcome Unit → jobList.Stage → Console → Console → Prop} {s₀ s},
      jobList.panel s = jobList.panel s₀ →
      (∀ r accepted t, r.isOk = true ∨ accepted = [] → post r (.ahead accepted) t t) →
      send.Loads jobList a post (.ahead []) s₀ s)
    (success : String) (s : Console) :
    (submitCall send success).Loads jobList a (fun _ stage u v => jobList.Ends a stage u v)
      (.ahead []) s s := by
  have kept (w : Wizard) : jobList.panel { s with wizard := w } = jobList.panel s := rfl
  refine (loads_bind _ _).mpr ((loads_update _).mpr ?_)
  cases s.wizard.beginSubmission.1 with
  | error e => exact (loads_done _).mpr (.of_kept (kept _))
  | ok =>
    exact (loads_bind _ _).mpr (sends (kept _) fun r accepted t owed =>
      loads_concludeSubmission success t owed)

/-- What is submitted is looked at first, and may be refused at once. -/
theorem loads_checked {β γ : Type} {view : Console → Outcome β}
    {f : β → Action Console (Outcome γ)} (s : Console)
    (next : ∀ b, (f b).Loads jobList a (fun _ stage u v => jobList.Ends a stage u v)
      (.ahead []) s s) :
    ((Action.read view).attempt f).Loads jobList a (fun _ stage u v => jobList.Ends a stage u v)
      (.ahead []) s s := by
  refine (loads_bind _ _).mpr ((loads_read _).mpr ?_)
  cases view s with
  | ok b => exact next b
  | error e => exact (loads_done _).mpr (.of_kept rfl)

theorem loads_submission (what : Submission) (s : Console) :
    (WizardActivity.submit what).action.Loads jobList a
      (fun _ stage u v => jobList.Ends a stage u v) (.ahead []) s s := by
  cases what with
  | filledIn =>
    exact loads_checked s fun request =>
      loads_submitCall (loads_send (c := .deploy request)) _ s
  | custom template values defaults =>
    exact loads_checked s fun request =>
      loads_submitCall (loads_send (c := .deployCustom request)) _ s

theorem confined_toggleSelect (id : String) :
    (JobActivity.toggleSelect id).action.Confined jobList.panel
      fun c _ => jobList.writes c = false := by
  refine ⟨fun _ s same => Eq.trans ?_ same⟩
  change (s.jobs.toggleSelect id).2.panel = s.jobs.panel
  unfold JobBoard.toggleSelect
  split
  · rfl
  · rfl

def jobListPlan : jobList.Plan where
  post a _ stage u v := jobList.Ends a stage u v
  ends := id
  loads a s := by
    have may {k : Call → Prop} := changesJobs_of_about (k := k)
    cases a with
    | jobs b =>
      cases b with
      | load => exact loads_loadJobs rfl
      | setNamespace choice => exact loads_setNamespace choice s
      | setPage | toggleSelectAll =>
        refine Confined.ends ⟨fun _ _ same => ?_⟩ s
        exact same
      | toggleSelect id => exact (confined_toggleSelect id).ends s
      | delete job =>
        exact loads_write_attempt rfl
          (fun _ t => (loads_reloadJobs rfl).bind fun ends => (loads_done _).mpr ends)
          fun _ t => .of_kept rfl
      | deleteSelected => exact loads_deleteSelected s
    | wizard b =>
      by_cases submits : ∃ what, b = .submit what
      · obtain ⟨what, rfl⟩ := submits
        exact loads_submission what s
      · refine Confined.ends (WizardActivity.confined (fun _ _ _ => rfl)
          (may (fun _ => id) (fun _ => id) fun _ _ => id) b ?_) s
        exact fun what eq => absurd ⟨what, eq⟩ submits
    | session b =>
      exact Confined.ends (SessionActivity.confined (may (fun _ => id) (fun _ => id) fun _ _ => id)
        (fun _ _ => rfl) (fun _ _ => rfl) (fun _ _ => rfl) b fun _ _ _ => rfl) s
    | nodes b =>
      exact Confined.ends (NodeActivity.confined (fun _ _ => rfl)
        (may (fun _ => id) (fun _ => id) fun _ _ => id) b) s
    | views b =>
      exact Confined.ends (ViewActivity.confined (fun _ _ => rfl) (fun _ _ => rfl) (fun _ _ => rfl)
        (fun _ _ => rfl) (fun _ _ => rfl) (may (fun _ => id) (fun _ => id) fun _ _ => id) b
        fun _ _ _ => rfl) s

end PoolConsole
