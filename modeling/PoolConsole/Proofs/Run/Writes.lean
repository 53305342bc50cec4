import PoolConsole.Proofs.Run.Account
import PoolConsole.Proofs.Run.NodeLoads
import PoolConsole.Proofs.Run.Submission

/-!
What becomes of an activity that makes one change in the pool.

* `Fate`: it is refused, or makes its one call. If that fails the activity fails as well; if it is
  accepted only reads follow.
* `Activity.ReadsBack`: what the reads come to. The activities that change a node, add a label or
  switch the agent report whether they have failed; the others do not.
* `follows_fate`: every such activity keeps to its fate, whatever it is answered.
-/

namespace PoolConsole

open PoolConsole.Action Console Operation

def Call.writes : Call → Bool
  | .deploy _ | .deployCustom _ | .deleteJob _ _ => true
  | .deleteNodes _ | .cordon _ | .uncordon _ | .addLabels _ _ => true
  | .setQuota _ _ | .pauseAgent | .resumeAgent | .updateRepositories => true
  | _ => false

namespace Activity

def writes : Activity → Bool
  | .jobs (.delete _) | .wizard (.submit _) | .session (.setQuota _ _) => true
  | .session .pauseAgent | .session .resumeAgent => true
  | .nodes (.setCordoned _ _) | .nodes (.delete _) | .nodes (.addLabel _ _ _) => true
  | _ => false

/-- Whether the activity reports that what it reads back has failed. -/
def reports : Activity → Bool
  | .session .pauseAgent | .session .resumeAgent => true
  | .nodes (.setCordoned _ _) | .nodes (.delete _) | .nodes (.addLabel _ _ _) => true
  | _ => false

/-- The call with which the activity makes its change. -/
def Makes : Activity → Call → Prop
  | .jobs (.delete job), c => c = deletion job
  | .wizard (.submit .filledIn), c => ∃ request, c = .deploy request
  | .wizard (.submit (.custom _ _ _)), c => ∃ request, c = .deployCustom request
  | .session (.setQuota space limits), c => c = .setQuota space limits.toKeyMap
  | .session .pauseAgent, c => c = .pauseAgent
  | .session .resumeAgent, c => c = .resumeAgent
  | .nodes (.setCordoned node cordoned), c =>
    c = if cordoned then .cordon [node] else .uncordon [node]
  | .nodes (.delete node), c => c = .deleteNodes [node]
  | .nodes (.addLabel node key value), c => c = labelWrite node key value
  | _, _ => False

theorem Makes.writes {a : Activity} {c : Call} (makes : a.Makes c) : c.writes = true := by
  cases a with
  | session a =>
    cases a with
    | pauseAgent | resumeAgent | setQuota => exact makes ▸ rfl
    | _ => exact makes.elim
  | jobs a =>
    cases a with
    | delete job => exact makes ▸ rfl
    | _ => exact makes.elim
  | wizard a =>
    cases a with
    | submit what =>
      cases what with
      | filledIn | custom =>
        obtain ⟨request, rfl⟩ := makes
        rfl
    | _ => exact makes.elim
  | nodes a =>
    cases a with
    | setCordoned node cordoned =>
      cases cordoned with
      | true | false => exact makes ▸ rfl
    | delete | addLabel => exact makes ▸ rfl
    | _ => exact makes.elim
  | views => exact makes.elim

/-- The error that the activity has ended with, if it is one that makes a change. -/
def failure? : (a : Activity) → a.Result → Option PoolError
  | .jobs (.delete _), r => Outcome.failure? r
  | .wizard (.submit _), r => Outcome.failure? r
  | .session (.setQuota _ _), r => Outcome.failure? r
  | .session .pauseAgent, r => Outcome.failure? r
  | .session .resumeAgent, r => Outcome.failure? r
  | .nodes (.setCordoned _ _), r => Outcome.failure? r
  | .nodes (.delete _), r => Outcome.failure? r
  | .nodes (.addLabel _ _ _), r => Outcome.failure? r
  | _, _ => none

end Activity

/-- What has been heard of the reads for a panel: all but the last wait for more, and none begins
another load. -/
def HearsBack {α : Type} (S : Source α) (query : S.Query) (more : List Reply) (ended : Bool)
    (s t : Console) : Prop :=
  ∃ failed, Heard (S.calls query) more failed ∧ (ended = false → failed = none) ∧
    (S.panel t).issued = (S.panel s).issued

/-- What becomes of the reads that follow a change, by the replies to them: whether the activity
ends with them, and with which error. Where it reports a failure, it can only end before the first
reply because a read has failed at once. -/
def Activity.ReadsBack (a : Activity) (more : List Reply) (ended : Bool)
    (failed : Option PoolError) (s t : Console) : Prop :=
  match a with
  | .session .pauseAgent | .session .resumeAgent =>
    (more = [] ∧ ended = failed.isSome) ∨
      Heard [.agentRunning, .connected, .isServer] more failed
  | .nodes (.setCordoned _ _) | .nodes (.delete _) =>
    (more = [] ∧ ended = failed.isSome) ∨ HearsBack nodeTable () more ended s t
  | .nodes (.addLabel node _ _) =>
    (more = [] ∧ ended = failed.isSome) ∨ HearsBack nodeDetail node more ended s t
  | _ => failed = none

/-- What becomes of an activity that makes a change, from one wait to the next: by the replies so
far, the calls made, whether it ends and with which error, and the states before and after. -/
inductive Fate (a : Activity) :
    List Reply → List Call → Bool → Option PoolError → Console → Console → Prop where
  | refused {s} (e : PoolError) : e.Refuses → Fate a [] [] true (some e) s s
  | makes {s t} (c : Call) : a.Makes c → Fate a [] [c] false none s t
  | rejected {s t} (c : Call) (e : PoolError) :
      a.Makes c → Fate a [⟨c, .error e⟩] [] true (some e) s t
  | accepted {s t} (c : Call) (b : c.Answer) (more : List Reply) {made ended failed} :
      a.Makes c → (∀ reply ∈ more, reply.call.writes = false) →
      (∀ d ∈ made, d.writes = false) → a.ReadsBack more ended failed s t →
      Fate a (more ++ [⟨c, .ok b⟩]) made ended failed s t

def fateAccount (a : Activity) (α : Type) : Account Console (Outcome α) :=
  fun told made value s t => Fate a told made value.isSome (value.bind Outcome.failure?) s t

/-! ## Rules -/

section
variable {a : Activity} {α β : Type} {c : Call} {b : c.Answer} {s₀ s : Console}

theorem follows_sent {f : Outcome c.Answer → Action Console (Outcome α)} (makes : a.Makes c)
    (next : ∀ r t, (f r).Follows (fateAccount a α) [⟨c, r⟩] [] t t) :
    ((request c).bind f).Follows (fateAccount a α) [] [] s₀ s :=
  (follows_bind _ _).mpr (follows_request.mpr ⟨.makes c makes, next⟩)

/-- The change is made. -/
theorem follows_change {f : c.Answer → Action Console (Outcome α)} (makes : a.Makes c)
    (next : ∀ b t, (f b).Follows (fateAccount a α) [⟨c, .ok b⟩] [] t t) :
    ((request c).attempt f).Follows (fateAccount a α) [] [] s₀ s :=
  follows_request_attempt (.makes c makes) next fun e _ => .rejected c e makes

/-- After the change has been accepted, something follows that changes nothing and is not
reported. -/
theorem follows_unreported {x : Action Console β} {f : β → Action Console (Outcome α)}
    (makes : a.Makes c) (unreported : ∀ more ended s t, a.ReadsBack more ended none s t)
    (reads : x.Confined (fun _ => ()) fun c _ => c.writes = false)
    (next : ∀ v more made s t, (∀ reply ∈ more, reply.call.writes = false) →
      (∀ d ∈ made, d.writes = false) →
      (f v).Follows (fateAccount a α) (more ++ [⟨c, .ok b⟩]) made s t) :
    (x.bind f).Follows (fateAccount a α) [⟨c, .ok b⟩] [] s₀ s := by
  refine (reads.follows rfl (by simp)).bind ?_ ?_
  · rintro told made u v ⟨-, harmless, more, rfl, since⟩
    exact .accepted c b more makes since harmless (unreported _ _ _ _)
  · rintro told made v s t ⟨-, harmless, more, rfl, since⟩
    exact next v more made s t since harmless

/-- After the change has been accepted, several reads are made at once. -/
theorem follows_readBack {cs : List Call}
    {f : Outcome (Call.Answers cs) → Action Console (Outcome α)} (makes : a.Makes c)
    (some : cs ≠ []) (harmless : ∀ d ∈ cs, d.writes = false)
    (asks : a.ReadsBack [] false none s₀ s)
    (hears : ∀ more t, Heard cs more none → a.ReadsBack more false none t t)
    (ends : ∀ r more t, Heard cs more r.failure? → (∀ reply ∈ more, reply.call.writes = false) →
      (f r).Follows (fateAccount a α) (more ++ [⟨c, .ok b⟩]) [] t t)
    (fails : ∀ e part, (∀ d ∈ part, d.writes = false) →
      (f (.error e)).Follows (fateAccount a α) [⟨c, .ok b⟩] part s₀ s) :
    ((requestAll cs).bind f).Follows (fateAccount a α) [⟨c, .ok b⟩] [] s₀ s := by
  refine follows_requestAll_bind some ?_ ?_ ?_ ?_
  · exact .accepted c b [] makes (by simp) harmless asks
  · intro more t heard
    exact .accepted c b more makes (fun reply mem => harmless _ (heard.calls reply mem)) (by simp)
      (hears more t heard)
  · intro r more t heard _
    exact ends r more t heard fun reply mem => harmless _ (heard.calls reply mem)
  · intro e part within _
    exact fails e part fun d mem => harmless d (within.subset mem)

end

/-! ## Activities that report no failed read -/

section
variable {a : Activity} {c : Call} {b : c.Answer} {s₀ s : Console}

/-- After an accepted change the jobs are read back. -/
theorem fate_deleteJob (job : Job) (s : Console) :
    (deleteJob job).Follows (fateAccount (.jobs (.delete job)) Unit) [] [] s s := by
  refine follows_change rfl fun b t => ?_
  refine follows_unreported rfl (fun _ _ _ _ => rfl)
    (reloadJobs_confined (fun _ _ _ => rfl) fun _ _ _ => rfl)
    fun v more made s t harmless reads => ?_
  exact (follows_done _).mpr (.accepted _ b more rfl harmless reads rfl)

section
variable {what : Submission} {success : String}

theorem follows_concludeAccepted (makes : (Activity.wizard (.submit what)).Makes c) (s : Console) :
    (concludeSubmission (.ok ()) success).Follows (fateAccount (.wizard (.submit what)) Notice)
      [⟨c, .ok b⟩] [] s s := by
  simp only [concludeSubmission, finishSubmission, bind_eq, bind_assoc]
  refine (follows_bind _ _).mpr ((follows_modify _).mpr ?_)
  refine follows_unreported makes (fun _ _ _ _ => rfl)
    (reloadJobs_confined (fun _ _ _ => rfl) fun _ _ _ => rfl)
    fun v more made s t harmless reads => ?_
  refine (follows_bind _ _).mpr ((follows_done _).mpr ?_)
  refine (follows_bind _ _).mpr ((follows_modify _).mpr ((follows_done _).mpr ?_))
  exact .accepted c b more makes harmless reads rfl

theorem follows_concludeRejected (makes : (Activity.wizard (.submit what)).Makes c) (e : PoolError)
    (s : Console) :
    (concludeSubmission (.error e) success).Follows (fateAccount (.wizard (.submit what)) Notice)
      [⟨c, .error e⟩] [] s s := by
  simp only [concludeSubmission, finishSubmission, bind_eq, bind_assoc]
  refine (follows_bind _ _).mpr ((follows_modify _).mpr ?_)
  refine (follows_bind _ _).mpr ((follows_done _).mpr ?_)
  refine (follows_bind _ _).mpr ((follows_modify _).mpr ((follows_done _).mpr ?_))
  exact .rejected c e makes

/-- A submission is sent and concluded. -/
theorem follows_submission (makes : (Activity.wizard (.submit what)).Makes c)
    {conclude : Outcome c.Answer → Action Console (Outcome Notice)}
    (accepted : ∀ b, conclude (.ok b) = concludeSubmission (.ok ()) success)
    (rejected : ∀ e, conclude (.error e) = concludeSubmission (.error e) success) :
    ((request c).bind conclude).Follows (fateAccount (.wizard (.submit what)) Notice)
      [] [] s₀ s := by
  refine follows_sent makes fun r t => ?_
  cases r with
  | ok b =>
    rw [accepted]
    exact follows_concludeAccepted makes t
  | error e =>
    rw [rejected]
    exact follows_concludeRejected makes e t

/-- The one call of a submission is made, unless another submission is under way. -/
theorem follows_submitCall {send : Action Console (Outcome Unit)}
    (sent : ∀ s t, (send.bind fun r => concludeSubmission r success).Follows
      (fateAccount (.wizard (.submit what)) Notice) [] [] s t) (s : Console) :
    (submitCall send success).Follows (fateAccount (.wizard (.submit what)) Notice) [] [] s s := by
  simp only [submitCall, attempt, onWizard]
  refine (follows_bind _ _).mpr ((follows_update _).mpr ?_)
  cases held : s.wizard.submitting with
  | true =>
    rw [Wizard.beginSubmission_of_held held]
    exact (follows_done _).mpr (.refused _ trivial)
  | false =>
    rw [Wizard.beginSubmission_of_free held]
    exact sent s _

theorem fate_submission (what : Submission) (s : Console) :
    (WizardActivity.submit what).action.Follows (fateAccount (.wizard (.submit what)) Notice)
      [] [] s s := by
  cases what with
  | filledIn =>
    simp only [WizardActivity.action, submit, attempt]
    refine (follows_bind _ _).mpr ((follows_read _).mpr ?_)
    cases found : s.wizard.request s.scope with
    | error e => exact (follows_done _).mpr (.refused e (refuses_request found))
    | ok request =>
      have makes : (Activity.wizard (.submit .filledIn)).Makes (.deploy request) := ⟨request, rfl⟩
      refine follows_submitCall (fun s t => ?_) s
      exact follows_submission makes (fun _ => rfl) fun _ => rfl
  | custom template values defaults =>
    simp only [WizardActivity.action, submitCustom, attempt]
    refine (follows_bind _ _).mpr ((follows_read _).mpr ?_)
    cases found : s.wizard.customRequest s.scope template values defaults with
    | error e => exact (follows_done _).mpr (.refused e (refuses_customRequest found))
    | ok request =>
      have makes : (Activity.wizard (.submit (.custom template values defaults))).Makes
          (.deployCustom request) := ⟨request, rfl⟩
      refine follows_submitCall (fun s t => ?_) s
      exact follows_submission makes (fun _ => rfl) fun _ => rfl

end

theorem fate_setQuota (space : String) (limits : QuotaLimits) (s : Console) :
    (setQuota space limits).Follows (fateAccount (.session (.setQuota space limits)) Unit)
      [] [] s s := by
  have reads : (loadQuota space).Confined (fun _ => ()) fun c _ => c.writes = false := by
    refine .bind (.request fun _ => rfl) fun r => ?_
    cases r with
    | ok => exact confined_modifySession fun _ => rfl
    | error => exact .done _
  unfold setQuota
  split
  · exact (follows_done _).mpr (.refused _ trivial)
  split
  · exact (follows_done _).mpr (.refused _ trivial)
  refine follows_change rfl fun b t => (follows_bind _ _).mpr ((follows_read _).mpr ?_)
  change (ite _ _ _ : Action Console (Outcome Unit)).Follows _ _ _ _ _
  split
  · refine follows_unreported rfl (fun _ _ _ _ => rfl) reads ?_
    intro v more made s t harmless reads
    exact (follows_done _).mpr (.accepted _ b more rfl harmless reads rfl)
  · exact (follows_done _).mpr (.accepted _ b [] rfl (by simp) (by simp) rfl)

end

/-! ## Activities that report a failed read -/

section
variable {a : Activity} {c : Call} {b : c.Answer} {s₀ s : Console}

theorem fate_switchAgent (makes : a.Makes c)
    (reports : ∀ {more ended failed s t}, (more = [] ∧ ended = Option.isSome failed) ∨
      Heard [.agentRunning, .connected, .isServer] more failed →
      a.ReadsBack more ended failed s t) {f : c.Answer → Action Console (Outcome PoolStatus)}
    (refreshes : ∀ b, f b = refreshStatus) (s : Console) :
    ((request c).attempt f).Follows (fateAccount a PoolStatus) [] [] s s := by
  refine follows_change makes fun b t => ?_
  rw [refreshes, refreshStatus, attempt]
  refine follows_readBack makes (List.cons_ne_nil _ _) (by decide) (reports (.inl ⟨rfl, rfl⟩))
    (fun more t heard => reports (.inr heard)) ?_ ?_
  · intro r more t heard harmless
    have ends (r' : Outcome PoolStatus) (same : r'.failure? = r.failure?) (u : Console) :
        fateAccount a PoolStatus (more ++ [⟨c, .ok b⟩]) [] (some r') t u := by
      rw [← same] at heard
      exact .accepted c b more makes harmless (by simp) (reports (.inr heard))
    cases r with
    | error e => exact (follows_done _).mpr (ends _ rfl _)
    | ok answers =>
      exact (follows_bind _ _).mpr ((follows_modify _).mpr ((follows_done _).mpr (ends _ rfl _)))
  · intro e part harmless
    exact (follows_done _).mpr
      (.accepted c b [] makes (by simp) harmless (reports (.inl ⟨rfl, rfl⟩)))

/-- A load of a panel after a change: before the first reply it can only fail. -/
def reloading {β : Type} (S : Source β) (query : S.Query) (base : List Reply) :
    Account Console (Outcome LoadOutcome) :=
  fun told made value s t => (∀ d ∈ made, d ∈ S.calls query) ∧ ∃ more, told = more ++ base ∧
    ((more = [] ∧ ∀ o, value ≠ some (.ok o)) ∨ HearsBack S query more value.isSome s t)

/-- A load that fails at once is not stale. -/
theorem Panel.complete_begin_ne_ok {α : Type} (p : Panel α) (e : PoolError) (o : LoadOutcome) :
    (p.begin.2.complete p.begin.1 (.error e)).1 ≠ .ok o := by
  simp [Panel.complete, Panel.begin]

/-- The calls of a load have been made, and their answers are brought to the board. -/
theorem follows_awaited {β : Type} {S : Source β} (query : S.Query) {base : List Reply}
    {complete : Outcome (Call.Answers (S.calls query)) → NodeBoard →
      Outcome LoadOutcome × NodeBoard} (some : S.calls query ≠ [])
    (kept : ∀ r c, (S.panel { c with nodes := (complete r c.nodes).2 }).issued =
      (S.panel c).issued)
    (fails : ∀ e o, (complete (.error e) s.nodes).1 ≠ .ok o) :
    ((requestAll (S.calls query)).bind fun r => onNodes (.update (complete r))).Follows
      (reloading S query base) base [] s₀ s := by
  refine follows_requestAll_bind some ?_ ?_ ?_ ?_
  · exact ⟨fun _ => id, [], rfl, .inl ⟨rfl, nofun⟩⟩
  · exact fun more t heard => ⟨by simp, more, rfl, .inr ⟨none, heard, fun _ => rfl, rfl⟩⟩
  · intro r more t heard _
    exact (follows_update _).mpr ⟨by simp, more, rfl, .inr ⟨_, heard, nofun, kept r t⟩⟩
  · intro e part within _
    refine (follows_update _).mpr ⟨fun d mem => within.subset mem, [], rfl, .inl ⟨rfl, ?_⟩⟩
    exact fun o is => fails e o (Option.some.inj is)

theorem follows_loadNodes (base : List Reply) (s : Console) :
    loadNodes.Follows (reloading nodeTable () base) base [] s s := by
  simp only [loadNodes, bind_eq]
  refine (follows_bind _ _).mpr ((follows_update _).mpr ?_)
  exact follows_awaited (S := nodeTable) () (List.cons_ne_nil _ _)
    (fun _ _ => Panel.complete_issued _ _ _) (Panel.complete_begin_ne_ok _)

theorem follows_loadDetail (node : String) (base : List Reply) (s : Console) :
    (loadDetail node).Follows (reloading nodeDetail node base) base [] s s := by
  simp only [loadDetail, bind_eq]
  refine (follows_bind _ _).mpr ((follows_update _).mpr ?_)
  exact follows_awaited (S := nodeDetail) node (List.cons_ne_nil _ _)
    (fun _ _ => Panel.complete_issued _ _ _) (Panel.complete_begin_ne_ok _)

/-- After an accepted change a panel is loaded, and a failure of that is reported. -/
theorem follows_reread {α β : Type} {S : Source β} {query : S.Query}
    {x : Action Console (Outcome LoadOutcome)} {f : LoadOutcome → Action Console (Outcome α)}
    (loads : x.Follows (reloading S query [⟨c, .ok b⟩]) [⟨c, .ok b⟩] [] s s) (makes : a.Makes c)
    (harmless : ∀ d ∈ S.calls query, d.writes = false)
    (reports : ∀ {more ended failed s t}, (more = [] ∧ ended = Option.isSome failed) ∨
      HearsBack S query more ended s t → a.ReadsBack more ended failed s t)
    (ends : ∀ o told made s t, (∀ r, fateAccount a α told made (some r) s t) →
      (f o).Follows (fateAccount a α) told made s t) :
    (x.attempt f).Follows (fateAccount a α) [⟨c, .ok b⟩] [] s s := by
  have fate {told : List Reply} {made : List Call} {value : Option (Outcome α)} {u v : Console}
      (reads : ∀ d ∈ made, d ∈ S.calls query) {more : List Reply}
      (eq : told = more ++ [⟨c, .ok b⟩])
      (back : (more = [] ∧ value.isSome = (value.bind Outcome.failure?).isSome) ∨
        HearsBack S query more value.isSome u v) : fateAccount a α told made value u v := by
    subst eq
    refine .accepted c b more makes (fun reply mem => ?_) (fun d mem => harmless d (reads d mem))
      (reports back)
    rcases back with ⟨rfl, -⟩ | ⟨failed, heard, -⟩
    · cases mem
    · exact harmless _ (heard.calls reply mem)
  refine loads.attempt ?_ ?_ ?_
  · rintro told made u v ⟨reads, more, eq, early | back⟩
    · exact fate reads eq (.inl ⟨early.1, rfl⟩)
    · exact fate reads eq (.inr back)
  · rintro told made o u v ⟨reads, more, eq, early | back⟩
    · exact absurd rfl (early.2 o)
    · exact ends o told made u v fun r => fate reads eq (.inr back)
  · rintro told made e u v ⟨reads, more, eq, early | back⟩
    · exact fate reads eq (.inl ⟨early.1, rfl⟩)
    · exact fate reads eq (.inr back)

theorem fate_setCordoned (node : String) (cordoned : Bool) (s : Console) :
    (setCordoned node cordoned).Follows (fateAccount (.nodes (.setCordoned node cordoned)) Unit)
      [] [] s s := by
  cases cordoned with
  | true | false =>
    refine follows_change rfl fun b t => ?_
    refine follows_reread (follows_loadNodes _ t) rfl (by decide) id ?_
    exact fun o told made s t fate => (follows_done _).mpr (fate _)

theorem fate_deleteNode (node : String) (s : Console) :
    (deleteNode node).Follows (fateAccount (.nodes (.delete node)) Unit) [] [] s s := by
  refine follows_change rfl fun b t => follows_reread (follows_loadNodes _ t) rfl (by decide) id ?_
  exact fun o told made s t fate => (follows_done _).mpr (fate _)

theorem fate_addLabel (node key value : String) (s : Console) :
    (addLabel node key value).Follows (fateAccount (.nodes (.addLabel node key value)) NodeDetail)
      [] [] s s := by
  unfold addLabel
  split
  · exact (follows_done _).mpr (.refused _ trivial)
  · refine follows_change rfl fun b t => follows_reread (follows_loadDetail node _ t) rfl ?_ id ?_
    · simp [nodeDetail, Call.writes]
    · intro o told made s t fate
      refine (follows_bind _ _).mpr ((follows_read _).mpr ?_)
      generalize t.nodes.detail.data = shown
      cases shown with
      | none | some detail => exact (follows_done _).mpr (fate _)

end

/-- An activity that makes a change keeps to its fate. -/
def writeAccount (a : Activity) : Account Console a.Result :=
  fun told made value s t =>
    a.writes = true → Fate a told made value.isSome (value.bind a.failure?) s t

theorem follows_fate (a : Activity) (s : Console) :
    a.action.Follows (writeAccount a) [] [] s s := by
  cases writes : a.writes with
  | false => exact .any fun _ _ _ _ _ is => absurd is (by rw [writes]; nofun)
  | true =>
    cases a with
    | session a =>
      cases a with
      | setQuota space limits => exact (fate_setQuota space limits s).imp fun fate _ => fate
      | pauseAgent =>
        have makes : (Activity.session .pauseAgent).Makes .pauseAgent := rfl
        exact (fate_switchAgent makes id (fun _ => rfl) s).imp fun fate _ => fate
      | resumeAgent =>
        have makes : (Activity.session .resumeAgent).Makes .resumeAgent := rfl
        exact (fate_switchAgent makes id (fun _ => rfl) s).imp fun fate _ => fate
      | _ => cases writes
    | jobs a =>
      cases a with
      | delete job => exact (fate_deleteJob job s).imp fun fate _ => fate
      | _ => cases writes
    | wizard a =>
      cases a with
      | submit what => exact (fate_submission what s).imp fun fate _ => fate
      | _ => cases writes
    | nodes a =>
      cases a with
      | setCordoned node cordoned => exact (fate_setCordoned node cordoned s).imp fun fate _ => fate
      | delete node => exact (fate_deleteNode node s).imp fun fate _ => fate
      | addLabel node key value => exact (fate_addLabel node key value s).imp fun fate _ => fate
      | _ => cases writes
    | views => cases writes

end PoolConsole
