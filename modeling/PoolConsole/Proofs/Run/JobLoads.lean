import PoolConsole.Proofs.Run.Frame
import PoolConsole.Proofs.Run.Sequence

namespace PoolConsole

def Call.listed? : Call → Option (Option String)
  | .jobs space => some space
  | _ => none

namespace Console

/-- What is shown of the jobs, and for which scope. -/
def listing (c : Console) : Panel (List Job) × Option Scope :=
  (c.jobs.panel, c.jobs.scope)

def beginJobs (c : Console) : Console :=
  { c with jobs := (c.jobs.begin c.scope).2 }

/-- The jobs asked for with a ticket have arrived. -/
def completeJobs (c : Console) (ticket : Ticket) (result : Outcome (List Job)) : Console :=
  { c with jobs := (c.jobs.complete ticket result).2 }

end Console

namespace Operation

open Console

/-- The rest of a load whose jobs are awaited. -/
def awaitJobs (space : Option String) (ticket : Ticket) : Action Console (Outcome LoadOutcome) :=
  .call (.jobs space) fun result => onJobs (.update fun b => b.complete ticket result)

end Operation

open PoolConsole.Action Console Operation

namespace Action

variable {α β : Type}

/-- Neither changes what is shown of the jobs nor asks for any. -/
abbrev Unlisted (x : Action Console α) : Prop :=
  x.Confined listing fun c _ => c.listed? = none

inductive LoadsOnce : Action Console α → Prop where
  | never {x : Action Console α} : x.Unlisted → LoadsOnce x
  | load (k : Outcome LoadOutcome → Action Console α) :
      (∀ r, (k r).Unlisted) → LoadsOnce (loadJobs.bind k)
  | later {β : Type} {x : Action Console β} {f : β → Action Console α} :
      x.Unlisted → (∀ b, LoadsOnce (f b)) → LoadsOnce (x.bind f)

namespace LoadsOnce

theorem bind {x : Action Console β} {f : β → Action Console α} (first : x.LoadsOnce)
    (next : ∀ b, (f b).Unlisted) : (x.bind f).LoadsOnce := by
  induction first with
  | never quiet => exact .never (quiet.bind next)
  | load k quiet =>
    rw [bind_assoc]
    exact .load _ fun r => (quiet r).bind next
  | later quiet _ ih =>
    rw [bind_assoc]
    exact .later quiet ih

theorem attempt {x : Action Console (Outcome β)} {f : β → Action Console (Outcome α)}
    (first : x.Unlisted) (next : ∀ b, (f b).LoadsOnce) : (x.attempt f).LoadsOnce := by
  refine .later first fun r => ?_
  cases r with
  | ok b => exact next b
  | error e => exact .never (.done _)

end LoadsOnce

/-- What is shown of the jobs is left alone in a step, or a load begins in it. -/
inductive LoadStep (s : Console) : List (Issue Console) → Action Console α → Console → Prop where
  | past {issues y t} : Keeps listing (·.listed? = none) s issues y t → LoadStep s issues y t
  | ahead {β issues t} {x : Action Console β} {f : β → Action Console α} :
      Keeps listing (·.listed? = none) s issues x t → x.value? = none → (∀ b, (f b).LoadsOnce) →
      LoadStep s issues (x.bind f) t
  | begins {issues space} {u : Console} {k : Outcome LoadOutcome → Action Console α} :
      (∀ i ∈ issues, i.call.listed? = none) → u.listing = s.listing →
      u.scope.toFetch = some space → (∀ r, (k r).Unlisted) →
      LoadStep s (issues ++ [⟨.jobs space, u.beginJobs⟩])
        ((awaitJobs space (u.jobs.begin u.scope).1).bind k) u.beginJobs

variable {s t u : Console} {reply : Reply} {issues before : List (Issue Console)}

/-- A step may come after something that leaves the jobs alone. -/
theorem LoadStep.after {y : Action Console α} (step : LoadStep u issues y t)
    (same : u.listing = s.listing) (asks : ∀ i ∈ before, i.call.listed? = none) :
    LoadStep s (before ++ issues) y t := by
  have both {later : List (Issue Console)} (quiet : ∀ i ∈ later, i.call.listed? = none) :
      ∀ i ∈ before ++ later, i.call.listed? = none := by
    intro i mem
    exact (List.mem_append.mp mem).elim (asks i) (quiet i)
  cases step with
  | past keeps => exact .past ⟨keeps.same.trans same, both keeps.asks, keeps.still⟩
  | ahead keeps unfinished next =>
    exact .ahead ⟨keeps.same.trans same, both keeps.asks, keeps.still⟩ unfinished next
  | begins quiet listed fetch rest =>
    rw [← List.append_assoc]
    exact .begins (both quiet) (listed.trans same) fetch rest

theorem advances_loadJobs {k : Outcome LoadOutcome → Action Console α} {y : Action Console α}
    (quiet : ∀ r, (k r).Unlisted) (run : (loadJobs.bind k).Advances s issues y t) :
    LoadStep s issues y t := by
  simp only [loadJobs, bind_eq, bind_assoc, advances_read_bind] at run
  cases fetch : s.scope.toFetch with
  | none =>
    rw [fetch] at run
    exact .past ((quiet _).keeps run)
  | some space =>
    rw [fetch] at run
    simp only [bind_assoc, onJobs, advances_update_bind, request, Action.bind, advances_call] at run
    obtain ⟨rfl, rfl, rfl⟩ := run
    exact @LoadStep.begins _ s [] space s k (by simp) rfl fetch quiet

theorem LoadsOnce.advances {x y : Action Console α} (once : x.LoadsOnce)
    (run : x.Advances s issues y t) : LoadStep s issues y t := by
  induction once generalizing s issues t with
  | never quiet => exact .past (quiet.keeps run)
  | load k quiet => exact advances_loadJobs quiet run
  | later quiet next ih =>
    cases run.passes with
    | waits run unfinished => exact .ahead (quiet.keeps run) unfinished next
    | ends first second =>
      -- The step is that of the second part, after a first one that leaves the jobs alone.
      have keeps := quiet.keeps first
      exact (ih _ second).after keeps.same keeps.asks

/-- An action whose load is ahead is answered something else first. -/
theorem LoadsOnce.takes {x : Action Console β} {f : β → Action Console α} {y : Action Console α}
    (next : ∀ b, (f b).LoadsOnce) (still : x.Still listing (·.listed? = none) s)
    (unfinished : x.value? = none) (takes : (x.bind f).Takes s reply issues y t) :
    reply.call.listed? = none ∧ LoadStep s issues y t := by
  cases takes.passes unfinished with
  | waits first waits =>
    exact ⟨still.answered first, .ahead (still.keeps first) waits next⟩
  | ends first second =>
    have keeps := still.keeps first
    exact ⟨still.answered first, ((next _).advances second).after keeps.same keeps.asks⟩

/-- The jobs that are awaited are taken over, and the jobs are left alone from then on. -/
theorem takes_awaitJobs {space : Option String} {ticket : Ticket}
    {k : Outcome LoadOutcome → Action Console α} {y : Action Console α}
    (quiet : ∀ r, (k r).Unlisted)
    (takes : ((awaitJobs space ticket).bind k).Takes s reply issues y t) :
    ∃ r, reply = ⟨.jobs space, r⟩ ∧
      Keeps listing (·.listed? = none) (s.completeJobs ticket r) issues y t := by
  simp only [awaitJobs, Action.bind, takes_call, onJobs, advances_update_bind] at takes
  obtain ⟨r, rfl, run⟩ := takes
  exact ⟨r, rfl, (quiet _).keeps run⟩

end Action

section
variable {α : Type}

theorem unlisted_modifyJobs {f : JobBoard → JobBoard}
    (keeps : ∀ b, (f b).panel = b.panel ∧ (f b).scope = b.scope) :
    (onJobs (.modify f)).Unlisted :=
  ⟨fun _ s same => (Prod.ext (keeps s.jobs).1 (keeps s.jobs).2 : _ = s.listing).trans same⟩

theorem unlisted_updateJobs {f : JobBoard → α × JobBoard}
    (keeps : ∀ b, (f b).2.panel = b.panel ∧ (f b).2.scope = b.scope) :
    (onJobs (.update f)).Unlisted :=
  ⟨fun _ s same => (Prod.ext (keeps s.jobs).1 (keeps s.jobs).2 : _ = s.listing).trans same⟩

end

theorem listed_of_about {k : Call → Prop} (jobs : ∀ space, ¬ k (.jobs space)) (c : Call)
    (_ : Console) (about : k c) : c.listed? = none := by
  cases c with
  | jobs space => exact absurd about (jobs space)
  | _ => rfl

/-- Whether the activity asks for jobs in order to count them only. -/
def Activity.countsJobs : Activity → Bool
  | .views .loadOverview => true
  | _ => false

theorem loadsOnce_loadJobs : loadJobs.LoadsOnce := by
  rw [← bind_done loadJobs]
  exact .load _ fun _ => .done _

theorem loadsOnce_reloadJobs : reloadJobs.LoadsOnce :=
  loadsOnce_loadJobs.bind fun _ => .done _

theorem JobActivity.loadsOnce (a : JobActivity) : a.action.LoadsOnce := by
  have delete (c : Call) (about : c.AboutJobs) : c.listed? = none :=
    listed_of_about (fun _ => id) c {} about
  cases a with
  | load => exact loadsOnce_loadJobs
  | setNamespace choice =>
    exact .later (confined_updateSession fun _ => rfl) fun _ => loadsOnce_loadJobs
  | setPage page => exact .never (unlisted_modifyJobs fun _ => ⟨rfl, rfl⟩)
  | toggleSelect id =>
    refine .never (unlisted_updateJobs fun b => ?_)
    unfold JobBoard.toggleSelect
    split
    · exact ⟨rfl, rfl⟩
    · exact ⟨rfl, rfl⟩
  | toggleSelectAll => exact .never (unlisted_modifyJobs fun _ => ⟨rfl, rfl⟩)
  | delete job =>
    exact .attempt (.request fun _ => delete (deletion job) trivial) fun () =>
      loadsOnce_reloadJobs.bind fun _ => .done _
  | deleteSelected =>
    refine .later (unlisted_updateJobs fun _ => ⟨rfl, rfl⟩) fun jobs => ?_
    refine .later (deleteEach_confined (fun c _ => delete c) jobs) fun results => ?_
    exact loadsOnce_reloadJobs.bind fun _ => .done _

theorem loadsOnce_concludeSubmission (result : Outcome Unit) (success : String) :
    (concludeSubmission result success).LoadsOnce := by
  have finishes : (finishSubmission result success).LoadsOnce := by
    refine .later (confined_modifyWizard fun _ => rfl) fun _ => ?_
    cases result with
    | ok => exact loadsOnce_reloadJobs.bind fun _ => .done _
    | error e => exact .never (.done _)
  exact finishes.bind fun _ => .bind (confined_modifyWizard fun _ => rfl) fun _ => .done _

theorem loadsOnce_submitCall {send : Action Console (Outcome Unit)} (sends : send.Unlisted)
    (success : String) : (submitCall send success).LoadsOnce :=
  .attempt (confined_updateWizard fun _ => rfl) fun () =>
    .later sends fun result => loadsOnce_concludeSubmission result success

theorem Activity.loadsOnce (a : Activity) (other : a.countsJobs = false) :
    a.action.LoadsOnce := by
  have may {k : Call → Prop} := listed_of_about (k := k)
  cases a with
  | session a =>
    exact .never (SessionActivity.confined (may fun _ => id) (fun _ _ => rfl) (fun _ _ => rfl)
      (fun _ _ => rfl) a fun _ _ _ => rfl)
  | jobs a => exact a.loadsOnce
  | wizard a =>
    by_cases submits : ∃ what, a = .submit what
    · obtain ⟨what, rfl⟩ := submits
      cases what with
      | filledIn =>
        exact .attempt (.read _) fun request => loadsOnce_submitCall (.request fun _ => rfl) _
      | custom template values defaults =>
        exact .attempt (.read _) fun request => loadsOnce_submitCall (.request fun _ => rfl) _
    · refine .never (WizardActivity.confined (fun _ _ _ => rfl) (may fun _ => id) a ?_)
      exact fun what eq => absurd ⟨what, eq⟩ submits
  | nodes a => exact .never (NodeActivity.confined (fun _ _ => rfl) (may fun _ => id) a)
  | views a =>
    refine .never (ViewActivity.confined (fun _ _ => rfl) (fun _ _ => rfl) (fun _ _ => rfl)
      (fun _ _ => rfl) (fun _ _ => rfl) (may fun _ => id) a ?_)
    rintro rfl
    cases other

/-- Counting the jobs leaves what is shown of them alone. -/
theorem unlisted_of_counts (a : Activity) (counts : a.countsJobs = true) :
    a.action.Confined listing fun _ _ => True := by
  cases a with
  | views a =>
    cases a with
    | loadOverview =>
      exact loadOverview_confined (fun _ _ => rfl) (fun _ _ _ => trivial) fun _ _ => trivial
    | _ => cases counts
  | _ => cases counts

end PoolConsole
