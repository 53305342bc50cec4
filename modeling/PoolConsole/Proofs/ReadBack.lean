import PoolConsole.Proofs.NamespaceProtocol
import PoolConsole.Proofs.Run.JobReloads
import PoolConsole.Proofs.Run.NodeLoads
import PoolConsole.Proofs.Run.Served

namespace PoolConsole

open Console

namespace MemoryPool

theorem perform_jobs (p : MemoryPool) (c : Call) (harmless : c.changesJobs = false) :
    (p.perform c).2.jobs = p.jobs := by
  cases c with
  | deploy | deleteJob => cases harmless
  | template name | resources nodes =>
    simp only [perform]
    split
    · rfl
    · rfl
  | _ => rfl

/-- What the table of nodes is made of. -/
def machines (p : MemoryPool) : List Device × List GpuNode :=
  (p.devices, p.gpus)

theorem perform_machines (p : MemoryPool) (c : Call) (harmless : c.changesNodes = false) :
    (p.perform c).2.machines = p.machines := by
  cases c with
  | cordon | uncordon | deleteNodes => cases harmless
  | template name | resources nodes =>
    simp only [perform]
    split
    · rfl
    · rfl
  | _ => rfl

end MemoryPool

variable {start : Console} {h since : List Moment} {m : Moment} {w : World}

/-- The scope that is recorded with the jobs changes only when a load begins. -/
theorem Run.jobs_scope_kept (run : Run start h w) (fresh : start.jobs = {})
    (last : Last jobList.Begins h since m) : w.console.jobs.scope = m.after.jobs.scope := by
  obtain ⟨earlier, rfl⟩ := last.split
  refine (run.stable (p := fun c => c.jobs.scope = m.after.jobs.scope) ?_ rfl).1
  intro m' mem same
  obtain ⟨earlier', v, v', prior, step⟩ := run.moment (List.mem_append_left _ mem)
  rw [← same]
  cases ((prior.listed fresh).step prior step).1 with
  | kept _ listing => exact ListingTurn.scope_of_listing listing
  | taken _ _ _ _ _ _ _ listing =>
    have kept := ListingTurn.scope_of_listing listing
    exact kept
  | begins _ _ u _ listing _ after =>
    -- Then a load would have begun since.
    refine absurd ?_ (last.not_later m' mem)
    have begun := congrArg Panel.issued (ListingTurn.panel_of_listing listing)
    change m'.after.jobs.panel.issued ≠ m'.before.jobs.panel.issued
    rw [after, ← begun]
    exact Nat.succ_ne_self _

/-- Once jobs have been loaded there is always a scope to load them for. -/
theorem Run.scope_settled (run : Run start h w) (fresh : start.session.filter = {})
    (last : Last jobList.Begins h since m) {space : Option String}
    (scope : m.after.scope = .ofChoice space) : ∀ m' ∈ since, m'.after.scope ≠ .pending := by
  obtain ⟨earlier, rfl⟩ := last.split
  intro m' mem pending
  have initialized : m.after.scope.isInitialized = true := by
    rw [scope]
    exact isInitialized_ofChoice space
  have before := (run.stays_initialized fresh initialized).2 m' mem
  have after := ((run.guarded fresh).2.2 m' (List.mem_append_left _ mem)).isInitialized before
  rw [pending] at after
  cases after

/-- The jobs have been asked for in a moment, since which the pool has accepted no change of jobs. A
change accepted in that moment itself came before the call. -/
structure JobsRead (w : World) (since : List Moment) (m : Moment) (space : Option String)
    (jobs : List Job) : Prop where
  asked : ⟨.jobs space, m.after⟩ ∈ m.issues
  answered : ⟨.jobs space, .ok jobs⟩ ∈ repliesTo since m.strand
  scope : m.after.scope = .ofChoice space
  recorded : w.console.jobs.scope = some (.ofChoice space)
  unchanged : ∀ m' ∈ since, ¬ m'.Accepts Call.changesJobs

/-- The rows have been made of what was asked for in a moment, since which the pool has accepted no
change of nodes. -/
structure RowsRead (since : List Moment) (m : Moment) (devices : List Device) (gpus : List GpuNode)
    (rows : List NodeRow) : Prop where
  asked : ⟨.devices, m.after⟩ ∈ m.issues ∧ ⟨.gpus false, m.after⟩ ∈ m.issues
  answered : ⟨.devices, .ok devices⟩ ∈ repliesTo since m.strand ∧
    ⟨.gpus false, .ok gpus⟩ ∈ repliesTo since m.strand
  combined : rows = NodeRow.combine devices gpus
  unchanged : ∀ m' ∈ since, ¬ m'.Accepts Call.changesNodes

variable {ui : UiConfig} {preferences : PreferenceStore}

theorem jobs_read (run : Run (.fresh ui preferences) h w) (quiet : w.Quiet) {jobs : List Job}
    (data : w.console.jobs.panel.data = some jobs) (clear : w.console.jobs.panel.error = none) :
    ∃ since m earlier space, h = since ++ m :: earlier ∧ JobsRead w since m space jobs := by
  have tracked := Source.tracked jobListPlan run
  obtain ⟨since, m, space, last, asked, answers, replied, same⟩ :=
    tracked.shown run quiet rfl data clear
  obtain ⟨earlier, split⟩ := last.split
  refine ⟨since, m, earlier, space, split, asked.calls _ List.mem_cons_self, ?_, asked.asks.1,
    ?_, ?_⟩
  · cases answers with
    | ok answers =>
      cases same
      exact replied.1
    | error => cases same
  · rw [run.jobs_scope_kept rfl last]
    exact asked.asks.2
  · intro m' mem accepts
    have ended := quiet.ended run (split ▸ List.mem_append_left _ mem)
    obtain ⟨m'', mem, pending⟩ := tracked.current last mem accepts ended
    exact run.scope_settled rfl last asked.asks.1 m'' mem pending

theorem rows_read (run : Run (.fresh ui preferences) h w) (quiet : w.Quiet) {rows : List NodeRow}
    (data : w.console.nodes.table.data = some rows) (clear : w.console.nodes.table.error = none) :
    ∃ since m earlier devices gpus, h = since ++ m :: earlier ∧
      RowsRead since m devices gpus rows := by
  have tracked := Source.tracked nodeTablePlan run
  obtain ⟨since, m, query, last, asked, answers, replied, same⟩ :=
    tracked.shown run quiet rfl data clear
  obtain ⟨earlier, split⟩ := last.split
  cases answers with
  | error => cases same
  | ok answers =>
    cases same
    refine ⟨since, m, earlier, answers.1, answers.2.1, split, ⟨?_, ?_⟩,
      ⟨replied.1, replied.2.1⟩, rfl, ?_⟩
    · exact asked.calls _ List.mem_cons_self
    · exact asked.calls _ (List.mem_cons_of_mem _ List.mem_cons_self)
    · intro m' mem accepts
      have ended := quiet.ended run (split ▸ List.mem_append_left _ mem)
      obtain ⟨m'', mem, blocked⟩ := tracked.current last mem accepts ended
      exact blocked

theorem JobsRead.of_pool {space : Option String} {jobs : List Job} {earlier : List Moment}
    (read : JobsRead w since m space jobs) {p₀ p : MemoryPool}
    (served : Served p₀ (since ++ m :: earlier) p) :
    jobs = p.jobs.filter fun job => (Scope.ofChoice space).admits job.owner := by
  obtain ⟨q, answer, same⟩ :=
    served.read MemoryPool.perform_jobs read.answered rfl read.unchanged
  cases answer
  rw [← same]
  refine List.filter_congr fun job _ => ?_
  cases space with
  | none => rfl
  | some space => exact Bool.beq_comm

theorem RowsRead.of_pool {devices : List Device} {gpus : List GpuNode} {rows : List NodeRow}
    {earlier : List Moment} (read : RowsRead since m devices gpus rows) {p₀ p : MemoryPool}
    (served : Served p₀ (since ++ m :: earlier) p) :
    rows = NodeRow.combine p.devices p.gpus := by
  obtain ⟨q, answer, same⟩ :=
    served.read MemoryPool.perform_machines read.answered.1 rfl read.unchanged
  obtain ⟨q', answer', same'⟩ :=
    served.read MemoryPool.perform_machines read.answered.2 rfl read.unchanged
  cases answer
  cases answer'
  rw [read.combined, ← (Prod.mk.inj same).1, ← (Prod.mk.inj same').2]
  congr 1
  exact List.filter_eq_self.mpr fun _ _ => rfl

structure ReadBack (h : List Moment) (w : World) : Prop where
  jobs : ∀ jobs, w.console.jobs.panel.data = some jobs → w.console.jobs.panel.error = none →
    ∃ since m earlier space, h = since ++ m :: earlier ∧ JobsRead w since m space jobs
  rows : ∀ rows, w.console.nodes.table.data = some rows → w.console.nodes.table.error = none →
    ∃ since m earlier devices gpus, h = since ++ m :: earlier ∧ RowsRead since m devices gpus rows
  /-- On a pool in memory the jobs shown are those that the scope of the last load admits. -/
  poolJobs : ∀ p₀ p, Served p₀ h p → ∀ jobs, w.console.jobs.panel.data = some jobs →
    w.console.jobs.panel.error = none → ∃ scope, w.console.jobs.scope = some scope ∧
      jobs = p.jobs.filter fun job => scope.admits job.owner
  poolRows : ∀ p₀ p, Served p₀ h p → ∀ rows, w.console.nodes.table.data = some rows →
    w.console.nodes.table.error = none → rows = NodeRow.combine p.devices p.gpus

/-- Once nothing is under way, jobs and rows that are shown without an error have been read back
after everything that the pool has accepted; on a pool in memory they are those of the pool. -/
theorem shown_is_read_back (run : Run (.fresh ui preferences) h w) (quiet : w.Quiet) :
    ReadBack h w := by
  refine ⟨fun _ => jobs_read run quiet, fun _ => rows_read run quiet, ?_, ?_⟩
  · intro p₀ p served jobs data clear
    obtain ⟨since, m, earlier, space, rfl, read⟩ := jobs_read run quiet data clear
    exact ⟨_, read.recorded, read.of_pool served⟩
  · intro p₀ p served rows data clear
    obtain ⟨since, m, earlier, devices, gpus, rfl, read⟩ := rows_read run quiet data clear
    exact read.of_pool served

/-- While a load is under way a job is deleted; the older load is answered last, with the job. -/
theorem jobs_shown_after_deletion :
    ∃ h w, Run (.fresh {} {}) h w ∧ ReadBack h w ∧ w.console.jobs.panel.data = some [] := by
  have chosen := Run.next (@Run.start (.fresh {} {}))
    (.begin (.session (.selectNamespace (some "a"))) (.get (.get (.set (.done _ _)))))
  have loading := chosen.next (.begin (.jobs .load) (.get (.get (.get (.set (.call _ _ _))))))
  have deleting := loading.next (.begin (.jobs (.delete { name := "x" })) (.call _ _ _))
  have deleted := deleting.next (.answer 2 _ ⟨.deleteJob _ _, .ok ()⟩ rfl
    (.call _ (.get (.get (.get (.set (.call _ _ _)))))))
  have read := deleted.next (.answer 2 _ ⟨.jobs _, .ok []⟩ rfl
    (.call _ (.get (.get (.set (.done _ _))))))
  have late := read.next (.answer 1 _ ⟨.jobs _, .ok [{ name := "x" }]⟩ rfl
    (.call _ (.get (.get (.set (.done _ _))))))
  refine ⟨_, _, late, shown_is_read_back late ?_, rfl⟩
  exact List.forall_mem_cons.mpr ⟨rfl, List.forall_mem_cons.mpr ⟨rfl,
    List.forall_mem_singleton.mpr rfl⟩⟩

end PoolConsole
