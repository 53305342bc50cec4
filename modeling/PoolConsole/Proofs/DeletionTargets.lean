import PoolConsole.Proofs.BulkDeletion
import PoolConsole.Proofs.Run.Served

namespace PoolConsole

open Operation

/-- A deletion begins of which the job is a target: it is given, or it is listed and selected. -/
def Moment.Targets (m : Moment) (target : Job) : Prop :=
  m.begins = true ∧ m.activity = .jobs (.delete target) ∨ m.DeletesSelected ∧ target ∈ m.targets

section
variable {start : Console} {h : List Moment} {m : Moment} {w : World}

/-- A deletion that is answered is that of a target. -/
theorem Run.exists_target (run : Run start h w) (mem : m ∈ h) {reply : Reply}
    (answered : m.reply = some reply) (deletes : reply.call.deletesJob = true) :
    ∃ begun ∈ h, ∃ target, begun.strand = m.strand ∧ begun.Targets target ∧
      reply.call = deletion target := by
  obtain ⟨since, before, split⟩ := List.append_of_mem mem
  obtain ⟨rest, there⟩ := run.strand_of_mem mem
  obtain ⟨begun, first, here, begins⟩ := run.exists_begins there
  have activity := run.activity_eq mem first here
  have told : repliesTo (m :: before) m.strand = reply :: repliesTo before m.strand := by
    rw [repliesTo_cons, answered]
    rfl
  have own : m.activity.Deletes reply.call :=
    (split ▸ run).selection.deletes reply (by rw [told]; exact List.mem_cons_self) deletes
  rcases own.cases with ⟨job, is, call⟩ | is
  · exact ⟨begun, first, job, here, .inl ⟨begins, activity.trans is⟩, call⟩
  · have selected : begun.DeletesSelected := ⟨begins, activity.trans is⟩
    obtain ⟨later, earlier, rfl⟩ := List.append_of_mem first
    obtain ⟨_, -, turn⟩ := run.bulkTurn selected split here.symm
    have answers := turn.answers
    rw [here, told] at answers
    obtain ⟨job, target, call⟩ := answers.latest fun space loads => by
      rw [loads] at deletes
      cases deletes
    exact ⟨begun, first, job, here, .inr ⟨selected, target⟩, call⟩

end

/-- The pool has accepted a deletion that removes the job. -/
def Reply.removes (job : Job) : Reply → Bool
  | ⟨.deleteJob name space, .ok _⟩ => MemoryPool.isMeant job name space
  | _ => false

def Moment.removes (m : Moment) (job : Job) : Bool :=
  m.reply.any (Reply.removes job)

theorem Reply.removes_of_error (job : Job) (c : Call) (e : PoolError) :
    Reply.removes job ⟨c, .error e⟩ = false := by
  cases c <;> rfl

theorem Reply.accepts_of_removes {job : Job} {reply : Reply}
    (removes : reply.removes job = true) : reply.accepts Call.deletesJob = true := by
  unfold Reply.removes at removes
  split at removes
  next => rfl
  next => cases removes

theorem jobs_spared {removes : Job → Bool} (none : ∀ job, removes job = false)
    {jobs left : List Job} (kept : jobs <+: left) :
    (jobs.filter fun job => !removes job) <+: left := by
  rwa [List.filter_eq_self.mpr fun job _ => congrArg not (none job)]

/-- An accepted call keeps the jobs that it does not remove, in their order. -/
theorem MemoryPool.jobs_perform (p : MemoryPool) (c : Call) :
    (p.jobs.filter fun job => !Reply.removes job ⟨c, (p.perform c).1⟩) <+:
      (p.perform c).2.jobs := by
  cases c with
  | deleteJob name space => exact List.prefix_refl _
  | deploy request => exact jobs_spared (fun _ => rfl) (List.prefix_append _ _)
  | template | resources =>
    refine jobs_spared (fun _ => rfl) ?_
    simp only [perform]
    split
    · exact List.prefix_refl _
    · exact List.prefix_refl _
  | _ => exact jobs_spared (fun _ => rfl) (List.prefix_refl _)

theorem MemoryBackend.jobs_answer (b : MemoryBackend) (c : Call) :
    (b.pool.jobs.filter fun job => !Reply.removes job ⟨c, (b.answer c).1⟩) <+:
      (b.answer c).2.pool.jobs := by
  rcases b.answer_cases c with ⟨outcome, left⟩ | ⟨e, failed, left⟩
  · rw [outcome, left]
    exact b.pool.jobs_perform c
  · rw [failed, left]
    exact jobs_spared (fun job => Reply.removes_of_error job c e) (List.prefix_refl _)

variable {p₀ q p : MemoryPool} {h later : List Moment}

/-- The jobs that no moment removes are still there, in their order. -/
theorem Served.jobs_kept (before : Served p₀ h q) (after : Served p₀ (later ++ h) p) :
    (q.jobs.filter fun job => !later.any (·.removes job)) <+: p.jobs := by
  induction later generalizing p with
  | nil =>
    rw [before.unique after]
    exact jobs_spared (fun _ => rfl) (List.prefix_refl _)
  | cons m later ih =>
    have first : (q.jobs.filter fun job => !(m :: later).any (·.removes job)) =
        (q.jobs.filter fun job => !later.any (·.removes job)).filter fun job => !m.removes job := by
      rw [List.filter_filter]
      simp only [List.any_cons, Bool.not_or]
    rw [first]
    cases after with
    | begins after none =>
      refine jobs_spared (fun job => ?_) (ih after)
      rw [Moment.removes, none]
      rfl
    | answers b c after reply =>
      have own (job : Job) : m.removes job = Reply.removes job ⟨c, (b.answer c).1⟩ := by
        rw [Moment.removes, reply]
        rfl
      simp only [own]
      exact ((ih after).filter _).trans (b.jobs_answer c)

/-- A job that is gone has been removed in one of the moments. -/
theorem Served.exists_removes (before : Served p₀ h q) (after : Served p₀ (later ++ h) p)
    {job : Job} (there : job ∈ q.jobs) (gone : job ∉ p.jobs) :
    ∃ m ∈ later, m.removes job = true := by
  cases removed : later.any (·.removes job) with
  | true => exact List.any_eq_true.mp removed
  | false =>
    refine absurd ((before.jobs_kept after).subset (List.mem_filter.mpr ⟨there, ?_⟩)) gone
    exact congrArg not removed

/-- The deletion of a target covers the jobs of its name and, if it has an owner, of that owner
alone. -/
def Job.Covers (target job : Job) : Prop :=
  job.name = target.name ∧ (target.owner = "" ∨ job.owner = target.owner)

theorem isMeant_iff (job target : Job) :
    MemoryPool.isMeant job target.name target.namespace? = true ↔ target.Covers job := by
  unfold MemoryPool.isMeant Job.namespace? Job.Covers
  split
  next none => simp [none]
  next some => simp [some]

theorem Moment.removes_iff {m : Moment} {target : Job} {a : (deletion target).Answer}
    (accepted : m.reply = some ⟨deletion target, .ok a⟩) (job : Job) :
    m.removes job = true ↔ target.Covers job := by
  rw [Moment.removes, accepted]
  exact isMeant_iff job target

theorem Moment.accepts_of_removes {m : Moment} {job : Job} (removes : m.removes job = true) :
    m.Accepts Call.deletesJob := by
  rw [Moment.accepts_iff]
  rw [Moment.removes] at removes
  cases answered : m.reply with
  | none =>
    rw [answered] at removes
    cases removes
  | some reply =>
    rw [answered] at removes
    exact Reply.accepts_of_removes removes

/-- An accepted deletion is that of a target, and removes what that covers. -/
theorem Run.removes {start : Console} {w : World} {m : Moment} (run : Run start h w) (mem : m ∈ h)
    (accepts : m.Accepts Call.deletesJob) :
    ∃ begun ∈ h, ∃ target, begun.strand = m.strand ∧ begun.Targets target ∧
      ∀ job, m.removes job = true ↔ target.Covers job := by
  obtain ⟨c, a, accepted, deletes⟩ := accepts
  obtain ⟨begun, first, target, here, targets, call⟩ := run.exists_target mem accepted deletes
  subst call
  exact ⟨begun, first, target, here, targets, Moment.removes_iff accepted⟩

structure WithinTargets (later h : List Moment) (q p : MemoryPool) : Prop where
  /-- The jobs that no accepted deletion removes are all still there, in their order. -/
  kept : (q.jobs.filter fun job => !later.any (·.removes job)) <+: p.jobs
  /-- An accepted deletion is that of a target of its activity, and removes what that covers. -/
  removes : ∀ m ∈ later, m.Accepts Call.deletesJob →
    ∃ begun ∈ later ++ h, ∃ target, begun.strand = m.strand ∧ begun.Targets target ∧
      ∀ job, m.removes job = true ↔ target.Covers job
  /-- A job that is gone is covered by a target whose deletion has been accepted. -/
  gone : ∀ job ∈ q.jobs, job ∉ p.jobs →
    ∃ m ∈ later, m.Accepts Call.deletesJob ∧
      ∃ begun ∈ later ++ h, ∃ target, begun.strand = m.strand ∧ begun.Targets target ∧
        target.Covers job

/-- Whatever is deleted is a target, and the jobs that a target covers have its name and, if it has
one, its owner. -/
theorem deletion_within_targets {start : Console} {w : World} (run : Run start (later ++ h) w)
    (before : Served p₀ h q) (after : Served p₀ (later ++ h) p) : WithinTargets later h q p := by
  have within (m : Moment) (mem : m ∈ later) := run.removes (List.mem_append_left h mem)
  constructor
  case kept => exact before.jobs_kept after
  case removes => exact within
  case gone =>
    intro job there gone
    obtain ⟨m, mem, removes⟩ := before.exists_removes after there gone
    have accepts := Moment.accepts_of_removes removes
    obtain ⟨begun, first, target, here, targets, covers⟩ := within m mem accepts
    exact ⟨m, mem, accepts, begun, first, target, here, targets, (covers job).mp removes⟩

/-- The selected job of one owner is deleted; the jobs of the same name of others are left. -/
theorem same_name_left :
    ∃ later h w q p, Run (.fresh {} {}) (later ++ h) w ∧ WithinTargets later h q p ∧
      q.jobs.map (fun job => (job.name, job.owner)) = [("a", "al"), ("a", "bob"), ("a", "")] ∧
      p.jobs.map (fun job => (job.name, job.owner)) = [("a", "bob"), ("a", "")] := by
  let target : Job := { id := "1", name := "a", owner := "al" }
  let others : List Job := [{ id := "2", name := "a", owner := "bob" }, { id := "3", name := "a" }]
  let pool : MemoryPool := { jobs := target :: others }
  have chosen := Run.next (@Run.start (.fresh {} {})) (.begin (.jobs (.setNamespace none))
    (.get (.get (.set (.get (.get (.get (.set (.call _ _ _)))))))))
  have listed := chosen.next (.answer 0 _ ⟨.jobs none, .ok (target :: others)⟩ rfl
    (.call _ (.get (.get (.set (.done _ _))))))
  have marked := listed.next (.begin (.jobs (.toggleSelect "1")) (.get (.get (.set (.done _ _)))))
  have begun := marked.next (.begin (.jobs .deleteSelected) (.get (.get (.set (.call _ _ _)))))
  have deleted := begun.next (.answer 2 _ ⟨.deleteJob "a" (some "al"), .ok ()⟩ rfl
    (.call _ (.get (.get (.get (.set (.call _ _ _)))))))
  have within := @deletion_within_targets pool pool { jobs := others } [_, _, _] [_, _] _ _ deleted
    (.begins (.answers { pool } (.jobs none) (.begins .start rfl) rfl) rfl)
    (.answers { pool } (.deleteJob "a" (some "al"))
      (.begins (.begins (.answers { pool } (.jobs none) (.begins .start rfl) rfl) rfl) rfl) rfl)
  exact ⟨_, _, _, _, _, deleted, within, rfl, rfl⟩

/-- Only jobs with the name and the owner of a target are gone, whatever the owners are. -/
def DeletionsConfined : Prop :=
  ∀ h later w p₀ q p, Run (.fresh {} {}) (later ++ h) w → Served p₀ h q →
    Served p₀ (later ++ h) p → ∀ job ∈ q.jobs, job ∉ p.jobs →
      ∃ begun ∈ later ++ h, ∃ target, begun.Targets target ∧
        job.name = target.name ∧ job.owner = target.owner

/-- The deletion of a listed job without an owner removes a job of the same name that has one. -/
theorem not_deletionsConfined : ¬ DeletionsConfined := by
  intro confined
  let unowned : Job := { id := "1", name := "a" }
  let owned : Job := { id := "2", name := "a", owner := "bob" }
  let pool : MemoryPool := { jobs := [unowned, owned] }
  have chosen := Run.next (@Run.start (.fresh {} {})) (.begin (.jobs (.setNamespace none))
    (.get (.get (.set (.get (.get (.get (.set (.call _ _ _)))))))))
  have listed := chosen.next (.answer 0 _ ⟨.jobs none, .ok [unowned, owned]⟩ rfl
    (.call _ (.get (.get (.set (.done _ _))))))
  have begun := listed.next (.begin (.jobs (.delete unowned)) (.call _ _ _))
  have deleted := begun.next (.answer 1 _ ⟨.deleteJob "a" none, .ok ()⟩ rfl
    (.call _ (.get (.get (.get (.set (.call _ _ _)))))))
  have gone := confined [_, _] [_, _] _ pool pool {} deleted
    (.answers { pool } (.jobs none) (.begins .start rfl) rfl)
    (.answers { pool } (.deleteJob "a" none)
      (.begins (.answers { pool } (.jobs none) (.begins .start rfl) rfl) rfl) rfl)
    owned (List.mem_cons_of_mem _ List.mem_cons_self) List.not_mem_nil
  obtain ⟨m, mem, target, targets, -, owner⟩ := gone
  have given : unowned = target := by
    simp only [List.cons_append, List.nil_append, List.mem_cons, List.not_mem_nil, or_false] at mem
    rcases mem with rfl | rfl | rfl | rfl
    · simp [Moment.Targets, Moment.DeletesSelected, Moment.begins] at targets
    · simpa [Moment.Targets, Moment.DeletesSelected, Moment.begins] using targets
    · simp [Moment.Targets, Moment.DeletesSelected, Moment.begins] at targets
    · simp [Moment.Targets, Moment.DeletesSelected, Moment.begins] at targets
  subst given
  exact absurd owner (by decide)

end PoolConsole
