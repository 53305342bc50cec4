import PoolConsole.Proofs.Run.Deletions

/-!
What comes of the deletion of the selected jobs, whatever is answered and whatever else happens
meanwhile.

* `BulkStage`: how far it has come. `Run.bulk`: it is always at one of these stages.
* `Run.marked_since`: what is selected while it is under way has been selected since it began.
* `bulk_deletion`: what it calls, in which order, and its outcome.
-/

namespace PoolConsole

open Operation

/-- The selected jobs among those that are listed when the moment begins. -/
def Moment.targets (m : Moment) : List Job :=
  m.before.jobs.jobs.filter fun job => m.before.jobs.selected.contains job.id

def Moment.Marks (id : String) (m : Moment) : Prop :=
  m.begins = true ∧
    (m.activity = .jobs (.toggleSelect id) ∨ m.activity = .jobs .toggleSelectAll)

def Moment.DeletesSelected (m : Moment) : Prop :=
  m.begins = true ∧ m.activity = .jobs .deleteSelected

/-! ## Stages -/

/-- How far the deletion of some jobs has come: by the replies to it so far, the latest first, the
calls that it has made, in order, and its outcome once it has ended. -/
inductive BulkStage (targets : List Job) : List Reply → List Call → Option BulkOutcome → Prop where
  | deleting {told} (job : Job) : targets[told.length]? = some job →
      BulkStage targets told ((targets.take told.length ++ [job]).map deletion) none
  | loading {told} (space : Option String) : told.length = targets.length →
      BulkStage targets told (targets.map deletion ++ [.jobs space]) none
  /-- There is no scope to load the list for. -/
  | skipped {told} : told.length = targets.length →
      BulkStage targets told (targets.map deletion) (some (bulkOutcome targets told.reverse))
  | loaded {told} (space : Option String) (reply : Reply) : told.length = targets.length →
      BulkStage targets (reply :: told) (targets.map deletion ++ [.jobs space])
        (some (bulkOutcome targets (reply :: told).reverse))

namespace BulkStage

variable {targets : List Job} {told : List Reply} {reply : Reply} {calls made : List Call}
  {value : Option BulkOutcome} {s t : Console}

/-- Before the list has been asked for. -/
theorem of_turn (turn : BulkTurn targets told made value s t) (few : told.length ≤ targets.length) :
    BulkStage targets told ((targets.take told.length).map deletion ++ made) value := by
  obtain ⟨-, -, -, rfl, rfl⟩ := turn
  cases here : targets[told.length]? with
  | some job =>
    rw [nextCalls, here]
    have stage : BulkStage targets told _ none := deleting job here
    rwa [List.map_append] at stage
  | none =>
    have count : told.length = targets.length :=
      Nat.le_antisymm few (List.getElem?_eq_none_iff.mp here)
    rw [count, List.take_length, nextCalls_of_deleted]
    cases s.scope.toFetch with
    | none =>
      rw [Option.toList_none, List.map_nil, List.append_nil]
      exact skipped count
    | some space => exact loading space count

theorem next (stage : BulkStage targets told calls none)
    (turn : BulkTurn targets (reply :: told) made value s t) :
    BulkStage targets (reply :: told) (calls ++ made) value := by
  cases stage with
  | deleting job here =>
    have more := (List.getElem?_eq_some_iff.mp here).1
    have stage := of_turn turn more
    rwa [List.length_cons, List.take_add_one, here] at stage
  | loading space count =>
    obtain ⟨-, -, -, rfl, rfl⟩ := turn
    rw [List.length_cons, count, nextCalls_of_done, List.append_nil]
    exact loaded space reply count

theorem outcome {o : BulkOutcome} (stage : BulkStage targets told calls (some o)) :
    o = bulkOutcome targets told.reverse := by
  cases stage with
  | skipped | loaded => rfl

end BulkStage

/-! ## Runs -/

variable {start : Console} {later earlier : List Moment} {m : Moment} {w : World}

/-- The deletion of some jobs keeps to its account; nothing is asked of other activities. -/
def bulkAccount (targets : List Job) : (a : Activity) → Account Console a.Result
  | .jobs .deleteSelected => BulkTurn targets
  | _ => fun _ _ _ _ _ => True

theorem Moment.follows_bulk (deletes : m.DeletesSelected) :
    m.activity.action.Follows (bulkAccount m.targets m.activity) [] [] m.before m.before := by
  obtain ⟨n, a, reply, before, after, issues, rest⟩ := m
  obtain ⟨-, rfl⟩ := deletes
  exact follows_deleteSelected before

/-- What the deletion does in any of its moments. -/
theorem Run.bulkTurn (run : Run start (later ++ m :: earlier) w) (deletes : m.DeletesSelected)
    {since before : List Moment} {m' : Moment}
    (split : later ++ m :: earlier = since ++ m' :: before) (same : m'.strand = m.strand) :
    ∃ rest : Action Console BulkOutcome,
      (⟨m'.activity, m'.rest⟩ : Strand) = ⟨.jobs .deleteSelected, rest⟩ ∧
      BulkTurn m.targets (repliesTo (m' :: before) m.strand) (m'.issues.map (·.call)) rest.value?
        m'.before m'.after := by
  have mem : m ∈ later ++ m :: earlier := List.mem_append_right _ List.mem_cons_self
  have mem' : m' ∈ later ++ m :: earlier := split ▸ List.mem_append_right _ List.mem_cons_self
  have follows (m'' : Moment) (other : m'' ∈ later ++ m :: earlier)
      (here : m''.strand = m.strand) (begins : m''.begins = true) :
      m''.activity.action.Follows (bulkAccount m.targets m''.activity) [] [] m''.before
        m''.before := by
    rw [run.eq_of_begins mem other deletes.1 begins here]
    exact Moment.follows_bulk deletes
  have turn := (run.pledged_of follows).1 since m' before split same
  have activity := (run.activity_eq mem mem' same).trans deletes.2
  obtain ⟨n, a, reply, before', after, issues, rest⟩ := m'
  subst activity
  exact ⟨rest, rfl, turn⟩

/-- The deletion is always at one of its stages. -/
theorem Run.bulk (run : Run start (later ++ m :: earlier) w) (deletes : m.DeletesSelected) :
    ∃ rest : Action Console BulkOutcome,
      w.strands[m.strand]? = some ⟨.jobs .deleteSelected, rest⟩ ∧
      BulkStage m.targets (repliesTo (later ++ m :: earlier) m.strand)
        (callsOf (later ++ m :: earlier) m.strand) rest.value? ∧
      AnswersDeletions m.targets (repliesTo (later ++ m :: earlier) m.strand) := by
  induction later generalizing w with
  | nil =>
    obtain ⟨rest, is, turn⟩ := run.bulkTurn deletes rfl rfl
    have told : repliesTo (m :: earlier) m.strand = [] := run.repliesTo_eq_nil_iff.mpr deletes.1
    cases run with
    | next run step =>
      refine ⟨rest, is ▸ step.strand_after, ?_, turn.answers⟩
      rw [List.nil_append, callsOf_cons, callsOf_of_fresh (run.strand_fresh step deletes.1)]
      rw [told] at turn ⊢
      exact .of_turn turn (Nat.zero_le _)
  | cons m' later ih =>
    have whole := run
    cases run with
    | next run step =>
      obtain ⟨rest, there, stage, answers⟩ := ih run
      by_cases same : m'.strand = m.strand
      · have latest : (m' :: later) ++ m :: earlier = [] ++ m' :: (later ++ m :: earlier) := rfl
        obtain ⟨rest', is, turn⟩ := whole.bulkTurn deletes latest same
        have older : m ∈ later ++ m :: earlier := List.mem_append_right _ List.mem_cons_self
        rw [← same] at there stage turn ⊢
        refine ⟨rest', is ▸ step.strand_after, ?_, turn.answers⟩
        rw [step.unfinished there] at stage
        rw [List.cons_append, callsOf_cons]
        rw [repliesTo_cons] at turn ⊢
        cases answered : m'.reply with
        | some reply =>
          rw [answered] at turn
          exact stage.next turn
        | none =>
          have fresh := run.strand_fresh step (congrArg Option.isNone answered) m older
          exact absurd same (Nat.ne_of_gt fresh)
      · rw [List.cons_append, repliesTo_cons_of_ne (Ne.symm same),
          callsOf_cons_of_ne (Ne.symm same)]
        exact ⟨rest, step.strand_left (Ne.symm same) there, stage, answers⟩

/-! ## The selection meanwhile -/

theorem JobBoard.mem_toggleSelect {jobId other : String} (differs : jobId ≠ other)
    (b : JobBoard) : jobId ∈ (b.toggleSelect other).2.selected ↔ jobId ∈ b.selected := by
  unfold toggleSelect
  split
  · simp [differs]
  · simp [differs]

/-- Only a job that is marked comes into the selection, and only such a job leaves it, unless a
deletion begins. -/
theorem Run.mem_selected (run : Run start (later ++ m :: earlier) w) {jobId : String}
    (not : ¬ m.Marks jobId) :
    (jobId ∈ m.after.jobs.selected → jobId ∈ m.before.jobs.selected) ∧
      (¬ m.DeletesSelected → jobId ∈ m.before.jobs.selected → jobId ∈ m.after.jobs.selected) := by
  have selected := run.selected_eq
  cases begins : m.begins with
  | false =>
    rw [begins, if_neg Bool.false_ne_true] at selected
    rw [selected]
    exact ⟨id, fun _ => id⟩
  | true =>
    rw [begins, if_pos rfl] at selected
    rw [selected]
    unfold Activity.select
    split
    next other activity =>
      have differs : jobId ≠ other := by
        rintro rfl
        exact not ⟨begins, .inl activity⟩
      rw [JobBoard.mem_toggleSelect differs]
      exact ⟨id, fun _ => id⟩
    next activity => exact absurd ⟨begins, .inr activity⟩ not
    next activity =>
      exact ⟨fun mem => absurd mem List.not_mem_nil, fun no => absurd ⟨begins, activity⟩ no⟩
    next => exact ⟨id, fun _ => id⟩

/-- What is selected after the selection has been empty has been marked since. -/
theorem Run.marked_since (run : Run start (later ++ m :: earlier) w)
    (empty : m.after.jobs.selected = []) {jobId : String}
    (selected : jobId ∈ w.console.jobs.selected) : ∃ m' ∈ later, m'.Marks jobId := by
  induction later generalizing w with
  | nil =>
    rw [← run.after_eq, empty] at selected
    cases selected
  | cons m' later ih =>
    by_cases marks : m'.Marks jobId
    · exact ⟨m', List.mem_cons_self, marks⟩
    · have step : Run start ([] ++ m' :: (later ++ m :: earlier)) w := run
      rw [← run.after_eq] at selected
      have before := (step.mem_selected marks).1 selected
      cases run with
      | next run step =>
        rw [step.before_eq] at before
        obtain ⟨m'', mem, marks⟩ := ih run before
        exact ⟨m'', List.mem_cons_of_mem m' mem, marks⟩

/-- What is selected stays so until it is marked or a deletion begins. -/
theorem Run.still_selected (run : Run start (later ++ m :: earlier) w) {jobId : String}
    (selected : jobId ∈ m.after.jobs.selected)
    (left : ∀ m' ∈ later, ¬ m'.Marks jobId ∧ ¬ m'.DeletesSelected) :
    jobId ∈ w.console.jobs.selected := by
  have kept (m' : Moment) (mem : m' ∈ later) (before : jobId ∈ m'.before.jobs.selected) :
      jobId ∈ m'.after.jobs.selected := by
    obtain ⟨since, between, rfl⟩ := List.append_of_mem mem
    rw [List.append_assoc] at run
    exact (run.mem_selected (left m' mem).1).2 (left m' mem).2 before
  exact (run.stable (p := fun c => jobId ∈ c.jobs.selected) kept selected).1

/-! ## The deletion as a whole -/

structure BulkDeletion (later : List Moment) (m : Moment) (earlier : List Moment) (w : World) :
    Prop where
  /-- Each target is deleted once, in order and after the one before has been answered, whatever the
  answers are; then the list is loaded, at most once. -/
  stage : ∃ rest : Action Console BulkOutcome,
    w.strands[m.strand]? = some ⟨.jobs .deleteSelected, rest⟩ ∧
    BulkStage m.targets (repliesTo (later ++ m :: earlier) m.strand)
      (callsOf (later ++ m :: earlier) m.strand) rest.value?
  /-- The answers are to those deletions. -/
  answers : AnswersDeletions m.targets (repliesTo (later ++ m :: earlier) m.strand)
  /-- The list is loaded for the scope of the moment in which the last deletion is answered. -/
  loads : ∀ since m' before, later ++ m :: earlier = since ++ m' :: before →
    m'.strand = m.strand → (repliesTo (m' :: before) m.strand).length = m.targets.length →
    m'.issues.map (·.call) = m'.before.scope.toFetch.toList.map .jobs
  /-- In the end all targets have been attempted, and exactly those whose deletion has failed are
  listed as failures, in order. -/
  outcome : ∀ o, w.strands[m.strand]? = some ⟨.jobs .deleteSelected, .done o⟩ →
    o.attempted = m.targets.length ∧
    o.failures = ((m.targets.zip (repliesTo (later ++ m :: earlier) m.strand).reverse).filterMap
      fun d => BulkFailure.of? d.1.name d.2.failure?) ∧
    o.failures.length ≤ o.attempted ∧ o.succeeded + o.failures.length = o.attempted
  emptied : m.after.jobs.selected = []
  /-- What is selected meanwhile is still selected in the end. -/
  kept : ∀ since m' between jobId, later = since ++ m' :: between →
    jobId ∈ m'.after.jobs.selected → (∀ m'' ∈ since, ¬ m''.Marks jobId ∧ ¬ m''.DeletesSelected) →
    jobId ∈ w.console.jobs.selected
  /-- Another deletion that begins meanwhile has no target on account of the first selection. -/
  second : ∀ since m' between, later = since ++ m' :: between → m'.DeletesSelected →
    ∀ job ∈ m'.targets, ∃ m'' ∈ between, m''.Marks job.id

theorem bulk_deletion (run : Run start (later ++ m :: earlier) w) (deletes : m.DeletesSelected) :
    BulkDeletion later m earlier w := by
  have emptied : m.after.jobs.selected = [] := by
    rw [run.selected_eq, deletes.1, if_pos rfl, deletes.2]
    rfl
  obtain ⟨rest, there, stage, answers⟩ := run.bulk deletes
  constructor
  case stage => exact ⟨rest, there, stage⟩
  case answers => exact answers
  case emptied => exact emptied
  case loads =>
    intro since m' before split same count
    obtain ⟨rest, -, turn⟩ := run.bulkTurn deletes split same
    rw [turn.calls, count, nextCalls_of_deleted]
  case outcome =>
    intro o ended
    rw [there, Option.some.injEq, Strand.mk.injEq, heq_eq_eq] at ended
    rw [ended.2] at stage
    obtain rfl := stage.outcome
    have counts := bulkOutcome_counts m.targets
      (repliesTo (later ++ m :: earlier) m.strand).reverse
    exact ⟨rfl, rfl, counts, Nat.sub_add_cancel counts⟩
  case kept =>
    rintro since m' between jobId rfl selected left
    rw [List.append_assoc] at run
    exact run.still_selected selected left
  case second =>
    rintro since m' between rfl deletes' job target
    rw [List.append_assoc] at run
    obtain ⟨v, v', prior, step⟩ := run.split
    have selected : job.id ∈ m'.before.jobs.selected := by
      simpa using (List.mem_filter.mp target).2
    rw [step.before_eq] at selected
    exact prior.marked_since emptied selected

/-- A job that is selected while two others are deleted stays selected, and the failure of the first
deletion does not keep the second from being made. -/
theorem selected_during_deletion :
    ∃ start later m earlier w, Run start (later ++ m :: earlier) w ∧ m.DeletesSelected ∧
      m.targets = [{ id := "1", name := "a", owner := "al" }, { id := "2", name := "b" }] ∧
      BulkDeletion later m earlier w ∧
      callsOf (later ++ m :: earlier) m.strand =
        [.deleteJob "a" (some "al"), .deleteJob "b" none, .jobs none] ∧
      w.console.jobs.selected = ["3"] := by
  let jobs : List Job := [{ id := "1", name := "a", owner := "al" }, { id := "2", name := "b" },
    { id := "3", name := "b", owner := "al" }]
  let start : Console := {
    session := { filter := ⟨.all, true⟩ }
    jobs := { panel := { data := some jobs }, selected := ["2", "1"] } }
  have begun := Run.next (@Run.start start)
    (.begin (.jobs .deleteSelected) (.get (.get (.set (.call _ _ _)))))
  have marked := begun.next (.begin (.jobs (.toggleSelect "3")) (.get (.get (.set (.done _ _)))))
  have failed := marked.next
    (.answer 0 _ ⟨.deleteJob "a" (some "al"), .error (.backend "held")⟩ rfl (.call _ (.call _ _ _)))
  have deleted := failed.next (.answer 0 _ ⟨.deleteJob "b" none, .ok ()⟩ rfl
    (.call _ (.get (.get (.get (.set (.call _ _ _)))))))
  have comes := @bulk_deletion start [_, _, _] [] _ _ deleted ⟨rfl, rfl⟩
  exact ⟨start, [_, _, _], _, [], _, deleted, ⟨rfl, rfl⟩, rfl, comes, rfl, rfl⟩

end PoolConsole
