import PoolConsole.Proofs.Run.Account

namespace PoolConsole

open PoolConsole.Action Console Operation

/-! ## The outcome of a run of deletions -/

/-- What is listed of an item that may have failed. -/
def BulkFailure.of? (item : String) (failed : Option PoolError) : Option BulkFailure :=
  failed.map fun e => ⟨item, e.userMessage⟩

theorem BulkOutcome.foldl_record (o : BulkOutcome) (results : List (String × Outcome Unit)) :
    results.foldl (fun o r => o.record r.1 r.2) o =
      { attempted := o.attempted + results.length
        failures := o.failures ++
          results.filterMap fun r => BulkFailure.of? r.1 (Outcome.failure? r.2) } := by
  induction results generalizing o with
  | nil => simp
  | cons r results ih =>
    obtain ⟨item, r⟩ := r
    have count : o.attempted + 1 + results.length = o.attempted + (results.length + 1) := by omega
    rw [List.foldl_cons, ih]
    cases r <;> simp [record, BulkFailure.of?, Outcome.failure?, count]

/-- The outcome of some deletions, by the replies to them in order. -/
def bulkOutcome (targets : List Job) (replies : List Reply) : BulkOutcome where
  attempted := targets.length
  failures := (targets.zip replies).filterMap fun d => BulkFailure.of? d.1.name d.2.failure?

variable {targets rest : List Job} {replies told base : List Reply}
  {results : List (String × Outcome Unit)}

/-- What comes behind the last deletion does not count. -/
theorem bulkOutcome_append (count : replies.length = targets.length) (more : List Reply) :
    bulkOutcome targets (replies ++ more) = bulkOutcome targets replies := by
  have split : (targets ++ []).zip (replies ++ more) = targets.zip replies ++ [].zip more :=
    List.zip_append count.symm
  rw [List.append_nil, List.zip_nil_left, List.append_nil] at split
  rw [bulkOutcome, split, bulkOutcome]

/-- No more items have failed than have been attempted. -/
theorem bulkOutcome_counts (targets : List Job) (replies : List Reply) :
    (bulkOutcome targets replies).failures.length ≤ (bulkOutcome targets replies).attempted := by
  refine Nat.le_trans (List.length_filterMap_le _ _) ?_
  rw [List.length_zip]
  exact Nat.min_le_left _ _

/-- Each job has been answered with its result. -/
def Resulted (targets : List Job) (replies : List Reply) (results : List (String × Outcome Unit)) :
    Prop :=
  replies.length = targets.length ∧
    results.map (fun r => (r.1, Outcome.failure? r.2)) =
      (targets.zip replies).map fun d => (d.1.name, d.2.failure?)

theorem Resulted.outcome (resulted : Resulted targets replies results) :
    BulkOutcome.ofResults results = bulkOutcome targets replies := by
  obtain ⟨count, same⟩ := resulted
  have lengths := congrArg List.length same
  rw [List.length_map, List.length_map, List.length_zip, count, Nat.min_self] at lengths
  have failures := congrArg (List.filterMap fun r => BulkFailure.of? r.1 r.2) same
  rw [List.filterMap_map, List.filterMap_map] at failures
  rw [BulkOutcome.ofResults, BulkOutcome.foldl_record, bulkOutcome, lengths, Nat.zero_add]
  exact congrArg (BulkOutcome.mk targets.length) failures

/-! ## One job after the other -/

/-- The next calls of a run of deletions, after some answers: a deletion, or after the last one the
jobs of the scope. -/
def nextCalls (targets : List Job) (scope : Scope) (answered : Nat) : List Call :=
  match targets[answered]? with
  | some job => [deletion job]
  | none => if answered = targets.length then scope.toFetch.toList.map .jobs else []

/-- The replies are to the deletions of some jobs, one after the other, and then to a load of the
list. -/
def AnswersDeletions (targets : List Job) (told : List Reply) : Prop :=
  ∀ (k : Nat) reply, told.reverse[k]? = some reply →
    (∀ job, targets[k]? = some job → reply.call = deletion job) ∧
    (targets[k]? = none → ∃ space, reply.call = .jobs space)

theorem AnswersDeletions.cons {reply : Reply} (answers : AnswersDeletions targets told)
    (deletes : ∀ job, targets[told.length]? = some job → reply.call = deletion job)
    (loads : targets[told.length]? = none → ∃ space, reply.call = .jobs space) :
    AnswersDeletions targets (reply :: told) := by
  intro k r there
  rw [List.reverse_cons] at there
  by_cases earlier : k < told.reverse.length
  · rw [List.getElem?_append_left earlier] at there
    exact answers k r there
  · have last : k = told.length := by
      have bound := (List.getElem?_eq_some_iff.mp there).1
      rw [List.length_append, List.length_singleton] at bound
      rw [List.length_reverse] at bound earlier
      omega
    subst last
    rw [List.getElem?_append_right (Nat.le_of_not_lt earlier), List.length_reverse,
      Nat.sub_self] at there
    cases there
    exact ⟨deletes, loads⟩

/-- The latest reply is to a deletion only if it is to that of one of the jobs. -/
theorem AnswersDeletions.latest {reply : Reply} (answers : AnswersDeletions targets (reply :: told))
    (deletes : ∀ space, reply.call ≠ .jobs space) :
    ∃ job ∈ targets, reply.call = deletion job := by
  have there : (reply :: told).reverse[told.length]? = some reply := by
    have count := Nat.le_of_eq (told.length_reverse)
    rw [List.reverse_cons, List.getElem?_append_right count, List.length_reverse, Nat.sub_self]
    rfl
  obtain ⟨deletion, load⟩ := answers told.length reply there
  cases target : targets[told.length]? with
  | some job => exact ⟨job, List.mem_of_getElem? target, deletion job target⟩
  | none =>
    obtain ⟨space, loads⟩ := load target
    exact absurd loads (deletes space)

/-- The selection is emptied before the first answer and then left alone. -/
def Empties (told : List Reply) (s t : Console) : Prop :=
  t.scope = s.scope ∧ t.jobs.selected = if told = [] then [] else s.jobs.selected

theorem Empties.cons (reply : Reply) (told : List Reply) (s : Console) :
    Empties (reply :: told) s s :=
  ⟨rfl, by rw [if_neg (List.cons_ne_nil _ _)]⟩

/-- What the deletion of some jobs does from one wait to the next, if it has been told something
before. -/
def deletionAccount (targets rest : List Job) (base : List Reply) :
    Account Console (List (String × Outcome Unit)) :=
  fun told made value s t => Empties told s t ∧ AnswersDeletions targets told ∧
    match value with
    | none => ∃ job, targets[told.length]? = some job ∧ made = [deletion job]
    | some results => made = [] ∧ ∃ replies, told = replies.reverse ++ base ∧
        Resulted rest replies results

theorem follows_deleteEach {before : List Job} {s₀ s : Console} (split : targets = before ++ rest)
    (count : base.length = before.length) (answers : AnswersDeletions targets base)
    (empties : Empties base s₀ s) :
    (deleteEach rest).Follows (deletionAccount targets rest base) base [] s₀ s := by
  induction rest generalizing before base s₀ s with
  | nil => exact (follows_done _).mpr ⟨empties, answers, rfl, [], rfl, rfl, rfl⟩
  | cons job rest ih =>
    have here : targets[base.length]? = some job := by
      rw [split, count, List.getElem?_append_right (Nat.le_refl _), Nat.sub_self]
      rfl
    refine (follows_bind _ _).mpr (follows_request.mpr ⟨⟨empties, answers, job, here, rfl⟩, ?_⟩)
    intro r t
    have told : AnswersDeletions targets (⟨deletion job, r⟩ :: base) := by
      refine answers.cons (fun job' there => ?_) fun none => ?_
      · rw [here, Option.some.injEq] at there
        rw [there]
      · rw [here] at none
        cases none
    have more : (⟨deletion job, r⟩ :: base : List Reply).length = (before ++ [job]).length := by
      rw [List.length_cons, List.length_append, List.length_singleton, count]
    have others := ih (split.trans (List.append_cons before job rest)) more told (.cons _ base t)
    refine others.bind (fun waits => waits) ?_
    rintro told made results u v ⟨empties, answers, none, replies, rfl, resulted, same⟩
    refine (follows_done _).mpr ⟨empties, answers, none, ⟨deletion job, r⟩ :: replies, ?_, ?_, ?_⟩
    · rw [List.reverse_cons, List.append_assoc]
      rfl
    · rw [List.length_cons, List.length_cons, resulted]
    · exact congrArg ((job.name, Outcome.failure? r) :: ·) same

/-! ## The selected jobs -/

/-- What the deletion of some jobs, and the load that follows it, does from one wait to the next. -/
structure BulkTurn (targets : List Job) (told : List Reply) (made : List Call)
    (value : Option BulkOutcome) (s t : Console) : Prop where
  empties : Empties told s t
  answers : AnswersDeletions targets told
  few : told.length ≤ targets.length + 1
  calls : made = nextCalls targets s.scope told.length
  /-- It ends with the outcome as soon as there is nothing left to call. -/
  value : value = if made = [] then some (bulkOutcome targets told.reverse) else none

variable {s₀ s : Console}

theorem nextCalls_of_deleted (scope : Scope) :
    nextCalls targets scope targets.length = scope.toFetch.toList.map .jobs := by
  rw [nextCalls, List.getElem?_eq_none (Nat.le_refl _)]
  exact if_pos rfl

theorem nextCalls_of_done (scope : Scope) :
    nextCalls targets scope (targets.length + 1) = [] := by
  rw [nextCalls, List.getElem?_eq_none (Nat.le_succ _)]
  exact if_neg (Nat.succ_ne_self _)

/-- The list is loaded after the last deletion, if there is a scope. -/
theorem follows_reload (empties : Empties told s₀ s) (answers : AnswersDeletions targets told)
    (resulted : Resulted targets told.reverse results) :
    (reloadJobs.bind fun _ => .done (BulkOutcome.ofResults results)).Follows (BulkTurn targets)
      told [] s₀ s := by
  have count : told.length = targets.length := by
    rw [← List.length_reverse]
    exact resulted.1
  have next : nextCalls targets s₀.scope told.length = s.scope.toFetch.toList.map .jobs := by
    rw [count, nextCalls_of_deleted, empties.1]
  have few : told.length ≤ targets.length + 1 := by omega
  simp only [reloadJobs, loadJobs, bind_eq, follows_bind, follows_read, followedBy,
    Option.elim_some]
  cases fetch : s.scope.toFetch with
  | none =>
    rw [fetch] at next
    refine (follows_done _).mpr ((follows_done _).mpr ((follows_done _).mpr ?_))
    refine ⟨empties, answers, few, next.symm, ?_⟩
    rw [resulted.outcome]
    rfl
  | some space =>
    rw [fetch] at next
    refine (follows_bind _ _).mpr ((follows_update _).mpr ((follows_bind _ _).mpr ?_))
    refine follows_request.mpr ⟨⟨empties, answers, few, next.symm, rfl⟩, fun r t => ?_⟩
    refine (follows_update _).mpr ((follows_done _).mpr ((follows_done _).mpr ?_))
    have past : targets[told.length]? = none := List.getElem?_eq_none (Nat.le_of_eq count.symm)
    refine ⟨.cons _ told t, answers.cons (fun job there => ?_) fun _ => ⟨space, rfl⟩, ?_, ?_, ?_⟩
    · rw [past] at there
      cases there
    · exact Nat.le_of_eq (congrArg (· + 1) count)
    · rw [List.length_cons, count, nextCalls_of_done]
    · rw [List.reverse_cons, bulkOutcome_append resulted.1, resulted.outcome]
      rfl

theorem follows_deleteSelected (s : Console) :
    deleteSelected.Follows (BulkTurn s.jobs.takeSelected.1) [] [] s s := by
  refine (follows_bind _ _).mpr ((follows_update _).mpr ?_)
  have answers : AnswersDeletions s.jobs.takeSelected.1 [] := fun _ _ there => by cases there
  have deletes := follows_deleteEach (List.nil_append s.jobs.takeSelected.1).symm rfl answers
    (show Empties [] s { s with jobs := s.jobs.takeSelected.2 } from ⟨rfl, rfl⟩)
  refine deletes.bind ?_ ?_
  · rintro told made u v ⟨empties, answers, job, here, rfl⟩
    have more := (List.getElem?_eq_some_iff.mp here).1
    refine ⟨empties, answers, Nat.le_succ_of_le (Nat.le_of_lt more), ?_, rfl⟩
    rw [nextCalls, here]
  · rintro told made results u v ⟨empties, answers, rfl, replies, rfl, resulted⟩
    refine follows_reload empties answers ?_
    rwa [List.append_nil, List.reverse_reverse]

/-! ## Every activity -/

def Call.deletesJob : Call → Bool
  | .deleteJob _ _ => true
  | _ => false

namespace Activity

/-- What the activity makes of the selection when it begins. -/
def select : Activity → JobBoard → List String
  | .jobs (.toggleSelect id), b => (b.toggleSelect id).2.selected
  | .jobs .toggleSelectAll, b => b.toggleSelectAll.selected
  | .jobs .deleteSelected, _ => []
  | _, b => b.selected

/-- The deletions that the activity may make. -/
def Deletes : Activity → Call → Prop
  | .jobs (.delete job), c => c = deletion job
  | .jobs .deleteSelected, _ => True
  | _, _ => False

/-- Whether the activity neither changes the selection nor deletes jobs. -/
def sparesJobs : Activity → Bool
  | .jobs (.toggleSelect _) | .jobs .toggleSelectAll => false
  | .jobs (.delete _) | .jobs .deleteSelected => false
  | _ => true

theorem Deletes.cases {a : Activity} {c : Call} (deletes : a.Deletes c) :
    (∃ job, a = .jobs (.delete job) ∧ c = deletion job) ∨ a = .jobs .deleteSelected := by
  unfold Deletes at deletes
  split at deletes
  next job => exact .inl ⟨job, rfl, deletes⟩
  next => exact .inr rfl
  next => exact deletes.elim

theorem select_of_spares {a : Activity} (spares : a.sparesJobs = true) (b : JobBoard) :
    a.select b = b.selected := by
  unfold select
  split
  next => cases spares
  next => cases spares
  next => cases spares
  next => rfl

end Activity

theorem deletesJob_of_about {k : Call → Prop} (delete : ∀ name space, ¬ k (.deleteJob name space))
    (c : Call) (_ : Console) (about : k c) : c.deletesJob = false := by
  cases c with
  | deleteJob name space => exact absurd about (delete name space)
  | _ => rfl

theorem confined_selection (a : Activity) (spares : a.sparesJobs = true) :
    a.action.Confined (·.jobs.selected) fun c _ => c.deletesJob = false := by
  have loads : loadJobs.Confined (·.jobs.selected) fun c _ => c.deletesJob = false :=
    loadJobs_confined (fun _ _ same => same) fun _ _ _ => rfl
  cases a with
  | session a =>
    exact SessionActivity.confined (deletesJob_of_about fun _ _ => id) (fun _ _ => rfl)
      (fun _ _ => rfl) (fun _ _ => rfl) a fun _ _ _ => rfl
  | jobs a =>
    cases a with
    | load => exact loads
    | setNamespace choice => exact .bind (confined_updateSession fun _ => rfl) fun _ => loads
    | setPage page => exact ⟨fun _ _ same => same⟩
    | toggleSelect | toggleSelectAll | delete | deleteSelected => cases spares
  | wizard a =>
    exact WizardActivity.confined (fun _ _ _ => rfl) (deletesJob_of_about fun _ _ => id) a
      fun what _ => submission_confined (fun _ _ => rfl) (fun _ _ => rfl) (fun _ _ same => same)
        (fun _ _ _ => rfl) (deletesJob_of_about fun _ _ => id) what
  | nodes a => exact NodeActivity.confined (fun _ _ => rfl) (deletesJob_of_about fun _ _ => id) a
  | views a =>
    exact ViewActivity.confined (fun _ _ => rfl) (fun _ _ => rfl) (fun _ _ => rfl) (fun _ _ => rfl)
      (fun _ _ => rfl) (deletesJob_of_about fun _ _ => id) a fun _ _ _ => rfl

/-- What an activity does to the selection, and which deletions it has been answered. -/
structure SelectionTurn (a : Activity) (told : List Reply) (s t : Console) : Prop where
  selected : t.jobs.selected = if told = [] then a.select s.jobs else s.jobs.selected
  deletes : ∀ reply ∈ told, reply.call.deletesJob = true → a.Deletes reply.call

theorem follows_deleteJob (job : Job) (s : Console) :
    (deleteJob job).Follows
      (fun told _ _ s t => SelectionTurn (.jobs (.delete job)) told s t) [] [] s s := by
  have reloads : reloadJobs.Confined (·.jobs.selected) fun c _ => c.deletesJob = false :=
    reloadJobs_confined (fun _ _ same => same) fun _ _ _ => rfl
  have own (r : Outcome (deletion job).Answer) (reply : Reply) (mem : reply ∈ [⟨deletion job, r⟩]) :
      (Activity.jobs (.delete job)).Deletes reply.call := by
    rw [List.mem_singleton.mp mem]
    rfl
  refine follows_request_attempt ⟨rfl, by simp⟩ (fun b t => ?_) fun e t =>
    ⟨rfl, fun reply mem _ => own _ reply mem⟩
  refine ((reloads.bind fun _ => .done _).follows rfl (by simp)).imp ?_
  rintro told made value u v ⟨same, -, more, rfl, quiet⟩
  refine SelectionTurn.mk ?_ fun reply mem deletes => ?_
  · rw [same, if_neg (by simp)]
  · rcases List.mem_append.mp mem with mem | mem
    · rw [quiet reply mem] at deletes
      cases deletes
    · exact own _ reply mem

theorem follows_selection (a : Activity) (s : Console) :
    a.action.Follows (fun told _ _ s t => SelectionTurn a told s t) [] [] s s := by
  cases spares : a.sparesJobs with
  | true =>
    refine ((confined_selection a spares).follows rfl (by simp)).imp ?_
    rintro told made value u v ⟨same, -, more, rfl, quiet⟩
    refine ⟨?_, fun reply mem deletes => ?_⟩
    · rw [same, a.select_of_spares spares, ite_self]
    · rw [List.append_nil] at mem
      rw [quiet reply mem] at deletes
      cases deletes
  | false =>
    cases a with
    | jobs a =>
      cases a with
      | toggleSelect id =>
        simp only [Activity.action, JobActivity.action, onJobs, follows_update]
        exact ⟨rfl, by simp⟩
      | toggleSelectAll =>
        simp only [Activity.action, JobActivity.action, onJobs, follows_modify]
        exact ⟨rfl, by simp⟩
      | delete job => exact follows_deleteJob job s
      | deleteSelected =>
        refine (follows_deleteSelected s).imp ?_
        exact fun turn => SelectionTurn.mk turn.empties.2 fun _ _ _ => trivial
      | load | setNamespace | setPage => cases spares
    | session | wizard | nodes | views => cases spares

/-! ## Runs -/

variable {start : Console} {h later earlier : List Moment} {m : Moment} {w : World}

/-- An activity has been answered something unless it begins. -/
theorem Run.repliesTo_eq_nil_iff (run : Run start (m :: h) w) :
    repliesTo (m :: h) m.strand = [] ↔ m.begins = true := by
  rw [← List.head?_eq_none_iff, run.head?_repliesTo, Moment.begins, Option.isNone_iff_eq_none]

theorem Run.selection (run : Run start (later ++ m :: earlier) w) :
    SelectionTurn m.activity (repliesTo (m :: earlier) m.strand) m.before m.after :=
  run.accounts follows_selection

theorem Run.selected_eq (run : Run start (later ++ m :: earlier) w) :
    m.after.jobs.selected =
      if m.begins then m.activity.select m.before.jobs else m.before.jobs.selected := by
  obtain ⟨v, here⟩ := run.suffix
  simpa only [here.repliesTo_eq_nil_iff] using run.selection.selected

end PoolConsole
