import PoolConsole.Operation.Jobs
import PoolConsole.Proofs.Run.Transcript

namespace PoolConsole

open Console Operation

namespace JobBoard

/-- The board after a load for a scope that nothing has come between. -/
def loaded (b : JobBoard) (scope : Scope) (answer : Outcome (List Job)) : JobBoard :=
  ((b.begin scope).2.complete (b.begin scope).1 answer).2

variable (b : JobBoard) (scope : Scope)

theorem complete_begin (answer : Outcome (List Job)) :
    (b.begin scope).2.complete (b.begin scope).1 answer =
      (answer.map fun _ => .applied, b.loaded scope answer) := by
  cases answer with
  | ok jobs => simp [loaded, complete, begin, Panel.complete, Panel.begin, Except.map]
  | error e => simp [loaded, complete, begin, Panel.complete, Panel.begin, Except.map]

@[simp] theorem selected_loaded (answer : Outcome (List Job)) :
    (b.loaded scope answer).selected = b.selected := rfl

@[simp] theorem jobs_loaded (jobs : List Job) : (b.loaded scope (.ok jobs)).jobs = jobs := by
  simp [loaded, JobBoard.jobs, complete, begin, Panel.complete, Panel.begin]

end JobBoard

namespace Handler

variable {κ : Type} (h : Handler (StateM κ)) {c : Console} (k : κ)

section
variable {α : Type}

@[simp] theorem transcript_onJobs (x : Action JobBoard α) (c : Console) :
    h.transcript (onJobs x) c k =
      let board := h.transcript x c.jobs k
      { board with state := { c with jobs := board.state } } :=
  h.transcript_onPart Console.jobs (fun jobs c => { c with jobs }) (fun _ _ => rfl)
    (fun _ _ _ => rfl) (fun _ => rfl) x c k

end

theorem transcript_loadJobs_of_pending (pending : c.scope.toFetch = none) :
    h.transcript loadJobs c k = ⟨.ok .skipped, c, k, []⟩ := by
  simp [loadJobs, pending]

theorem transcript_loadJobs {space : Option String} (scope : c.scope.toFetch = some space) :
    h.transcript loadJobs c k =
      let answer := h.answer (.jobs space) k
      { value := answer.1.map fun _ => .applied
        state := { c with jobs := c.jobs.loaded c.scope answer.1 }
        left := answer.2
        replies := [⟨.jobs space, answer.1⟩] } := by
  let answer := (h.answer (.jobs space) k).1
  have run : h.transcript loadJobs c k =
      let (result, jobs) := (c.jobs.begin c.scope).2.complete (c.jobs.begin c.scope).1 answer
      ⟨result, { c with jobs }, (h.answer (.jobs space) k).2, [⟨.jobs space, answer⟩]⟩ := by
    simp only [loadJobs, Action.bind_eq, transcript_bind, transcript_read, scope]
    rfl
  rw [run, JobBoard.complete_begin]

/-- The list is asked for once if there is a scope to ask for, and otherwise not at all. -/
theorem calls_loadJobs (c : Console) :
    (h.transcript loadJobs c k).calls = c.scope.toFetch.toList.map .jobs := by
  cases scope : c.scope.toFetch with
  | none => rw [h.transcript_loadJobs_of_pending k scope]; rfl
  | some space => rw [h.transcript_loadJobs k scope]; rfl

theorem transcript_reloadJobs (c : Console) :
    h.transcript reloadJobs c k = { h.transcript loadJobs c k with value := () } := by
  simp [reloadJobs, Transcript.after]

theorem calls_reloadJobs (c : Console) :
    (h.transcript reloadJobs c k).calls = c.scope.toFetch.toList.map .jobs := by
  rw [← h.calls_loadJobs k c, transcript_reloadJobs]
  rfl

/-- Jobs are deleted one after the other, whatever the answers are. -/
theorem transcript_deleteEach (jobs : List Job) (c : Console) :
    (h.transcript (deleteEach jobs) c k).state = c ∧
      (h.transcript (deleteEach jobs) c k).calls = jobs.map deletion := by
  induction jobs generalizing k with
  | nil => exact ⟨rfl, rfl⟩
  | cons job jobs ih =>
    obtain ⟨same, calls⟩ := ih (h.answer (deletion job) k).2
    simp only [Transcript.calls] at calls
    simp [deleteEach, Transcript.calls, same, calls]

/-- The selected jobs are deleted in the order of the list, which is then loaded. -/
theorem calls_deleteSelected (c : Console) :
    (h.transcript deleteSelected c k).calls =
      c.jobs.takeSelected.1.map deletion ++ c.scope.toFetch.toList.map .jobs := by
  obtain ⟨same, calls⟩ := h.transcript_deleteEach k c.jobs.takeSelected.1
    { c with jobs := c.jobs.takeSelected.2 }
  simp only [deleteSelected, Action.bind_eq, calls_bind, transcript_onJobs, transcript_update,
    calls_reloadJobs, calls, same, Action.pure_eq, transcript_done]
  simp [Transcript.calls, Console.scope]

end Handler

end PoolConsole
