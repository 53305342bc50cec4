import Mathlib.Data.List.Nodup
import PoolConsole.Proofs.Run.Deletions
import PoolConsole.Proofs.Run.JobTranscripts
import PoolConsole.Proofs.Run.Scripts

/-!
What the command that deletes jobs by their names asks of the pool.

The command turns over the selection of the first job of each name that it is given, so that a name
that is given twice is as one that is not given at all.

* `JobBoard.mem_selected_markAll`: a job is selected if it has been turned over an odd number of
  times.
* `deletion_requests`: the deletions that the command asks for, whatever the pool answers, and when
  these are the deletions of all jobs named.
-/

namespace PoolConsole

open Operation Cli

/-! ## Names -/

namespace Job

def firstId? (jobs : List Job) (name : String) : Option String :=
  (jobs.find? fun j => j.name = name).map (·.id)

/-- The job is the first of its name on a list. -/
def Leads (jobs : List Job) (job : Job) : Prop :=
  firstId? jobs job.name = some job.id

instance (jobs : List Job) (job : Job) : Decidable (job.Leads jobs) :=
  inferInstanceAs (Decidable (_ = _))

variable {jobs : List Job} {job : Job} {name : String}

/-- Where ids differ the id of the first job of a name tells which job that is. -/
theorem firstId?_eq_some_iff (distinct : (jobs.map (·.id)).Nodup) (mem : job ∈ jobs) :
    firstId? jobs name = some job.id ↔ jobs.find? (fun j => j.name = name) = some job := by
  constructor
  · intro first
    obtain ⟨other, found, same⟩ := Option.map_eq_some_iff.mp first
    have listed := List.mem_of_find?_eq_some found
    rwa [List.inj_on_of_nodup_map distinct listed mem same] at found
  · intro found
    rw [firstId?, found]
    rfl

theorem firstId?_eq_some_iff_leads (distinct : (jobs.map (·.id)).Nodup) (mem : job ∈ jobs) :
    firstId? jobs name = some job.id ↔ name = job.name ∧ job.Leads jobs := by
  constructor
  · intro first
    have found := (firstId?_eq_some_iff distinct mem).mp first
    obtain rfl : job.name = name := by simpa using List.find?_some found
    exact ⟨rfl, first⟩
  · rintro ⟨rfl, leads⟩
    exact leads

end Job

/-- The jobs that some names are given for: the first of each name. -/
def namedJobs (names : List String) (jobs : List Job) : List Job :=
  jobs.filter fun job => job.Leads jobs ∧ job.name ∈ names

namespace JobBoard

variable {b : JobBoard} {id name : String}

theorem mem_selected_toggleSelect {other : String} :
    id ∈ (b.toggleSelect other).2.selected ↔ (id = other ↔ id ∉ b.selected) := by
  unfold toggleSelect
  split
  next selected =>
    rw [List.contains_iff_mem] at selected
    by_cases same : id = other
    · simp [same, selected]
    · simp [same]
  next unselected =>
    rw [List.contains_iff_mem] at unselected
    by_cases same : id = other
    · simp [same, unselected]
    · simp [same]

/-- Turns over whether the first job of a name is selected. -/
def mark (b : JobBoard) (name : String) : JobBoard :=
  match b.find? name with
  | some job => (b.toggleSelect job.id).2
  | none => b

theorem jobs_mark : (b.mark name).jobs = b.jobs := by
  unfold mark toggleSelect
  split
  · split <;> rfl
  · rfl

theorem mem_selected_mark :
    id ∈ (b.mark name).selected ↔ (Job.firstId? b.jobs name = some id ↔ id ∉ b.selected) := by
  have first : Job.firstId? b.jobs name = (b.find? name).map (·.id) := rfl
  rw [first]
  unfold mark
  cases b.find? name with
  | none => simp
  | some job => simp [mem_selected_toggleSelect, eq_comm]

theorem jobs_markAll (names : List String) (b : JobBoard) :
    (names.foldl mark b).jobs = b.jobs := by
  induction names generalizing b with
  | nil => rfl
  | cons name names ih => exact (ih (b.mark name)).trans jobs_mark

/-- Each time that its name is given, it changes whether a job is selected. -/
theorem mem_selected_markAll (names : List String) (b : JobBoard) (id : String) :
    id ∈ (names.foldl mark b).selected ↔
      (id ∈ b.selected ↔
        (names.countP fun name => Job.firstId? b.jobs name = some id) % 2 = 0) := by
  induction names generalizing b with
  | nil => simp
  | cons name names ih =>
    simp only [List.foldl_cons, ih, jobs_mark, mem_selected_mark, List.countP_cons]
    by_cases meant : Job.firstId? b.jobs name = some id
    · have flips (n : Nat) : (n + 1) % 2 = 0 ↔ ¬ n % 2 = 0 := by omega
      by_cases selected : id ∈ b.selected
      · simp [meant, selected, flips]
      · simp [meant, selected, flips]
    · simp [meant]

/-- Of the jobs that some names are given for, those are selected of which the name is given an odd
number of times. -/
theorem takeSelected_markAll (names : List String) (distinct : (b.jobs.map (·.id)).Nodup)
    (none : b.selected = []) :
    (names.foldl mark b).takeSelected.1 =
      (namedJobs names b.jobs).filter fun job => names.count job.name % 2 = 1 := by
  rw [takeSelected, jobs_markAll, namedJobs, List.filter_filter]
  refine List.filter_congr fun job mem => ?_
  have selected := mem_selected_markAll names b job.id
  simp only [Job.firstId?_eq_some_iff_leads distinct mem, none, List.not_mem_nil,
    false_iff] at selected
  rw [Bool.eq_iff_iff, List.contains_iff_mem, selected]
  by_cases leads : job.Leads b.jobs
  · have count : (names.countP fun name => decide (name = job.name)) = names.count job.name := rfl
    have given : 0 < names.count job.name ↔ job.name ∈ names := List.count_pos_iff
    simp only [leads, and_true, true_and, count, ← given, Bool.and_eq_true, decide_eq_true_iff]
    omega
  · simp [leads]

end JobBoard

/-! ## The command -/

namespace Cli.Terminal

/-- Turns over the selection of the first job of a name, or says that there is none. -/
def mark (t : Terminal) (name : String) : Terminal :=
  match t.console.jobs.find? name with
  | some _ => { t with console.jobs := t.console.jobs.mark name }
  | none => { t with err := t.err ++ ("Job '" ++ name ++ "' not found") ++ "\n" }

theorem console_mark (t : Terminal) (name : String) :
    (t.mark name).console = { t.console with jobs := t.console.jobs.mark name } := by
  unfold mark JobBoard.mark
  cases t.console.jobs.find? name with
  | some job => rfl
  | none => rfl

theorem console_markAll (names : List String) (t : Terminal) :
    (names.foldl mark t).console =
      { t.console with jobs := names.foldl JobBoard.mark t.console.jobs } := by
  induction names generalizing t with
  | nil => rfl
  | cons name names ih => rw [List.foldl_cons, List.foldl_cons, ih, console_mark]

end Cli.Terminal

def Cli.Script.reportDeletions (outcome : BulkOutcome) : Script Unit :=
  match outcome.deletionNotice with
  | .success text => print [text]
  | .failure text => fail text

def Cli.Script.deleteMarked : Script Unit := do
  if (← onConsole (.read fun c => c.jobs.selected)).isEmpty then
    fail "Nothing to delete"
  reportDeletions (← onConsole deleteSelected)

theorem Cli.Script.delete_eq (names : List String) (space : Option String) :
    delete names space = (do
      enterSpaceOrAll space
      let _ ← surfaced loadJobs
      names.forM markJob
      deleteMarked) :=
  rfl

def Reply.listed? : Reply → Option (Outcome (List Job))
  | ⟨.jobs _, answer⟩ => some answer
  | _ => none

namespace Transcript

variable {κ σ α : Type} (t : Transcript κ σ α)

def listed? : Option (Outcome (List Job)) :=
  t.replies.findSome? Reply.listed?

def deletions : List Call :=
  t.calls.filter Call.deletesJob

variable {entry : List Reply} (about : ∀ reply ∈ entry, reply.call.AboutSession)
include about

/-- What is asked of the connection is no list of jobs. -/
theorem listed?_after : (t.after entry).listed? = t.listed? := by
  have none : entry.findSome? Reply.listed? = none := by
    refine List.findSome?_eq_none_iff.mpr fun reply mem => ?_
    obtain ⟨c, r⟩ := reply
    cases c with
    | jobs => exact (about _ mem).elim
    | _ => rfl
  rw [listed?, replies_after, List.findSome?_append, none, Option.none_or, listed?]

theorem deletions_after : (t.after entry).deletions = t.deletions := by
  have none : (entry.map (·.call)).filter Call.deletesJob = [] := by
    refine List.filter_eq_nil_iff.mpr fun c mem => ?_
    obtain ⟨reply, asked, rfl⟩ := List.mem_map.mp mem
    have spares := deletesJob_of_about (fun _ _ => id) reply.call {} (about reply asked)
    exact Bool.eq_false_iff.mp spares
  rw [deletions, calls_after, List.filter_append, none, List.nil_append, deletions]

end Transcript

namespace Handler

variable {κ : Type} (h : Handler (StateM κ)) (t : Terminal) (k : κ)

theorem transcript_markJob (name : String) :
    h.transcript (Script.markJob name).run t k = ⟨.ok (), t.mark name, k, []⟩ := by
  have read : h.transcript (Script.onConsole (.read fun c => c.jobs.find? name)).run t k =
      ⟨.ok (t.console.jobs.find? name), t, k, []⟩ := rfl
  unfold Script.markJob Terminal.mark JobBoard.mark
  rw [h.transcript_script_ok t k (congrArg Transcript.value read), read]
  cases t.console.jobs.find? name with
  | some job => rfl
  | none => rfl

theorem transcript_markJobs (names : List String) :
    h.transcript (names.forM Script.markJob).run t k =
      ⟨.ok (), names.foldl Terminal.mark t, k, []⟩ := by
  induction names generalizing t with
  | nil => rfl
  | cons name names ih =>
    have first := h.transcript_markJob t k name
    have split : (name :: names).forM Script.markJob =
        Script.markJob name >>= fun _ => names.forM Script.markJob := rfl
    rw [split, h.transcript_script_ok t k (congrArg Transcript.value first), first, ih]
    rfl

theorem replies_reportDeletions (outcome : BulkOutcome) :
    (h.transcript (Script.reportDeletions outcome).run t k).replies = [] := by
  unfold Script.reportDeletions
  cases outcome.deletionNotice with
  | success text => rfl
  | failure text => rfl

/-- The jobs that have been marked are deleted, in the order of the list. -/
theorem deletions_deleteMarked :
    (h.transcript Script.deleteMarked.run t k).deletions =
      t.console.jobs.takeSelected.1.map deletion := by
  have read : h.transcript (Script.onConsole (.read fun c => c.jobs.selected)).run t k =
      ⟨.ok t.console.jobs.selected, t, k, []⟩ := rfl
  unfold Script.deleteMarked
  rw [h.transcript_script_ok t k (congrArg Transcript.value read), read]
  cases selected : t.console.jobs.selected with
  | nil =>
    have none : t.console.jobs.takeSelected.1 = [] := by simp [JobBoard.takeSelected, selected]
    rw [none]
    rfl
  | cons id ids =>
    change (h.transcript (Script.onConsole deleteSelected >>= Script.reportDeletions).run t
      k).deletions = _
    have deletes := h.transcript_onConsole t k deleteSelected
    rw [h.transcript_script_ok t k (congrArg Transcript.value deletes), deletes]
    have calls := h.calls_deleteSelected k t.console
    have quiet : (t.console.scope.toFetch.toList.map Call.jobs).filter Call.deletesJob = [] := by
      cases t.console.scope <;> rfl
    have kept (jobs : List Job) :
        (jobs.map deletion).filter Call.deletesJob = jobs.map deletion :=
      List.filter_eq_self.mpr fun c mem => by
        obtain ⟨job, -, rfl⟩ := List.mem_map.mp mem
        rfl
    simp only [Transcript.calls] at calls
    simp [Transcript.deletions, Transcript.calls, replies_reportDeletions, calls, kept, quiet]

/-- The list of the scope is loaded, and then what has been marked on it is deleted. -/
theorem delete_scoped (names : List String) {space : Option String}
    (scope : t.console.scope = .ofChoice space) :
    let ran := h.transcript (do
      let _ ← Script.surfaced loadJobs
      names.forM Script.markJob
      Script.deleteMarked : Script Unit).run t k
    ∃ answer, ran.listed? = some answer ∧ ran.deletions = match answer with
      | .ok jobs =>
        (names.foldl JobBoard.mark
          (t.console.jobs.loaded (.ofChoice space) (.ok jobs))).takeSelected.1.map deletion
      | .error _ => [] := by
  have fetch : t.console.scope.toFetch = some space := by
    rw [scope]
    cases space <;> rfl
  obtain ⟨answer, left, loads⟩ : ∃ (answer : Outcome (List Job)) (left : κ),
      h.transcript (Script.surfaced loadJobs).run t k =
        { value := (answer.map fun _ => LoadOutcome.applied).mapError .surface
          state := { t with console.jobs := t.console.jobs.loaded (.ofChoice space) answer }
          left
          replies := [⟨.jobs space, answer⟩] } := by
    rw [h.transcript_surfaced, h.transcript_loadJobs k fetch, scope]
    exact ⟨_, _, rfl⟩
  refine ⟨answer, ?_⟩
  cases answer with
  | error e =>
    rw [h.transcript_script_error t k (congrArg Transcript.value loads), loads]
    exact ⟨rfl, rfl⟩
  | ok jobs =>
    let listed : Terminal :=
      { t with console.jobs := t.console.jobs.loaded (.ofChoice space) (.ok jobs) }
    have marks := h.transcript_markJobs listed left names
    rw [h.transcript_script_ok t k (congrArg Transcript.value loads), loads,
      h.transcript_script_ok listed left (congrArg Transcript.value marks), marks]
    refine ⟨rfl, ?_⟩
    have deletes := h.deletions_deleteMarked (names.foldl Terminal.mark listed) left
    rw [Terminal.console_markAll] at deletes
    exact deletes

/-- Nothing is asked for before that but the connection. -/
theorem delete_ends (names : List String) (space : Option String) :
    let ran := h.transcript (Script.delete names space).run t k
    ∃ answer, ran.listed? = some answer ∧ ran.deletions = match answer with
      | .ok jobs =>
        (names.foldl JobBoard.mark
          (t.console.jobs.loaded (.ofChoice space) (.ok jobs))).takeSelected.1.map deletion
      | .error _ => [] := by
  obtain ⟨entered, kept, scope, about⟩ := h.transcript_enterSpaceOrAll t k space
  obtain ⟨answer, listed, deletions⟩ := h.delete_scoped
    (h.transcript (Script.enterSpaceOrAll space).run t k).state
    (h.transcript (Script.enterSpaceOrAll space).run t k).left names scope
  rw [kept] at deletions
  rw [Script.delete_eq, h.transcript_script_ok t k entered]
  exact ⟨answer, (Transcript.listed?_after _ about).trans listed,
    (Transcript.deletions_after _ about).trans deletions⟩

end Handler

/-! ## The deletions asked for -/

/-- The command asks for the deletion of the jobs that its names are given for, of each once. -/
def Transcript.DeletesNamed {κ σ α : Type} (names : List String) (t : Transcript κ σ α) : Prop :=
  ∀ jobs, t.listed? = some (.ok jobs) → (jobs.map (·.id)).Nodup →
    t.deletions.Perm ((namedJobs names jobs).map deletion)

structure DeletionRequests {κ σ α : Type} (names : List String) (t : Transcript κ σ α) : Prop where
  listed : ∃ answer, t.listed? = some answer
  /-- Without a list nothing is deleted. -/
  unlisted : ∀ e, t.listed? = some (.error e) → t.deletions = []
  /-- Of the jobs that the names are given for, those are deleted of which the name is given an odd
  number of times, each once and in the order of the list. -/
  requests : ∀ jobs, t.listed? = some (.ok jobs) → (jobs.map (·.id)).Nodup →
    t.deletions =
      ((namedJobs names jobs).filter fun job => names.count job.name % 2 = 1).map deletion
  /-- These are all only if no name of them is given an even number of times. -/
  complete : ∀ jobs, t.listed? = some (.ok jobs) → (jobs.map (·.id)).Nodup →
    (t.deletions.Perm ((namedJobs names jobs).map deletion) ↔
      ∀ job ∈ namedJobs names jobs, names.count job.name % 2 = 1)

theorem perm_deletions_filter {jobs : List Job} {p : Job → Prop} [DecidablePred p] :
    ((jobs.filter p).map deletion).Perm (jobs.map deletion) ↔ ∀ job ∈ jobs, p job := by
  constructor
  · intro perm
    have count := perm.length_eq
    rw [List.length_map, List.length_map, List.length_filter_eq_length_iff] at count
    simpa using count
  · intro all
    rw [List.filter_eq_self.mpr (by simpa using all)]

theorem Handler.replies_delete {κ : Type} (h : Handler (StateM κ)) (t : Terminal) (k : κ)
    (names : List String) (space : Option String) (now : Instant) :
    (h.transcript ((Command.delete names space).script now).run t k).replies =
      (h.transcript (Script.delete names space).run t k).replies := by
  have script : (Command.delete names space).script now =
      Script.delete names space >>= fun _ => pure .nothing := rfl
  rw [script, h.transcript_script_map t k]

/-- Whatever the pool answers, the command that deletes jobs by their names asks for these
deletions. -/
theorem deletion_requests {κ : Type} (h : Handler (StateM κ)) (names : List String)
    (space : Option String) (now : Instant) (t : Terminal) (k : κ)
    (fresh : t.console.jobs.selected = []) :
    DeletionRequests names (h.transcript ((Command.delete names space).script now).run t k) := by
  obtain ⟨answer, listed, deletions⟩ := h.delete_ends t k names space
  have replies := h.replies_delete t k names space now
  simp only [Transcript.listed?, Transcript.deletions, Transcript.calls, ← replies]
    at listed deletions
  generalize h.transcript ((Command.delete names space).script now).run t k = ran at *
  have requests : ∀ jobs, ran.listed? = some (.ok jobs) → (jobs.map (·.id)).Nodup →
      ran.deletions =
        ((namedJobs names jobs).filter fun job => names.count job.name % 2 = 1).map deletion := by
    intro jobs same distinct
    obtain rfl : answer = .ok jobs := Option.some.inj (listed.symm.trans same)
    let board := t.console.jobs.loaded (.ofChoice space) (.ok jobs)
    have loaded : board.jobs = jobs := JobBoard.jobs_loaded _ _ jobs
    have none : board.selected = [] := (JobBoard.selected_loaded _ _ _).trans fresh
    have taken := JobBoard.takeSelected_markAll (b := board) names (loaded ▸ distinct) none
    rw [loaded] at taken
    exact deletions.trans (congrArg (List.map deletion) taken)
  constructor
  case listed => exact ⟨answer, listed⟩
  case unlisted =>
    intro e same
    obtain rfl : answer = .error e := Option.some.inj (listed.symm.trans same)
    exact deletions
  case requests => exact requests
  case complete =>
    intro jobs same distinct
    rw [requests jobs same distinct]
    exact perm_deletions_filter

def Handler.listing (jobs : List Job) : Handler (StateM Unit) where
  answer
    | .jobs _ => fun k => (.ok jobs, k)
    | _ => fun k => (.error (.transport "down"), k)
  save _ _ k := (.ok (), k)

/-- One of the two jobs named is not deleted: its name has been given twice. -/
theorem named_twice_left :
    let jobs : List Job := [{ id := "1", name := "a" }, { id := "2", name := "b" }]
    let ran := (Handler.listing jobs).transcript
      ((Command.delete ["a", "b", "a"] none).script ⟨0, 0⟩).run {} ()
    ran.listed? = some (.ok jobs) ∧ ran.deletions = [.deleteJob "b" none] ∧
      (namedJobs ["a", "b", "a"] jobs).map deletion =
        [.deleteJob "a" none, .deleteJob "b" none] := by
  intro jobs ran
  have asked := deletion_requests (.listing jobs) ["a", "b", "a"] none ⟨0, 0⟩ {} () rfl
  have listed : ran.listed? = some (.ok jobs) := rfl
  refine ⟨listed, (asked.requests jobs listed (by decide)).trans ?_, ?_⟩
  · rfl
  · rfl

/-- It does not delete all the jobs that it is given the names of. -/
theorem not_deletesNamed :
    ¬ ∀ (h : Handler (StateM Unit)) (names : List String) (space : Option String) (now : Instant)
      (t : Terminal), t.console.jobs.selected = [] →
      (h.transcript ((Command.delete names space).script now).run t ()).DeletesNamed names := by
  intro deletesNamed
  let jobs : List Job := [{ id := "1", name := "a" }]
  have deletes := deletesNamed (.listing jobs) ["a", "a"] none ⟨0, 0⟩ {} rfl jobs rfl (by decide)
  exact absurd deletes.length_eq (by decide)

end PoolConsole
