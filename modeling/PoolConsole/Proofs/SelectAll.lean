import PoolConsole.Proofs.BulkDeletion

/-!
What becomes of the selection when the operator turns over whether all jobs are selected.

A selection outlives the list that it has been made on, so that ids can be left in it that are no
longer listed. They keep a selection of all listed jobs from being emptied.

* `JobBoard.mem_toggleSelectAll`: all listed jobs are selected, unless just these were.
* `Run.leftover`: an id is left over by a load that does not list it any more, or selected while it
  is not listed.
* `all_turned_over`: the effect of turning all over in every run, and when that empties the
  selection as it should.
-/

namespace PoolConsole

open PoolConsole.Action Console

namespace JobBoard

def AllChosen (b : JobBoard) : Prop :=
  ∀ id ∈ b.ids, id ∈ b.selected

instance (b : JobBoard) : Decidable b.AllChosen :=
  inferInstanceAs (Decidable (∀ id ∈ b.ids, id ∈ b.selected))

def Leftover (b : JobBoard) (id : String) : Prop :=
  id ∈ b.selected ∧ id ∉ b.ids

structure Matched (b : JobBoard) : Prop where
  all : b.AllChosen
  none : ∀ id, ¬ b.Leftover id

variable {b : JobBoard} {id : String}

theorem allSelected_iff : b.allSelected = true ↔ b.Matched := by
  simp only [allSelected, Bool.and_eq_true, List.all_eq_true, List.contains_iff_mem]
  constructor
  · rintro ⟨all, listed⟩
    exact ⟨all, fun id left => left.2 (listed id left.1)⟩
  · rintro ⟨all, none⟩
    refine ⟨all, fun id selected => Decidable.of_not_not fun unlisted => ?_⟩
    exact none id ⟨selected, unlisted⟩

theorem selected_toggleSelectAll_of_matched (matched : b.Matched) :
    b.toggleSelectAll.selected = [] := by
  unfold toggleSelectAll
  rw [allSelected_iff.mpr matched]
  cases b.ids with
  | nil => rfl
  | cons => rfl

theorem selected_toggleSelectAll_of_not (not : ¬ b.Matched) :
    b.toggleSelectAll.selected = b.ids.eraseDups := by
  rw [← allSelected_iff, Bool.not_eq_true] at not
  unfold toggleSelectAll
  rw [not, Bool.and_false]
  rfl

theorem mem_toggleSelectAll :
    id ∈ b.toggleSelectAll.selected ↔ id ∈ b.ids ∧ ¬ b.Matched := by
  by_cases matched : b.Matched
  · simp [selected_toggleSelectAll_of_matched matched, matched]
  · simp [selected_toggleSelectAll_of_not matched, matched]

end JobBoard

def Moment.TurnsAll (m : Moment) : Prop :=
  m.begins = true ∧ m.activity = .jobs .toggleSelectAll

/-- A selected id is no longer listed, or one that is not listed is marked. -/
def Moment.Strands (m : Moment) (id : String) : Prop :=
  (id ∈ m.before.jobs.selected ∧ id ∈ m.before.jobs.ids ∧ id ∉ m.after.jobs.ids) ∨
    (m.begins = true ∧ m.activity = .jobs (.toggleSelect id) ∧ id ∉ m.before.jobs.ids)

variable {start : Console} {later earlier h : List Moment} {m : Moment} {w : World} {id : String}

theorem Run.toggled (run : Run start (later ++ m :: earlier) w) (begins : m.begins = true)
    (toggles : m.activity = .jobs (.toggleSelect id)) :
    m.after = { m.before with jobs := (m.before.jobs.toggleSelect id).2 } := by
  have advances := run.advances (List.mem_append_right _ List.mem_cons_self) begins
  obtain ⟨n, a, reply, before, after, issues, rest⟩ := m
  subst toggles
  simp only [Activity.action, JobActivity.action, onJobs, Action.update, onPart, advances_get,
    advances_set, advances_done] at advances
  exact advances.2.2

theorem Run.turned (run : Run start (later ++ m :: earlier) w) (turns : m.TurnsAll) :
    m.issues = [] ∧ m.after = { m.before with jobs := m.before.jobs.toggleSelectAll } := by
  have advances := run.advances (List.mem_append_right _ List.mem_cons_self) turns.1
  obtain ⟨n, a, reply, before, after, issues, rest⟩ := m
  obtain ⟨-, rfl⟩ := turns
  simp only [Activity.action, JobActivity.action, onJobs, Action.modify, onPart, advances_get,
    advances_set, advances_done] at advances
  exact ⟨advances.1, advances.2.2⟩

theorem JobBoard.ids_toggleSelect (b : JobBoard) (id : String) :
    (b.toggleSelect id).2.ids = b.ids := by
  unfold toggleSelect
  split <;> rfl

/-- Turning all over leaves nothing behind. -/
theorem Run.not_leftover_of_turned (run : Run start (later ++ m :: earlier) w)
    (turns : m.TurnsAll) (id : String) : ¬ m.after.jobs.Leftover id := by
  rw [(run.turned turns).2]
  rintro ⟨selected, unlisted⟩
  exact unlisted (JobBoard.mem_toggleSelectAll.mp selected).1

theorem Run.leftover_step (run : Run start (later ++ m :: earlier) w)
    (left : m.after.jobs.Leftover id) : m.before.jobs.Leftover id ∨ m.Strands id := by
  by_cases marks : m.Marks id
  · obtain ⟨begins, toggles | turns⟩ := marks
    · have unlisted := left.2
      rw [run.toggled begins toggles, JobBoard.ids_toggleSelect] at unlisted
      exact .inr (.inr ⟨begins, toggles, unlisted⟩)
    · exact absurd left (run.not_leftover_of_turned ⟨begins, turns⟩ id)
  · have selected := (run.mem_selected marks).1 left.1
    by_cases listed : id ∈ m.before.jobs.ids
    · exact .inr (.inl ⟨selected, listed, left.2⟩)
    · exact .inl ⟨selected, listed⟩

/-- What is left over has been so before the later moments, or has been stranded in one of them. -/
theorem Run.leftover (run : Run start (later ++ h) w) (left : w.console.jobs.Leftover id) :
    (∃ v, Run start h v ∧ v.console.jobs.Leftover id) ∨ ∃ m ∈ later, m.Strands id := by
  induction later generalizing w with
  | nil => exact .inl ⟨w, run, left⟩
  | cons m later ih =>
    have here : Run start ([] ++ m :: (later ++ h)) w := run
    rw [← run.after_eq] at left
    rcases here.leftover_step left with before | strands
    · cases run with
      | next run step =>
        rw [step.before_eq] at before
        rcases ih run before with older | ⟨m', mem, strands⟩
        · exact .inl older
        · exact .inr ⟨m', List.mem_cons_of_mem m mem, strands⟩
    · exact .inr ⟨m, List.mem_cons_self, strands⟩

/-- Nothing is selected any more if there are listed jobs and all of them have been selected, and
otherwise just the listed jobs are. -/
def Moment.TurnsOver (m : Moment) : Prop :=
  if m.before.jobs.ids ≠ [] ∧ m.before.jobs.AllChosen then m.after.jobs.selected = []
  else ∀ id, id ∈ m.after.jobs.selected ↔ id ∈ m.before.jobs.ids

structure AllTurned (start : Console) (later : List Moment) (m : Moment) (earlier : List Moment) :
    Prop where
  alone : m.issues = [] ∧
    m.after = { m.before with jobs.selected := m.after.jobs.selected }
  selected : ∀ id,
    id ∈ m.after.jobs.selected ↔ id ∈ m.before.jobs.ids ∧ ¬ m.before.jobs.Matched
  /-- It fails to empty the selection of all listed jobs just where something is left over. -/
  over_iff : m.TurnsOver ↔ (m.before.jobs.ids ≠ [] → m.before.jobs.AllChosen →
    ∀ id, ¬ m.before.jobs.Leftover id)
  /-- What is left over has been so from the start, or was stranded before. -/
  stranded : ∀ id, m.before.jobs.Leftover id →
    start.jobs.Leftover id ∨ ∃ m' ∈ earlier, m'.Strands id
  /-- The next time works, if nothing is stranded between. -/
  next : ∀ since m' between, later = since ++ m' :: between → m'.TurnsAll →
    (∀ m'' ∈ between, ∀ id, ¬ m''.Strands id) → m'.TurnsOver

theorem Run.turnsOver_iff (run : Run start (later ++ m :: earlier) w) (turns : m.TurnsAll) :
    m.TurnsOver ↔ (m.before.jobs.ids ≠ [] → m.before.jobs.AllChosen →
      ∀ id, ¬ m.before.jobs.Leftover id) := by
  have after := congrArg (·.jobs.selected) (run.turned turns).2
  unfold Moment.TurnsOver
  rw [after]
  split
  next chosen =>
    constructor
    · intro empty some all id left
      by_cases matched : m.before.jobs.Matched
      · exact matched.none id left
      · obtain ⟨job, rest, listed⟩ := List.exists_cons_of_ne_nil some
        have mem : job ∈ m.before.jobs.toggleSelectAll.selected :=
          JobBoard.mem_toggleSelectAll.mpr ⟨listed ▸ List.mem_cons_self, matched⟩
        rw [empty] at mem
        cases mem
    · intro none
      exact JobBoard.selected_toggleSelectAll_of_matched ⟨chosen.2, none chosen.1 chosen.2⟩
  next other =>
    have all (id : String) :
        id ∈ m.before.jobs.toggleSelectAll.selected ↔ id ∈ m.before.jobs.ids := by
      rw [JobBoard.mem_toggleSelectAll]
      refine ⟨And.left, fun listed => ⟨listed, fun matched => other ⟨?_, matched.all⟩⟩⟩
      exact List.ne_nil_of_mem listed
    exact ⟨fun _ some chosen => absurd ⟨some, chosen⟩ other, fun _ => all⟩

theorem all_turned_over (run : Run start (later ++ m :: earlier) w) (turns : m.TurnsAll) :
    AllTurned start later m earlier := by
  obtain ⟨quiet, after⟩ := run.turned turns
  constructor
  case alone => exact ⟨quiet, by rw [after]; rfl⟩
  case selected =>
    intro id
    rw [after]
    exact JobBoard.mem_toggleSelectAll
  case over_iff => exact run.turnsOver_iff turns
  case stranded =>
    intro id left
    obtain ⟨v, v', prior, step⟩ := run.split
    rw [step.before_eq] at left
    have prior : Run start (earlier ++ []) v := by rwa [List.append_nil]
    rcases prior.leftover left with ⟨u, begun, left⟩ | strands
    · cases begun
      exact .inl left
    · exact .inr strands
  case next =>
    rintro since m' between rfl turns' none
    rw [List.append_assoc] at run
    refine (run.turnsOver_iff turns').mpr fun _ _ id left => ?_
    obtain ⟨v, v', prior, step⟩ := run.split
    rw [step.before_eq] at left
    rcases prior.leftover left with ⟨u, turned, left⟩ | ⟨m'', mem, strands⟩
    · rw [← turned.after_eq] at left
      have here : Run start ([] ++ m :: earlier) u := turned
      exact here.not_leftover_of_turned turns id left
    · exact none m'' mem id strands

/-- The jobs of all namespaces are listed and selected, and then those of one namespace are
listed. -/
theorem exists_narrowed :
    ∃ h w, Run (.fresh {} {}) h w ∧ w.console.jobs.ids = ["1"] ∧ w.console.jobs.AllChosen ∧
      w.console.jobs.Leftover "2" := by
  let own : Job := { id := "1", name := "a", owner := "al" }
  let other : Job := { id := "2", name := "b", owner := "bob" }
  have chosen := Run.next (@Run.start (.fresh {} {})) (.begin (.jobs (.setNamespace none))
    (.get (.get (.set (.get (.get (.get (.set (.call _ _ _)))))))))
  have listed := chosen.next (.answer 0 _ ⟨.jobs none, .ok [own, other]⟩ rfl
    (.call _ (.get (.get (.set (.done _ _))))))
  have selected := listed.next (.begin (.jobs .toggleSelectAll) (.get (.get (.set (.done _ _)))))
  have narrowed := selected.next (.begin (.jobs (.setNamespace (some "al")))
    (.get (.get (.set (.get (.get (.get (.set (.call _ _ _)))))))))
  have listed := narrowed.next (.answer 2 _ ⟨.jobs (some "al"), .ok [own]⟩ rfl
    (.call _ (.get (.get (.set (.done _ _))))))
  exact ⟨_, _, listed, rfl, by decide, by decide, by decide⟩

/-- A selection of all listed jobs with one left over is emptied by turning all over twice. -/
theorem emptied_at_second_turn :
    ∃ start later m earlier w, Run start (later ++ m :: earlier) w ∧ m.TurnsAll ∧
      AllTurned start later m earlier ∧ m.before.jobs.AllChosen ∧ m.before.jobs.Leftover "2" ∧
      (∀ id, id ∈ m.after.jobs.selected ↔ id = "1") ∧ w.console.jobs.selected = [] := by
  obtain ⟨h, w, run, ids, all, left⟩ := exists_narrowed
  have first := run.next (.begin (.jobs .toggleSelectAll) (.get (.get (.set (.done _ _)))))
  have second := first.next (.begin (.jobs .toggleSelectAll) (.get (.get (.set (.done _ _)))))
  have turned := @all_turned_over _ [_] _ _ _ second ⟨rfl, rfl⟩
  have after (id : String) : id ∈ w.console.jobs.toggleSelectAll.selected ↔ id = "1" := by
    have unmatched : ¬ w.console.jobs.Matched := fun matched => matched.none "2" left
    refine (turned.selected id).trans ((and_iff_left unmatched).trans ?_)
    rw [ids, List.mem_singleton]
  have chosen : w.console.jobs.ids ≠ [] ∧ w.console.jobs.toggleSelectAll.AllChosen := by
    refine ⟨by simp [ids], fun id listed => (after id).mpr ?_⟩
    exact List.mem_singleton.mp (ids ▸ listed)
  have empty : w.console.jobs.toggleSelectAll.toggleSelectAll.selected = [] :=
    (if_pos chosen).mp (turned.next [] _ [] rfl ⟨rfl, rfl⟩ (by simp))
  exact ⟨_, _, _, _, _, second, ⟨rfl, rfl⟩, turned, all, left, after, empty⟩

/-- The selection of all listed jobs is not emptied while another job is left over in it. -/
theorem not_turnsOver :
    ¬ ∀ h w, Run (.fresh {} {}) h w → ∀ m ∈ h, m.TurnsAll → m.TurnsOver := by
  intro turnsOver
  obtain ⟨h, w, run, ids, all, left⟩ := exists_narrowed
  have turned := run.next (.begin (.jobs .toggleSelectAll) (.get (.get (.set (.done _ _)))))
  have empty := turnsOver _ _ turned _ List.mem_cons_self ⟨rfl, rfl⟩
  have chosen : w.console.jobs.ids ≠ [] ∧ w.console.jobs.AllChosen := ⟨by simp [ids], all⟩
  have unmatched : ¬ w.console.jobs.Matched := fun matched => matched.none "2" left
  have still : "1" ∈ w.console.jobs.toggleSelectAll.selected := by
    rw [JobBoard.mem_toggleSelectAll, ids]
    exact ⟨List.mem_singleton_self "1", unmatched⟩
  have none : w.console.jobs.toggleSelectAll.selected = [] := (if_pos chosen).mp empty
  rw [none] at still
  cases still

end PoolConsole
