import PoolConsole.Proofs.Run.Connections

namespace PoolConsole

variable {start : Console} {h later earlier : List Moment} {m : Moment} {w : World}

namespace Moment

theorem reading_of_quota {space : String} {r : Outcome (Option Quota)}
    (answered : m.reply = some ⟨.quota space, r⟩) : m.reading = .quota space r := by
  unfold reading Reading.of
  rw [answered]
  rfl

theorem reading_of_selects {space : String} (activity : m.activity = .session (.selectSpace space))
    (begins : m.reply = none) : m.reading = .selects space := by
  obtain ⟨n, a, reply, before, after, issues, rest⟩ := m
  cases activity
  cases begins
  unfold reading Reading.of
  cases rest.value? with
  | none | some => rfl

end Moment

namespace Connection

theorem takeQuota_of_selected {c : Connection} {space : String} (selected : c.selected = some space)
    (quota : Option Quota) : c.takeQuota space quota = { c with quota } :=
  if_pos selected

theorem takeQuota_of_other {c : Connection} {space : String} (other : c.selected ≠ some space)
    (quota : Option Quota) : c.takeQuota space quota = c :=
  if_neg other

/-- The answer to a quota changes the quota only. -/
theorem exists_answerQuota (c : Connection) (space : String) (answer : Outcome (Option Quota)) :
    ∃ quota, c.answerQuota space answer = { c with quota } := by
  cases answer with
  | error e => exact ⟨c.quota, rfl⟩
  | ok found =>
    by_cases selected : c.selected = some space
    · exact ⟨found, takeQuota_of_selected selected found⟩
    · exact ⟨c.quota, takeQuota_of_other selected found⟩

end Connection

/-- The answer to the quota of a namespace came while that was selected, and no other has been
selected since. -/
structure OwnAnswer (later : List Moment) (m : Moment) (space : String) (quota : Quota) : Prop where
  answered : m.reply = some ⟨.quota space, .ok (some quota)⟩
  selected : m.before.session.connection.selected = some space
  stays : ∀ m' ∈ later, ∀ other, m'.activity = .session (.selectSpace other) → m'.reply ≠ none

structure QuotaOwned (h : List Moment) (w : World) : Prop where
  owned : ∀ quota, w.console.session.connection.quota = some quota →
    ∃ later m earlier space, h = later ++ m :: earlier ∧
      w.console.session.connection.selected = some space ∧ OwnAnswer later m space quota
  /-- Once a namespace is selected, another one takes its place only when it is chosen. -/
  kept : ∀ m ∈ h, ∀ space, m.before.session.connection.selected = some space →
    m.after.session.connection.selected = some space ∨
      ∃ other, m.activity = .session (.selectSpace other) ∧ m.reply = none ∧
        m.after.session.connection.selected = some other
  failed : ∀ m ∈ h, ∀ space e, m.reply = some ⟨.quota space, .error e⟩ →
    m.after.session.connection = m.before.session.connection

theorem OwnAnswer.cons {space : String} {quota : Quota} {own : Moment}
    (answer : OwnAnswer later own space quota)
    (stays : ∀ other, m.activity = .session (.selectSpace other) → m.reply ≠ none) :
    OwnAnswer (m :: later) own space quota :=
  ⟨answer.answered, answer.selected, List.forall_mem_cons.mpr ⟨stays, answer.stays⟩⟩

/-- What a moment leaves of the selection. -/
theorem Reading.Turns.selected {told : List Reply} {reading : Reading} {c c' : Connection}
    (turns : reading.Turns told c c') {space : String} (selected : c.selected = some space) :
    c'.selected = some space ∨ ∃ other, reading = .selects other ∧ c'.selected = some other := by
  cases reading with
  | kept =>
    cases turns
    exact .inl selected
  | selects other =>
    cases turns
    exact .inr ⟨other, rfl, rfl⟩
  | quota other answer =>
    obtain ⟨quota, eq⟩ := c.exists_answerQuota other answer
    cases turns
    rw [eq]
    exact .inl selected
  | status found =>
    obtain ⟨rfl, -⟩ := turns
    exact .inl selected
  | connects =>
    refine .inl ?_
    cases turns with
    | waits | fails => exact selected
    | answered connected spaces =>
      unfold Connection.connect
      rw [selected, Option.some_or]

/-- Where a quota comes from that is shown after a moment. -/
theorem Reading.Turns.quota {told : List Reply} {reading : Reading} {c c' : Connection}
    (turns : reading.Turns told c c') {quota : Quota} (shown : c'.quota = some quota) :
    (c.quota = some quota ∧ ∀ other, reading ≠ .selects other) ∨
      ∃ space, reading = .quota space (.ok (some quota)) ∧ c.selected = some space ∧
        c'.selected = some space := by
  cases reading with
  | kept =>
    cases turns
    exact .inl ⟨shown, nofun⟩
  | selects other =>
    cases turns
    cases shown
  | quota space answer =>
    cases turns
    cases answer with
    | error e => exact .inl ⟨shown, nofun⟩
    | ok found =>
      by_cases selected : c.selected = some space
      · have taken := Connection.takeQuota_of_selected selected found
        rw [Connection.answerQuota, taken] at shown
        cases shown
        refine .inr ⟨space, rfl, selected, ?_⟩
        rw [Connection.answerQuota, taken, selected]
      · rw [Connection.answerQuota, Connection.takeQuota_of_other selected] at shown
        exact .inl ⟨shown, nofun⟩
  | status found =>
    obtain ⟨rfl, -⟩ := turns
    exact .inl ⟨shown, nofun⟩
  | connects =>
    refine .inl ⟨?_, nofun⟩
    cases turns with
    | waits | fails | answered => exact shown

theorem Run.exists_ownAnswer (run : Run start h w) (blank : start.session.connection.quota = none)
    {quota : Quota} (shown : w.console.session.connection.quota = some quota) :
    ∃ later m earlier space, h = later ++ m :: earlier ∧
      w.console.session.connection.selected = some space ∧ OwnAnswer later m space quota := by
  induction run with
  | start =>
    rw [blank] at shown
    cases shown
  | @next h m v w run step ih =>
    have here : Run start ([] ++ m :: h) w := run.next step
    have turns := here.reads
    rw [step.before_eq, step.after_eq] at turns
    rcases turns.quota shown with ⟨before, stays⟩ | ⟨space, is, selected, now⟩
    · obtain ⟨later, own, earlier, space, rfl, selected, answer⟩ := ih before
      refine ⟨m :: later, own, earlier, space, rfl, ?_, answer.cons ?_⟩
      · rcases turns.selected selected with kept | ⟨other, is, -⟩
        · exact kept
        · exact absurd is (stays other)
      · intro other activity begins
        exact stays other (m.reading_of_selects activity begins)
    · refine ⟨[], m, h, space, rfl, now, m.says_of_reading is, ?_, by simp⟩
      rw [step.before_eq]
      exact selected

/-- A quota that is shown is an answer for the namespace that is selected now. The selection
changes by choice only, and a failed load changes nothing. -/
theorem quota_owned (run : Run start h w) (blank : start.session.connection.quota = none) :
    QuotaOwned h w := by
  have turns {m : Moment} (mem : m ∈ h) : ∃ told, m.reading.Turns told
      m.before.session.connection m.after.session.connection := by
    obtain ⟨later, earlier, rfl⟩ := List.append_of_mem mem
    exact ⟨_, run.reads⟩
  constructor
  case owned => exact fun quota shown => run.exists_ownAnswer blank shown
  case kept =>
    intro m mem space selected
    obtain ⟨told, turns⟩ := turns mem
    rcases turns.selected selected with kept | ⟨other, is, now⟩
    · exact .inl kept
    · obtain ⟨activity, begins⟩ := m.says_of_reading is
      exact .inr ⟨other, activity, begins, now⟩
  case failed =>
    intro m mem space e answered
    obtain ⟨told, turns⟩ := turns mem
    rw [m.reading_of_quota answered] at turns
    exact turns

/-- Another namespace is selected while the quota of the first is awaited, which is answered
last. -/
theorem quota_after_late_answer :
    ∃ h w, Run (.fresh {} {}) h w ∧ QuotaOwned h w ∧
      w.console.session.connection.selected = some "b" ∧
      w.console.session.connection.quota = some {} := by
  have first := Run.next (@Run.start (.fresh {} {}))
    (.begin (.session (.selectSpace "a")) (.get (.get (.set (.call _ _ _)))))
  have second := first.next
    (.begin (.session (.selectSpace "b")) (.get (.get (.set (.call _ _ _)))))
  have own := second.next (.answer 1 _ ⟨.quota "b", .ok (some {})⟩ rfl
    (.call _ (.get (.get (.set (.done _ _))))))
  have late := own.next (.answer 0 _ ⟨.quota "a", .ok (some { cpu := ⟨1, 2⟩ })⟩ rfl
    (.call _ (.get (.get (.set (.done _ _))))))
  exact ⟨_, _, late, quota_owned late rfl, rfl, rfl⟩

end PoolConsole
