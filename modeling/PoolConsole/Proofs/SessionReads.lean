import PoolConsole.Proofs.QuotaOwnership

namespace PoolConsole

open PoolConsole.Action Console Operation

variable {start : Console} {h later earlier : List Moment} {m : Moment} {w : World}

/-- What every moment leaves as it is or replaces is what it has been replaced with last. -/
theorem Run.eq_replaced {α : Type} {replaced? : Moment → Option α} (run : Run start h w)
    (part : Console → α) (turn : ∀ later m earlier, h = later ++ m :: earlier →
      part m.after = (replaced? m).getD (part m.before)) :
    part w.console = (h.findSome? replaced?).getD (part start) := by
  induction run with
  | start => rfl
  | @next h m v w run step ih =>
    have before := ih fun later m' earlier split =>
      turn (m :: later) m' earlier (congrArg (m :: ·) split)
    have here := turn [] m h rfl
    rw [step.after_eq, step.before_eq, before] at here
    rw [here, List.findSome?_cons]
    cases replaced? m with
    | none | some => rfl

/-- A load of the connection apart, only a refresh that ends well changes the status. -/
theorem Run.status_after (run : Run start (later ++ m :: earlier) w)
    (other : m.activity ≠ .session .loadConnection) :
    m.after.session.connection.status =
      m.status?.getD m.before.session.connection.status := by
  have turns := run.reads
  cases status : m.status? with
  | some found =>
    rw [run.reading_of_status status] at turns
    exact congrArg Connection.status turns.1
  | none =>
    cases is : m.reading with
    | status found =>
      rw [show m.status? = some found from m.says_of_reading is] at status
      cases status
    | connects => exact absurd (m.says_of_reading is) other
    | kept =>
      rw [is] at turns
      exact congrArg Connection.status turns
    | selects space =>
      rw [is] at turns
      rw [turns]
      rfl
    | quota space answer =>
      obtain ⟨quota, eq⟩ := m.before.session.connection.exists_answerQuota space answer
      rw [is] at turns
      rw [turns, eq]
      rfl

/-- The status is that of the refresh that has ended last. -/
theorem Run.status_eq (run : Run start h w)
    (unconnected : ∀ m ∈ h, m.activity ≠ .session .loadConnection) :
    w.console.session.connection.status =
      (h.findSome? Moment.status?).getD start.session.connection.status := by
  refine run.eq_replaced (·.session.connection.status) fun later m earlier split => ?_
  subst split
  exact run.status_after (unconnected m (List.mem_append_right _ List.mem_cons_self))

/-- What becomes of the quota in the moment: an answer for the namespace that is selected is taken
over, and a namespace that is newly selected has none. -/
def Moment.quota? (m : Moment) : Option (Option Quota) :=
  match m.reading with
  | .selects _ => some none
  | .quota space (.ok quota) =>
    if m.before.session.connection.selected = some space then some quota else none
  | _ => none

theorem Connection.Connects.quota_eq {told : List Reply} {c c' : Connection}
    (connects : c.Connects told c') : c'.quota = c.quota := by
  cases connects with
  | waits | fails | answered => rfl

theorem Run.quota_after (run : Run start (later ++ m :: earlier) w) :
    m.after.session.connection.quota = m.quota?.getD m.before.session.connection.quota := by
  have turns := run.reads
  unfold Moment.quota?
  cases is : m.reading with
  | kept =>
    rw [is] at turns
    exact congrArg Connection.quota turns
  | selects space =>
    rw [is] at turns
    rw [turns]
    rfl
  | status found =>
    rw [is] at turns
    rw [turns.1]
    rfl
  | connects =>
    rw [is] at turns
    exact turns.quota_eq
  | quota space answer =>
    rw [is] at turns
    cases answer with
    | error e => exact congrArg Connection.quota turns
    | ok quota =>
      rw [turns]
      dsimp only
      split
      next selected => exact congrArg Connection.quota (Connection.takeQuota_of_selected selected _)
      next other => exact congrArg Connection.quota (Connection.takeQuota_of_other other _)

/-- The quota is the one that has been answered last for the namespace that is selected. -/
theorem Run.quota_eq (run : Run start h w) :
    w.console.session.connection.quota =
      (h.findSome? Moment.quota?).getD start.session.connection.quota := by
  refine run.eq_replaced (·.session.connection.quota) fun later m earlier split => ?_
  subst split
  exact run.quota_after

structure SessionReads (start : Console) (h : List Moment) (w : World) : Prop where
  status : (∀ m ∈ h, m.activity ≠ .session .loadConnection) →
    w.console.session.connection.status =
      (h.findSome? Moment.status?).getD start.session.connection.status
  /-- A refresh that ends well has read the status that it takes over. -/
  read : ∀ later m earlier found, h = later ++ m :: earlier → m.status? = some found →
    m.after.session.connection.status = found ∧
      Answered (repliesTo (m :: earlier) m.strand) [.agentRunning, .connected, .isServer]
        (found.agentRunning, found.connected, found.isServer, ())
  /-- What a refresh has read stays unless one that ends later has read something else. -/
  status_iff : (∀ m ∈ h, m.activity ≠ .session .loadConnection) →
    ∀ later m earlier found, h = later ++ m :: earlier → m.status? = some found →
      (w.console.session.connection.status = found ↔
        ∀ other, later.findSome? Moment.status? = some other → other = found)
  quota : w.console.session.connection.quota =
    (h.findSome? Moment.quota?).getD start.session.connection.quota
  /-- A quota that has been answered stays unless one that is answered later is another. -/
  quota_iff : ∀ later m earlier quota, h = later ++ m :: earlier → m.quota? = some quota →
    (w.console.session.connection.quota = quota ↔
      ∀ other, later.findSome? Moment.quota? = some other → other = quota)

/-- A value that has been replaced in a moment stays unless it is replaced by another one later. -/
theorem getD_findSome?_append {α : Type} {replaced? : Moment → Option α} {value old : α}
    (replaced : replaced? m = some value) :
    ((later ++ m :: earlier).findSome? replaced?).getD old = value ↔
      ∀ other, later.findSome? replaced? = some other → other = value := by
  rw [List.findSome?_append, List.findSome?_cons, replaced]
  cases later.findSome? replaced? with
  | none => simp
  | some other => simp

/-- The status is the one read by the refresh that has come to its end last, and the quota is the
one that has been answered last for the namespace that is selected. -/
theorem session_reads (run : Run start h w) : SessionReads start h w := by
  constructor
  case status => exact run.status_eq
  case read =>
    rintro later m earlier found rfl status
    have turns := run.reads
    rw [run.reading_of_status status] at turns
    exact ⟨congrArg Connection.status turns.1, turns.2⟩
  case status_iff =>
    rintro unconnected later m earlier found rfl status
    rw [run.status_eq unconnected]
    exact getD_findSome?_append status
  case quota => exact run.quota_eq
  case quota_iff =>
    rintro later m earlier quota rfl replaced
    rw [run.quota_eq]
    exact getD_findSome?_append replaced

def Activity.refreshes : Activity → Bool
  | .session .refreshStatus | .session .pauseAgent | .session .resumeAgent => true
  | _ => false

/-- Whether the activity loads a quota. -/
def Activity.loadsQuota : Activity → Bool
  | .session .loadConnection | .session (.selectSpace _) | .session (.setQuota _ _) => true
  | _ => false

def Moment.Asks (c : Call) (m : Moment) : Prop :=
  ∃ i ∈ m.issues, i.call = c

/-- The activity of a number has read a status. -/
def HasRead (h : List Moment) (n : Nat) (found : PoolStatus) : Prop :=
  ∃ m ∈ h, m.strand = n ∧ m.status? = some found

/-- Once nothing is under way, the status is the one read by the refresh that has begun last of
those that have succeeded. -/
def StatusFromLatest : Prop :=
  ∀ h w, Run (.fresh {} {}) h w → (∀ m ∈ h, m.activity.refreshes = true) → w.Quiet →
    ∀ since m found,
      Last (fun m => m.Asks .agentRunning ∧ ∃ found, HasRead h m.strand found) h since m →
      HasRead h m.strand found → w.console.session.connection.status = found

/-- Once nothing is under way, the quota is the answer to the load that has begun last of those for
the selected namespace that have succeeded. -/
def QuotaFromLatest : Prop :=
  ∀ h w, Run (.fresh {} {}) h w → (∀ m ∈ h, m.activity.loadsQuota = true) → w.Quiet →
    ∀ space, w.console.session.connection.selected = some space → ∀ since m quota,
      Last (fun m => m.Asks (.quota space) ∧
        ∃ quota, ⟨.quota space, .ok quota⟩ ∈ repliesTo h m.strand) h since m →
      ⟨.quota space, .ok quota⟩ ∈ repliesTo h m.strand →
      w.console.session.connection.quota = quota

theorem not_asks_of_quiet {c : Call} {p : Prop} (quiet : m.issues = []) : ¬ (m.Asks c ∧ p) := by
  rintro ⟨⟨i, made, -⟩, -⟩
  rw [quiet] at made
  cases made

/-- A refresh has been answered only in part when the agent is paused, which is followed by a
refresh of its own. The older refresh ends last. -/
theorem exists_overtaken_refresh :
    ∃ h w, Run (.fresh {} {}) h w ∧ (∀ m ∈ h, m.activity.refreshes = true) ∧ w.Quiet ∧
      (∃ since m, Last (fun m => m.Asks .agentRunning ∧ ∃ found, HasRead h m.strand found)
        h since m ∧ HasRead h m.strand { connected := true, agentRunning := false }) ∧
      w.console.session.connection.status = { connected := true, agentRunning := true } := by
  have older := Run.next (@Run.start (.fresh {} {}))
    (.begin (.session .refreshStatus) (.tryAll _ _ _ _))
  have running := older.next (.answer 0 _ ⟨.agentRunning, .ok true⟩ rfl
    (@Action.Takes.tryPart _ _ [] [_, _] .agentRunning _ _ _ (List.cons_ne_nil _ _)))
  have server := running.next (.answer 0 _ ⟨.isServer, .ok false⟩ rfl
    (@Action.Takes.tryPart _ _ [_] [] .isServer _ _ _ (List.cons_ne_nil _ _)))
  have pausing := server.next (.begin (.session .pauseAgent) (.call _ _ _))
  have paused := pausing.next (.answer 1 _ ⟨.pauseAgent, .ok ()⟩ rfl
    (.call _ (.tryAll _ _ _ _)))
  have stopped := paused.next (.answer 1 _ ⟨.agentRunning, .ok false⟩ rfl
    (@Action.Takes.tryPart _ _ [] [_, _] .agentRunning _ _ _ (List.cons_ne_nil _ _)))
  have server' := stopped.next (.answer 1 _ ⟨.isServer, .ok false⟩ rfl
    (@Action.Takes.tryPart _ _ [_] [] .isServer _ _ _ (List.cons_ne_nil _ _)))
  have newer := server'.next (.answer 1 _ ⟨.connected, .ok true⟩ rfl
    (@Action.Takes.tryLast _ _ .connected _ _ _ _ _ true (.get (.get (.set (.done _ _))))))
  have late := newer.next (.answer 0 _ ⟨.connected, .ok true⟩ rfl
    (@Action.Takes.tryLast _ _ .connected _ _ _ _ _ true (.get (.get (.set (.done _ _))))))
  refine ⟨_, _, late, by simp [Activity.refreshes], ?_, ?_, rfl⟩
  · exact List.forall_mem_cons.mpr ⟨rfl, List.forall_mem_singleton.mpr rfl⟩
  refine ⟨_, _, .since (not_asks_of_quiet rfl) (.since (not_asks_of_quiet rfl)
    (.since (not_asks_of_quiet rfl) (.since (not_asks_of_quiet rfl) (.here ⟨?_, ?_⟩)))), ?_⟩
  · exact ⟨_, List.mem_cons_self, rfl⟩
  · exact ⟨_, _, List.mem_cons_of_mem _ List.mem_cons_self, rfl, rfl⟩
  · exact ⟨_, List.mem_cons_of_mem _ List.mem_cons_self, rfl, rfl⟩

/-- The quota of one namespace is asked for twice; the older answer comes last. -/
theorem exists_overtaken_quota :
    ∃ h w, Run (.fresh {} {}) h w ∧ (∀ m ∈ h, m.activity.loadsQuota = true) ∧ w.Quiet ∧
      w.console.session.connection.selected = some "a" ∧
      (∃ since m, Last (fun m => m.Asks (.quota "a") ∧
        ∃ quota, ⟨.quota "a", .ok quota⟩ ∈ repliesTo h m.strand) h since m ∧
        ⟨.quota "a", .ok (some {})⟩ ∈ repliesTo h m.strand) ∧
      w.console.session.connection.quota = none := by
  have older := Run.next (@Run.start (.fresh {} {}))
    (.begin (.session (.selectSpace "a")) (.get (.get (.set (.call _ _ _)))))
  have newer := older.next
    (.begin (.session (.selectSpace "a")) (.get (.get (.set (.call _ _ _)))))
  have own := newer.next (.answer 1 _ ⟨.quota "a", .ok (some {})⟩ rfl
    (.call _ (.get (.get (.set (.done _ _))))))
  have late := own.next (.answer 0 _ ⟨.quota "a", .ok none⟩ rfl
    (.call _ (.get (.get (.set (.done _ _))))))
  refine ⟨_, _, late, by simp [Activity.loadsQuota], ?_, rfl, ?_, rfl⟩
  · exact List.forall_mem_cons.mpr ⟨rfl, List.forall_mem_singleton.mpr rfl⟩
  refine ⟨_, _, .since (not_asks_of_quiet rfl) (.since (not_asks_of_quiet rfl)
    (.here ⟨?_, ?_⟩)), ?_⟩
  · exact ⟨_, List.mem_cons_self, rfl⟩
  · exact ⟨_, mem_repliesTo.mpr ⟨_, List.mem_cons_of_mem _ List.mem_cons_self, rfl, rfl⟩⟩
  · exact mem_repliesTo.mpr ⟨_, List.mem_cons_of_mem _ List.mem_cons_self, rfl, rfl⟩

theorem status_after_overtaking :
    ∃ h w, Run (.fresh {} {}) h w ∧ SessionReads (.fresh {} {}) h w ∧
      w.console.session.connection.status = { connected := true, agentRunning := true } := by
  obtain ⟨h, w, run, -, -, -, status⟩ := exists_overtaken_refresh
  exact ⟨h, w, run, session_reads run, status⟩

/-- Neither the status nor the quota need be the latest that has been read. -/
theorem not_readsFromLatest : ¬ StatusFromLatest ∧ ¬ QuotaFromLatest := by
  constructor
  · intro latest
    obtain ⟨h, w, run, only, quiet, ⟨since, m, last, read⟩, status⟩ := exists_overtaken_refresh
    rw [latest h w run only quiet since m _ last read] at status
    exact absurd status (by decide)
  · intro latest
    obtain ⟨h, w, run, only, quiet, selected, ⟨since, m, last, read⟩, quota⟩ :=
      exists_overtaken_quota
    rw [latest h w run only quiet "a" selected since m _ last read] at quota
    cases quota

end PoolConsole
