import PoolConsole.Proofs.Run.MonitorLoads

namespace PoolConsole

open Console Operation

/-- What the answer to a load of the devices does, by the moments since the load has begun. -/
structure DeviceAnswer (since : List Moment) (m : Moment) (r : Outcome (List Device))
    (b : Outcome LoadOutcome) : Prop where
  latest : (∀ m' ∈ since, ¬ monitorDevices.Begins m') →
    b = r.map (fun _ => .applied) ∧ m.after.monitor.devices.Shows (some (r.map deviceNames))
  superseded : ∀ m' ∈ since, monitorDevices.Begins m' →
    b = .ok .stale ∧ m.after.monitor.devices = m.before.monitor.devices
  /-- Whether it counts or not, an answer becomes the filter of devices. -/
  chosen : ∀ devices, r = .ok devices →
    m.after.monitor.filters = { m.before.monitor.filters with devices := deviceNames devices }
  failed : ∀ e, r = .error e → m.after.monitor.filters = m.before.monitor.filters

variable {start : Console} {h since : List Moment} {m : Moment} {w : World}
  {r : Outcome (List Device)} {b : Outcome LoadOutcome}

/-- An activity that has begun before goes on with an answer. -/
theorem Run.answered_of_mem (run : Run start (m :: h) w) {m' : Moment} (mem : m' ∈ h)
    (same : m'.strand = m.strand) : ∃ reply, m.reply = some reply := by
  cases run with
  | next prior step =>
    cases answered : m.reply with
    | some reply => exact ⟨reply, rfl⟩
    | none =>
      have fresh := prior.strand_fresh step (congrArg Option.isNone answered) m' mem
      exact absurd same (Nat.ne_of_lt fresh)

/-- An activity that loads the devices comes to its end with the answer to its call. -/
theorem device_answer (run : Run start (m :: h) w)
    (returns : m.Returns (.views .loadMonitorDevices) b) :
    ∃ r since own, m.reply = some ⟨.devices, r⟩ ∧
      Last (monitorDevices.BeginsFor m.strand) h since own ∧ DeviceAnswer since m r b := by
  obtain ⟨stage, stands, -, ticket, r, heard, complete⟩ := monitorDevicesPlan.returns run returns
  obtain ⟨since, own, last, asked, clear, latest, told⟩ := stands.loading_of_hear heard
  obtain ⟨reply, answered⟩ := run.answered_of_mem last.mem last.holds.1
  have told : reply = ⟨.devices, r⟩ := by
    rw [repliesTo_cons, answered] at told
    exact (List.cons.inj told).1.symm
  have outcome : (m.before.monitor.completeDevices ticket (r.map deviceNames)).1 = b :=
    congrArg Prod.fst complete
  have after : (m.before.monitor.completeDevices ticket (r.map deviceNames)).2 = m.after.monitor :=
    congrArg Prod.snd complete
  refine ⟨r, since, own, told ▸ answered, last, fun none => ?_, fun m' mem begins => ?_, ?_, ?_⟩
  · have current := latest.mpr none
    constructor
    · rw [← outcome]
      refine (Panel.complete_latest current _).trans ?_
      cases r with
      | ok | error => rfl
    · rw [← after]
      exact Panel.shows_complete current _
  · have old := fun current => latest.mp current m' mem begins
    have stale := Panel.complete_stale old (r.map deviceNames)
    rw [← outcome, ← after]
    exact ⟨congrArg Prod.fst stale, congrArg Prod.snd stale⟩
  · rintro devices rfl
    rw [← after]
    rfl
  · rintro e rfl
    rw [← after]
    rfl

/-- The devices that are chosen in a moment: those of filters that are set, or all that are
answered. -/
def Moment.chosen? (m : Moment) : Option (List String) :=
  match m.activity, m.reply with
  | .views (.applyFilters filters _), none => some filters.devices
  | .views .loadMonitorDevices, some ⟨.devices, .ok devices⟩ => some (deviceNames devices)
  | _, _ => none

theorem Moment.devices_refilter (m : Moment) (filters : MonitorFilters) :
    (m.refilter filters).devices = m.chosen?.getD filters.devices := by
  unfold refilter
  split
  next chosen now is none =>
    rw [chosen?, is, none]
    rfl
  next devices is answered =>
    rw [chosen?, is, answered]
    rfl
  next apply answers =>
    have none : m.chosen? = none := by
      unfold chosen?
      split
      next is none => exact (apply _ _ is none).elim
      next is answered => exact (answers _ is answered).elim
      next => rfl
    rw [none]
    rfl

theorem Run.devices_eq (run : Run start h w) :
    w.console.monitor.filters.devices =
      (h.findSome? Moment.chosen?).getD start.monitor.filters.devices := by
  induction run with
  | start => rfl
  | @next h m v w prior step ih =>
    rw [← step.after_eq, (prior.next step).filters_after List.mem_cons_self,
      Moment.devices_refilter, step.before_eq, ih, List.findSome?_cons]
    cases m.chosen? with
    | none => rfl
    | some devices => rfl

structure MonitorDevices (start : Console) (h : List Moment) (w : World) : Prop where
  answers : ∀ later m earlier b, h = later ++ m :: earlier →
    m.Returns (.views .loadMonitorDevices) b → ∃ r since own, m.reply = some ⟨.devices, r⟩ ∧
      Last (monitorDevices.BeginsFor m.strand) earlier since own ∧ DeviceAnswer since m r b
  /-- An answer that is stale changes nothing only if it has nothing new. -/
  left_iff : ∀ m ∈ h, m.Returns (.views .loadMonitorDevices) (.ok .stale) →
    ((m.after.monitor.filters = m.before.monitor.filters ∧
        m.after.monitor.devices = m.before.monitor.devices) ↔
      ∀ devices, m.reply = some ⟨.devices, .ok devices⟩ →
        deviceNames devices = m.before.monitor.filters.devices)
  /-- The devices that the monitor is filtered by have been chosen last. -/
  chosen : w.console.monitor.filters.devices =
    (h.findSome? Moment.chosen?).getD start.monitor.filters.devices

/-- The filters are those that have been set or answered last, also by a load that has been
superseded. -/
theorem monitor_devices (run : Run start h w) : MonitorDevices start h w := by
  have answers : ∀ later m earlier b, h = later ++ m :: earlier →
      m.Returns (.views .loadMonitorDevices) b → ∃ r since own, m.reply = some ⟨.devices, r⟩ ∧
        Last (monitorDevices.BeginsFor m.strand) earlier since own ∧ DeviceAnswer since m r b := by
    rintro later m earlier b rfl returns
    obtain ⟨v, run⟩ := run.suffix
    exact device_answer run returns
  refine ⟨answers, fun m mem returns => ?_, run.devices_eq⟩
  obtain ⟨later, earlier, split⟩ := List.append_of_mem mem
  obtain ⟨r, since, own, reply, last, answer⟩ := answers later m earlier _ split returns
  have kept : m.after.monitor.devices = m.before.monitor.devices := by
    by_cases superseded : ∃ m' ∈ since, monitorDevices.Begins m'
    · obtain ⟨m', mem, begins⟩ := superseded
      exact (answer.superseded m' mem begins).2
    · have outcome := (answer.latest fun m' mem begins => superseded ⟨m', mem, begins⟩).1
      cases r with
      | ok | error => cases outcome
  rw [and_iff_left kept, reply]
  cases r with
  | error e => exact iff_of_true (answer.failed e rfl) (by simp)
  | ok devices =>
    rw [answer.chosen devices rfl]
    constructor
    · intro same devices' is
      cases is
      exact congrArg MonitorFilters.devices same
    · intro same
      rw [same devices rfl]

def Activity.filtersDevices : Activity → Bool
  | .views .loadMonitorDevices | .views (.applyFilters _ _) | .views (.refreshMonitor _) => true
  | _ => false

/-- The older of two loads is answered last, after one device has been chosen. -/
theorem exists_late_answer :
    ∃ m h w, Run (.fresh {} {}) (m :: h) w ∧ m.Returns (.views .loadMonitorDevices) (.ok .stale) ∧
      (∀ m' ∈ m :: h, m'.activity.filtersDevices = true) ∧
      m.before.monitor.filters.devices = ["a"] ∧ m.after.monitor.filters.devices = ["a", "b"] := by
  have older := Run.next (@Run.start (.fresh {} {}))
    (.begin (.views .loadMonitorDevices) (.get (.get (.set (.call _ _ _)))))
  have newer := older.next
    (.begin (.views .loadMonitorDevices) (.get (.get (.set (.call _ _ _)))))
  have shown := newer.next (.answer 1 _ ⟨.devices, .ok [{ name := "a" }, { name := "b" }]⟩ rfl
    (.call _ (.get (.get (.set (.done _ _))))))
  have chosen := shown.next (.begin (.views (.applyFilters { devices := ["a"] } default))
    (.get (.get (.set (.get (.get (.set (.get (.get (.set (.get (.both _ _ _ _ _ _))))))))))))
  have late := chosen.next (.answer 0 _ ⟨.devices, .ok [{ name := "a" }, { name := "b" }]⟩ rfl
    (.call _ (.get (.get (.set (.done _ _))))))
  exact ⟨_, _, _, late, rfl, by simp [Activity.filtersDevices], rfl, rfl⟩

theorem devices_after_late_answer :
    ∃ h w, Run (.fresh {} {}) h w ∧ MonitorDevices (.fresh {} {}) h w ∧
      w.console.monitor.filters.devices = ["a", "b"] := by
  obtain ⟨m, h, w, run, -, -, -, after⟩ := exists_late_answer
  refine ⟨_, _, run, monitor_devices run, ?_⟩
  rw [← run.after_eq, after]

/-- The answer to a load of the devices that is stale leaves the filters and the panel as they
are. -/
def StaleLeavesMonitor : Prop :=
  ∀ h w, Run (.fresh {} {}) h w → (∀ m ∈ h, m.activity.filtersDevices = true) →
    ∀ m ∈ h, m.Returns (.views .loadMonitorDevices) (.ok .stale) →
      m.after.monitor.filters = m.before.monitor.filters ∧
      m.after.monitor.devices = m.before.monitor.devices

theorem not_staleLeavesMonitor : ¬ StaleLeavesMonitor := by
  intro leaves
  obtain ⟨m, h, w, run, returns, only, before, after⟩ := exists_late_answer
  have same := (leaves _ _ run only m List.mem_cons_self returns).1
  rw [same, before] at after
  exact absurd after (by decide)

end PoolConsole
