import PoolConsole.Proofs.InstantText
import PoolConsole.Proofs.Run.MonitorLoads

namespace PoolConsole

open PoolConsole.Action Console Operation

variable {start : Console} {h since earlier usageSince seriesSince : List Moment}
  {m usageLoad seriesLoad : Moment} {w : World}

/-- Both panels begin to load as filters are set. -/
theorem Run.begins_of_apply (run : Run start h w) (mem : m ∈ h) {filters : MonitorFilters}
    {now : Instant} (activity : m.activity = .views (.applyFilters filters now))
    (begins : m.reply = none) : usageHours.Begins m ∧ usageSeries.Begins m := by
  have advances := run.advances mem (congrArg Option.isNone begins)
  obtain ⟨n, a, reply, before, after, issues, rest⟩ := m
  cases activity
  simp only [Activity.action, ViewActivity.action, applyFilters, refreshMonitor, bind_eq, onMonitor,
    advances_modify_bind, advances_update_bind, advances_read_bind] at advances
  cases advances
  exact ⟨Nat.succ_ne_self _, Nat.succ_ne_self _⟩

theorem Run.filters_kept (run : Run start (since ++ m :: earlier) w)
    (only : ∀ m' ∈ since, m'.activity ≠ .views .loadMonitorDevices)
    (none : ∀ m' ∈ since, ¬ (usageHours.Begins m' ∧ usageSeries.Begins m')) :
    w.console.monitor.filters = m.after.monitor.filters := by
  refine (run.stable (p := fun c => c.monitor.filters = m.after.monitor.filters) ?_ rfl).1
  intro m' mem same
  have mem' : m' ∈ since ++ m :: earlier := List.mem_append_left _ mem
  rw [run.filters_after mem', Moment.refilter_of_other _ (only m' mem), same]
  intro filters now is begins
  exact none m' mem (run.begins_of_apply mem' is begins)

/-- How many hours a range reaches back. -/
inductive Reaches : TimeRange → Nat → Prop
  | day : Reaches .day 24
  | threeDays : Reaches .threeDays (3 * 24)
  | week : Reaches .week (7 * 24)
  | fifteenDays : Reaches .fifteenDays (15 * 24)

/-- The names under which the backend keeps a resource. -/
inductive KeptAs : MetricResource → List String → Prop
  | gpus : KeptAs .gpus ["amd_com_gpu", "nvidia_com_gpu"]
  | cpu : KeptAs .cpu ["cpu"]

/-- The query asks about the devices that are chosen, up to some time and from the range before it
on. -/
structure UsageQuery.Carries (q : UsageQuery) (f : MonitorFilters) : Prop where
  nodes : q.nodes = f.devices
  range : ∃ hours stop, Reaches f.range hours ∧ Instant.Stamps q.stop stop ∧
    Instant.Stamps q.start (stop - hours * 3600 * 1000000000)

/-- So does the query for a series, which asks about the resource that is chosen, added up. -/
structure MetricsQuery.Carries (q : MetricsQuery) (f : MonitorFilters) : Prop extends
    q.toUsageQuery.Carries f where
  resources : KeptAs f.resource q.resources
  aggregate : q.aggregate = true

theorem reaches_seconds (range : TimeRange) :
    ∃ hours : Nat, Reaches range hours ∧ (range.seconds : Int) = hours * 3600 := by
  cases range with
  | day => exact ⟨_, .day, rfl⟩
  | threeDays => exact ⟨_, .threeDays, rfl⟩
  | week => exact ⟨_, .week, rfl⟩
  | fifteenDays => exact ⟨_, .fifteenDays, rfl⟩

theorem carries_usageQuery (f : MonitorFilters) (now : Instant) :
    (f.usageQuery now).Carries f := by
  obtain ⟨hours, reaches, seconds⟩ := reaches_seconds f.range
  refine ⟨rfl, hours, _, reaches, now.stamps_text, ?_⟩
  have start := now.stamps_text_before f.range.seconds
  rwa [seconds] at start

theorem carries_metricsQuery (f : MonitorFilters) (now : Instant) :
    (f.metricsQuery now).Carries f where
  toCarries := carries_usageQuery f now
  resources := by
    change KeptAs f.resource f.resource.metricKeys
    cases f.resource with
    | gpus => exact .gpus
    | cpu => exact .cpu
  aggregate := rfl

/-- The two panels show what has been answered to queries that carry the filters. Use is answered in
seconds, memory in bytes, and shown in hours and gibibytes. -/
structure PairShown (w : World) (usageSince seriesSince : List Moment)
    (usageLoad seriesLoad : Moment) : Prop where
  usage : ∃ query usage, query.Carries w.console.monitor.filters ∧
    ⟨.usage query, usageLoad.after⟩ ∈ usageLoad.issues ∧
    ⟨.usage query, .ok usage⟩ ∈ repliesTo usageSince usageLoad.strand ∧
    w.console.monitor.usage.Shows (some (.ok
      ⟨usage.cpu / 3600, usage.ram / (1073741824 * 3600), usage.gpus / 3600⟩))
  series : ∃ query series, query.Carries w.console.monitor.filters ∧
    ⟨.metrics query, seriesLoad.after⟩ ∈ seriesLoad.issues ∧
    ⟨.metrics query, .ok series⟩ ∈ repliesTo seriesSince seriesLoad.strand ∧
    w.console.monitor.series.Shows (some (.ok series))

/-- Once nothing is under way both panels show the answers to queries that carry the filters, if
their last loads have been answered. -/
theorem monitor_pair (run : Run start h w) (quiet : w.Quiet)
    (only : ∀ m ∈ h, m.activity ≠ .views .loadMonitorDevices)
    (usage : Last usageHours.Begins h usageSince usageLoad)
    (series : Last usageSeries.Begins h seriesSince seriesLoad)
    (usageAnswered : ∀ query e, ⟨.usage query, .error e⟩ ∉ repliesTo usageSince usageLoad.strand)
    (seriesAnswered : ∀ query e,
      ⟨.metrics query, .error e⟩ ∉ repliesTo seriesSince seriesLoad.strand) :
    PairShown w usageSince seriesSince usageLoad seriesLoad := by
  constructor
  · obtain ⟨query, answers, asked, answered, shows⟩ :=
      (Source.tracked usagePlan run).latest_answered usage (quiet.ended run usage.mem)
        (fun _ => Nat.le_refl 1) fun query c mem e => by
          cases List.mem_singleton.mp mem
          exact usageAnswered query e
    obtain ⟨now, rfl⟩ := asked.asks
    obtain ⟨earlier, rfl⟩ := usage.split
    rw [run.filters_kept (fun m mem => only m (List.mem_append_left _ mem))
      fun m mem both => usage.not_later m mem both.1]
    exact ⟨_, answers.1, carries_usageQuery _ now, asked.calls _ List.mem_cons_self, answered.1,
      shows⟩
  · obtain ⟨query, answers, asked, answered, shows⟩ :=
      (Source.tracked seriesPlan run).latest_answered series (quiet.ended run series.mem)
        (fun _ => Nat.le_refl 1) fun query c mem e => by
          cases List.mem_singleton.mp mem
          exact seriesAnswered query e
    obtain ⟨now, rfl⟩ := asked.asks
    obtain ⟨earlier, rfl⟩ := series.split
    rw [run.filters_kept (fun m mem => only m (List.mem_append_left _ mem))
      fun m mem both => series.not_later m mem both.2]
    exact ⟨_, answers.1, carries_metricsQuery _ now, asked.calls _ List.mem_cons_self, answered.1,
      shows⟩

/-- Filters are set twice, and the answers to the first queries come last. -/
theorem pair_after_overlapping_applies :
    ∃ h w usageSince seriesSince usageLoad seriesLoad, Run (.fresh {} {}) h w ∧
      PairShown w usageSince seriesSince usageLoad seriesLoad ∧
      w.console.monitor.filters.devices = ["b"] := by
  have first := Run.next (@Run.start (.fresh {} {}))
    (.begin (.views (.applyFilters { devices := ["a"] } default))
      (.get (.get (.set (.get (.get (.set (.get (.get (.set (.get (.both _ _ _ _ _ _))))))))))))
  have second := first.next (.begin (.views (.applyFilters { devices := ["b"] } default))
    (.get (.get (.set (.get (.get (.set (.get (.get (.set (.get (.both _ _ _ _ _ _))))))))))))
  have series := second.next (.answer 1 _ ⟨.metrics _, .ok {}⟩ rfl (.bothSecond _))
  have usage := series.next (.answer 1 _ ⟨.usage _, .ok {}⟩ rfl
    (.call _ (.get (.set (.done _ _)))))
  have lateUsage := usage.next (.answer 0 _ ⟨.usage _, .ok {}⟩ rfl (.bothFirst _))
  have late := lateUsage.next (.answer 0 _ ⟨.metrics _, .ok {}⟩ rfl
    (.call _ (.get (.set (.done _ _)))))
  refine ⟨_, _, _, _, _, _, late, monitor_pair late ?_ ?_
    (.since (not_not_intro rfl) (.since (not_not_intro rfl) (.since (not_not_intro rfl)
      (.since (not_not_intro rfl) (.here (Nat.succ_ne_self _))))))
    (.since (not_not_intro rfl) (.since (not_not_intro rfl) (.since (not_not_intro rfl)
      (.since (not_not_intro rfl) (.here (Nat.succ_ne_self _)))))) ?_ ?_, rfl⟩
  · exact List.forall_mem_cons.mpr ⟨rfl, List.forall_mem_singleton.mpr rfl⟩
  · simp
  · simp [repliesTo]
  · simp [repliesTo]

end PoolConsole
