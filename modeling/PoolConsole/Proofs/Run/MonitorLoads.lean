import PoolConsole.Proofs.Run.Frame
import PoolConsole.Proofs.Run.Loading

namespace PoolConsole

open PoolConsole.Action Console Operation

def deviceNames (devices : List Device) : List String :=
  devices.map (·.name)

def monitorDevices : Source (List String) where
  panel c := c.monitor.devices
  Query := Unit
  calls _ := [.devices]
  read _ answers := deviceNames answers.1

def usageHours : Source UsageHours where
  panel c := c.monitor.usage
  Query := UsageQuery
  calls query := [.usage query]
  read _ answers := answers.1.hours
  asks _ query _ s := ∃ now, query = s.monitor.filters.usageQuery now

def usageSeries : Source UsageSeries where
  panel c := c.monitor.series
  Query := MetricsQuery
  calls query := [.metrics query]
  read _ answers := answers.1
  asks _ query _ s := ∃ now, query = s.monitor.filters.metricsQuery now

/-! ## What leaves a view of the monitor alone -/

def Activity.monitors : Activity → Bool
  | .views .loadMonitorDevices | .views (.loadUsage _) | .views (.loadSeries _)
  | .views (.refreshMonitor _) | .views (.applyFilters _ _) => true
  | _ => false

section
variable {γ : Type} {view : Console → γ} {calls : Call → Console → Prop}
  (may : ∀ c s, calls c s)
include may

theorem confined_of_otherMonitor (apart : ∀ c c', c.monitor = c'.monitor → view c = view c')
    (a : Activity) (other : a.monitors = false) :
    a.action.Confined view calls := by
  cases a with
  | session a =>
    exact SessionActivity.confined (fun c s _ => may c s) (fun _ _ => apart _ _ rfl)
      (fun _ _ => apart _ _ rfl) (fun _ _ => apart _ _ rfl) a fun _ _ _ => apart _ _ rfl
  | jobs a =>
    exact JobActivity.confined (fun _ _ => apart _ _ rfl) (fun _ s _ => may _ s)
      (fun c s _ => may c s) a fun _ _ _ _ => apart _ _ rfl
  | wizard a =>
    exact WizardActivity.confined (fun _ _ _ => apart _ _ rfl) (fun c s _ => may c s) a
      fun what _ => submission_confined (fun _ _ => apart _ _ rfl) (fun _ _ => apart _ _ rfl)
        (fun _ _ _ => apart _ _ rfl) (fun _ s _ => may _ s) (fun c s _ => may c s) what
  | nodes a => exact NodeActivity.confined (fun _ _ => apart _ _ rfl) (fun c s _ => may c s) a
  | views b =>
    cases b with
    | loadMonitorDevices | loadUsage | loadSeries | refreshMonitor | applyFilters => cases other
    | loadServices => exact loadServices_confined (fun _ _ => apart _ _ rfl) fun s _ => may _ s
    | loadOverview =>
      exact loadOverview_confined (fun _ _ => apart _ _ rfl) (fun c s _ => may c s)
        fun _ s => may _ s
    | refreshLogs => exact refreshLogs_confined (fun _ _ => apart _ _ rfl) fun c s _ => may c s
    | openLogs target tail =>
      exact openLogs_confined (fun _ _ => apart _ _ rfl) (fun c s _ => may c s) target tail
    | setTail | closeLogs => exact ⟨fun _ s same => Eq.trans (apart _ s rfl) same⟩

theorem confined_loadMonitorDevices (keeps : ∀ (c : Console) devices filters,
    view { c with monitor.devices := devices, monitor.filters := filters } = view c) :
    loadMonitorDevices.Confined view calls :=
  .bind ⟨fun _ _ same => (keeps _ _ _).trans same⟩ fun _ =>
    .bind (.request fun s => may _ s) fun _ => ⟨fun _ _ same => (keeps _ _ _).trans same⟩

theorem confined_loadUsage (keeps : ∀ (c : Console) usage,
    view { c with monitor.usage := usage } = view c) (now : Instant) :
    (loadUsage now).Confined view calls :=
  .bind ⟨fun _ _ same => (keeps _ _).trans same⟩ fun _ => .bind (.read _) fun _ =>
    .bind (.request fun s => may _ s) fun _ => ⟨fun _ _ same => (keeps _ _).trans same⟩

theorem confined_loadSeries (keeps : ∀ (c : Console) series,
    view { c with monitor.series := series } = view c) (now : Instant) :
    (loadSeries now).Confined view calls :=
  .bind ⟨fun _ _ same => (keeps _ _).trans same⟩ fun _ => .bind (.read _) fun _ =>
    .bind (.request fun s => may _ s) fun _ => ⟨fun _ _ same => (keeps _ _).trans same⟩

theorem confined_refreshMonitor
    (usage : ∀ (c : Console) usage, view { c with monitor.usage := usage } = view c)
    (series : ∀ (c : Console) series, view { c with monitor.series := series } = view c)
    (now : Instant) : (refreshMonitor now).Confined view calls := by
  refine .bind ⟨fun _ _ same => (usage _ _).trans same⟩ fun _ => ?_
  refine .bind ⟨fun _ _ same => (series _ _).trans same⟩ fun _ => .bind (.read _) fun _ => ?_
  refine .bind ⟨fun s₀ s same => ⟨⟨may _ s, may _ s, same⟩, fun t _ => ⟨fun r => ?_, fun q => ?_⟩⟩⟩
    fun _ => .done _
  · exact ⟨usage t _, fun u _ q => series u _⟩
  · exact ⟨series t _, fun u _ r => usage u _⟩

theorem confined_applyFilters
    (usage : ∀ (c : Console) usage, view { c with monitor.usage := usage } = view c)
    (series : ∀ (c : Console) series, view { c with monitor.series := series } = view c)
    (keeps : ∀ (c : Console) filters, view { c with monitor.filters := filters } = view c)
    (filters : MonitorFilters) (now : Instant) :
    (applyFilters filters now).Confined view calls :=
  .bind ⟨fun _ _ same => (keeps _ _).trans same⟩ fun _ =>
    confined_refreshMonitor may usage series now

end

/-! ## Loads -/

section
variable {a : Activity} {s₀ s : Console}

theorem loads_loadUsage (now : Instant) (s : Console) :
    (loadUsage now).Loads usageHours a (fun _ stage u v => usageHours.Ends a stage u v)
      (.ahead []) s s := by
  simp only [loadUsage, bind_eq, onMonitor, loads_bind, loads_update, loads_read]
  refine loads_request (S := usageHours) (s.monitor.filters.usageQuery now) rfl ⟨now, rfl⟩
    (List.Subset.refl _) rfl fun r t => ⟨_, .takes _ rfl ⟨_, .one r, ?_⟩, trivial⟩
  cases r with
  | ok | error => rfl

theorem loads_loadSeries (now : Instant) (s : Console) :
    (loadSeries now).Loads usageSeries a (fun _ stage u v => usageSeries.Ends a stage u v)
      (.ahead []) s s := by
  simp only [loadSeries, bind_eq, onMonitor, loads_bind, loads_update, loads_read]
  refine loads_request (S := usageSeries) (s.monitor.filters.metricsQuery now) rfl ⟨now, rfl⟩
    (List.Subset.refl _) rfl fun r t => ⟨_, .takes _ rfl ⟨_, .one r, ?_⟩, trivial⟩
  cases r with
  | ok | error => rfl

theorem loads_refreshUsage (now : Instant) (same : usageHours.panel s = usageHours.panel s₀) :
    (refreshMonitor now).Loads usageHours a (fun _ stage u v => usageHours.Ends a stage u v)
      (.ahead []) s₀ s := by
  have begun := congrArg (fun p => (Panel.begin p).2) same
  have ticket := congrArg (fun p => (Panel.begin p).1) same
  simp only [refreshMonitor, bind_eq, onMonitor, loads_bind, loads_update, loads_read]
  refine loads_both (S := usageHours) (s.monitor.filters.usageQuery now) begun ⟨now, rfl⟩
    (List.cons_subset_cons _ (List.nil_subset _)) ?_
  refine usageHours.awaitsBoth_of_loading rfl rfl (fun r t => ⟨_, ?_, ⟨_, .one r, rfl⟩⟩)
    (fun _ _ => rfl) fun ends => (loads_done _).mpr ((loads_done _).mpr ends)
  rw [← ticket]
  cases r with
  | ok | error => rfl

theorem loads_refreshSeries (now : Instant) (same : usageSeries.panel s = usageSeries.panel s₀) :
    (refreshMonitor now).Loads usageSeries a (fun _ stage u v => usageSeries.Ends a stage u v)
      (.ahead []) s₀ s := by
  have begun := congrArg (fun p => (Panel.begin p).2) same
  have ticket := congrArg (fun p => (Panel.begin p).1) same
  simp only [refreshMonitor, bind_eq, onMonitor, loads_bind, loads_update, loads_read]
  refine loads_both (S := usageSeries) (s.monitor.filters.metricsQuery now) begun ⟨now, rfl⟩
    (List.subset_cons_self _ _) (.swap ?_)
  refine usageSeries.awaitsBoth_of_loading rfl rfl (fun r t => ⟨_, ?_, ⟨_, .one r, rfl⟩⟩)
    (fun _ _ => rfl) fun ends => (loads_done _).mpr ((loads_done _).mpr ends)
  rw [← ticket]
  cases r with
  | ok | error => rfl

end

/-! ## Plans -/

/-- An activity that loads the devices ends with its answer, which is taken over into the panel, in
time or too late, and into the filters. -/
def monitorDevicesPost : (a : Activity) → a.Result → monitorDevices.Stage → Console → Console → Prop
  | .views .loadMonitorDevices, b, stage, u, v =>
    monitorDevices.Ends (.views .loadMonitorDevices) stage u v ∧
    ∃ ticket r, stage = .loading () ticket [⟨.devices, r⟩] ∧
      u.monitor.completeDevices ticket (r.map deviceNames) = (b, v.monitor)
  | a, _, stage, u, v => monitorDevices.Ends a stage u v

theorem loads_loadMonitorDevices (s : Console) :
    loadMonitorDevices.Loads monitorDevices (.views .loadMonitorDevices)
      (monitorDevicesPost (.views .loadMonitorDevices)) (.ahead []) s s := by
  simp only [loadMonitorDevices, bind_eq, onMonitor, loads_bind, loads_update]
  refine loads_request (S := monitorDevices) () rfl trivial (List.Subset.refl _) rfl fun r t => ?_
  refine ⟨⟨_, .takes _ rfl ⟨_, .one r, ?_⟩, trivial⟩, _, r, rfl, rfl⟩
  cases r with
  | ok | error => rfl

def monitorDevicesPlan : monitorDevices.Plan where
  post := monitorDevicesPost
  ends {a b stage s t} post := by
    cases a with
    | views a =>
      cases a with
      | loadMonitorDevices => exact post.1
      | _ => exact post
    | _ => exact post
  loads a s := by
    have may (c : Call) (_ : Console) : monitorDevices.writes c = false := rfl
    have apart (c c' : Console) (same : c.monitor = c'.monitor) :
        monitorDevices.panel c = monitorDevices.panel c' := congrArg Monitor.devices same
    cases a with
    | views b =>
      cases b with
      | loadMonitorDevices => exact loads_loadMonitorDevices s
      | loadUsage now => exact (confined_loadUsage may (fun _ _ => rfl) now).ends s
      | loadSeries now => exact (confined_loadSeries may (fun _ _ => rfl) now).ends s
      | refreshMonitor now =>
        exact (confined_refreshMonitor may (fun _ _ => rfl) (fun _ _ => rfl) now).ends s
      | applyFilters filters now =>
        refine Confined.ends ?_ s
        exact confined_applyFilters may (fun _ _ => rfl) (fun _ _ => rfl) (fun _ _ => rfl)
          filters now
      | loadServices | loadOverview | refreshLogs | openLogs | setTail | closeLogs =>
        refine Confined.ends (confined_of_otherMonitor may apart (.views _) ?_) s
        rfl
    | session | jobs | wizard | nodes =>
      refine Confined.ends (confined_of_otherMonitor may apart _ ?_) s
      rfl

def usagePlan : usageHours.Plan where
  post a _ stage u v := usageHours.Ends a stage u v
  ends := id
  loads a s := by
    have may (c : Call) (_ : Console) : usageHours.writes c = false := rfl
    have apart (c c' : Console) (same : c.monitor = c'.monitor) :
        usageHours.panel c = usageHours.panel c' := congrArg Monitor.usage same
    cases a with
    | views b =>
      cases b with
      | loadMonitorDevices => exact (confined_loadMonitorDevices may fun _ _ _ => rfl).ends s
      | loadUsage now => exact loads_loadUsage now s
      | loadSeries now => exact (confined_loadSeries may (fun _ _ => rfl) now).ends s
      | refreshMonitor now => exact loads_refreshUsage now rfl
      | applyFilters filters now =>
        exact (loads_bind _ _).mpr ((loads_modify _).mpr (loads_refreshUsage now rfl))
      | loadServices | loadOverview | refreshLogs | openLogs | setTail | closeLogs =>
        refine Confined.ends (confined_of_otherMonitor may apart (.views _) ?_) s
        rfl
    | session | jobs | wizard | nodes =>
      refine Confined.ends (confined_of_otherMonitor may apart _ ?_) s
      rfl

def seriesPlan : usageSeries.Plan where
  post a _ stage u v := usageSeries.Ends a stage u v
  ends := id
  loads a s := by
    have may (c : Call) (_ : Console) : usageSeries.writes c = false := rfl
    have apart (c c' : Console) (same : c.monitor = c'.monitor) :
        usageSeries.panel c = usageSeries.panel c' := congrArg Monitor.series same
    cases a with
    | views b =>
      cases b with
      | loadMonitorDevices => exact (confined_loadMonitorDevices may fun _ _ _ => rfl).ends s
      | loadUsage now => exact (confined_loadUsage may (fun _ _ => rfl) now).ends s
      | loadSeries now => exact loads_loadSeries now s
      | refreshMonitor now => exact loads_refreshSeries now rfl
      | applyFilters filters now =>
        exact (loads_bind _ _).mpr ((loads_modify _).mpr (loads_refreshSeries now rfl))
      | loadServices | loadOverview | refreshLogs | openLogs | setTail | closeLogs =>
        refine Confined.ends (confined_of_otherMonitor may apart (.views _) ?_) s
        rfl
    | session | jobs | wizard | nodes =>
      refine Confined.ends (confined_of_otherMonitor may apart _ ?_) s
      rfl

/-! ## The filters -/

/-- The filters after a moment, by those before. -/
def Moment.refilter (m : Moment) (filters : MonitorFilters) : MonitorFilters :=
  match m.activity, m.reply with
  | .views (.applyFilters chosen _), none => chosen
  | .views .loadMonitorDevices, some ⟨.devices, .ok devices⟩ =>
    { filters with devices := deviceNames devices }
  | _, _ => filters

inductive Refilters (c : Console) : Strand → Prop where
  | devices (ticket : Ticket) : Refilters c ⟨.views .loadMonitorDevices, .call .devices fun r =>
      onMonitor (.update fun m => m.completeDevices ticket (r.map deviceNames))⟩
  | settled (a : Activity) (rest : Action Console a.Result) :
      (a = .views .loadMonitorDevices → rest.value?.isSome = true) →
      rest.Still (·.monitor.filters) (fun _ => True) c → Refilters c ⟨a, rest⟩

theorem Refilters.mono {s t : Console} {strand : Strand} (refilters : Refilters s strand) :
    Refilters t strand := by
  cases refilters with
  | devices ticket => exact .devices ticket
  | settled a rest ended still => exact .settled a rest ended still.mono

theorem confined_filters (a : Activity) (devices : a ≠ .views .loadMonitorDevices)
    (apply : ∀ filters now, a ≠ .views (.applyFilters filters now)) :
    a.action.Confined (·.monitor.filters) fun _ _ => True := by
  have may (c : Call) (s : Console) : (fun _ _ => True : Call → Console → Prop) c s := trivial
  by_cases other : a.monitors = false
  · exact confined_of_otherMonitor may (fun _ _ same => congrArg Monitor.filters same) a other
  · cases a with
    | views b =>
      cases b with
      | loadMonitorDevices => exact absurd rfl devices
      | applyFilters filters now => exact absurd rfl (apply filters now)
      | loadUsage now => exact confined_loadUsage may (fun _ _ => rfl) now
      | loadSeries now => exact confined_loadSeries may (fun _ _ => rfl) now
      | refreshMonitor now =>
        exact confined_refreshMonitor may (fun _ _ => rfl) (fun _ _ => rfl) now
      | _ => exact absurd rfl other
    | _ => exact absurd rfl other

variable {start : Console} {h : List Moment} {m : Moment} {w : World}

theorem Moment.refilter_of_other (filters : MonitorFilters)
    (devices : m.activity ≠ .views .loadMonitorDevices)
    (apply : ∀ filters now, m.activity = .views (.applyFilters filters now) → m.reply ≠ none) :
    m.refilter filters = filters := by
  unfold refilter
  split
  next chosen now is none => exact absurd none (apply _ _ is)
  next is _ => exact absurd is devices
  next => rfl

theorem Refilters.of_begins (begins : m.reply = none)
    (advances : m.activity.action.Advances m.before m.issues m.rest m.after) :
    m.after.monitor.filters = m.refilter m.before.monitor.filters ∧
      Refilters m.after ⟨m.activity, m.rest⟩ := by
  by_cases devices : m.activity = .views .loadMonitorDevices
  · obtain ⟨n, a, reply, before, after, issues, rest⟩ := m
    cases begins
    cases devices
    simp only [Activity.action, ViewActivity.action, loadMonitorDevices, bind_eq, onMonitor,
      advances_update_bind] at advances
    obtain ⟨-, rfl, rfl⟩ := (advances_call _ _).mp advances
    exact ⟨rfl, .devices _⟩
  · by_cases apply : ∃ filters now, m.activity = .views (.applyFilters filters now)
    · obtain ⟨filters, now, is⟩ := apply
      obtain ⟨n, a, reply, before, after, issues, rest⟩ := m
      cases begins
      cases is
      simp only [Activity.action, ViewActivity.action, applyFilters, bind_eq, onMonitor,
        advances_modify_bind] at advances
      have keeps := (confined_filters (.views (.refreshMonitor now)) (by simp) (by simp)).keeps
        advances
      exact ⟨keeps.same, .settled _ _ (by simp) keeps.still⟩
    · have other (filters : MonitorFilters) (now : Instant) :
          m.activity ≠ .views (.applyFilters filters now) := fun is => apply ⟨filters, now, is⟩
      have keeps := (confined_filters m.activity devices other).keeps advances
      rw [Moment.refilter_of_other _ devices fun _ _ is => absurd is (other _ _)]
      exact ⟨keeps.same, .settled _ _ (fun is => absurd is devices) keeps.still⟩

theorem Refilters.of_answer {x : Action Console m.activity.Result} {reply : Reply}
    (answered : m.reply = some reply) (refilters : Refilters m.before ⟨m.activity, x⟩)
    (takes : x.Takes m.before reply m.issues m.rest m.after) :
    m.after.monitor.filters = m.refilter m.before.monitor.filters ∧
      Refilters m.after ⟨m.activity, m.rest⟩ := by
  obtain ⟨n, a, _, before, after, issues, rest⟩ := m
  cases answered
  cases refilters with
  | devices ticket =>
    obtain ⟨r, rfl, advances⟩ := (takes_call _ _ _).mp takes
    simp only [onMonitor, Action.update, onPart, advances_get, advances_set,
      advances_done] at advances
    obtain ⟨-, rfl, rfl⟩ := advances
    refine ⟨?_, .settled _ _ (fun _ => rfl) (.done _)⟩
    cases r with
    | ok | error => rfl
  | settled _ _ ended still =>
    have keeps := still.keeps takes
    have other : a ≠ .views .loadMonitorDevices := fun is => by
      have finished := ended is
      rw [takes.unfinished] at finished
      cases finished
    refine ⟨?_, .settled _ _ (fun is => absurd is other) keeps.still⟩
    rw [Moment.refilter_of_other _ other fun _ _ _ => Option.some_ne_none _]
    exact keeps.same

/-- What a moment does to the filters. -/
theorem Run.filters_after (run : Run start h w) (mem : m ∈ h) :
    m.after.monitor.filters = m.refilter m.before.monitor.filters :=
  (run.each Refilters Refilters.mono (fun _ => Refilters.of_begins)
    fun _ _ _ => Refilters.of_answer).1 m mem

end PoolConsole
