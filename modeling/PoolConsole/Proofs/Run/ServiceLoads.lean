import PoolConsole.Proofs.Run.Account

namespace PoolConsole

open PoolConsole.Action Console Operation

/-- Whether an activity that ends with the result has taken over a load of the services. -/
def Activity.appliesServices : (a : Activity) → a.Result → Bool
  | .views .loadServices, .ok .applied => true
  | _, _ => false

/-- The load of the services comes to its end in the moment and is taken over. -/
def Moment.appliesServices (m : Moment) : Bool :=
  m.rest.value?.any m.activity.appliesServices

structure ServicesTurn (applied : Bool) (told : List Reply) (s t : Console) : Prop where
  taken : applied = true → ∃ services, told = [⟨.services, .ok services⟩] ∧
    t.services.panel.data = some services
  kept : applied = false → t.services.panel.data = s.services.panel.data

def servicesAccount (a : Activity) : Account Console a.Result :=
  fun told _ value s t => ServicesTurn (value.any a.appliesServices) told s t

theorem ServicesTurn.of_kept {told : List Reply} {s t : Console}
    (same : t.services.panel.data = s.services.panel.data) : ServicesTurn false told s t :=
  ⟨nofun, fun _ => same⟩

/-- What has arrived too late and what has failed leave the services as they are. -/
theorem servicesTurn_complete (s : Console) (ticket : Ticket) (result : Outcome (List Service)) :
    servicesAccount (.views .loadServices) [⟨.services, result⟩] []
      (some (s.services.complete ticket result).1) s
      { s with services := (s.services.complete ticket result).2 } := by
  simp only [servicesAccount, ServiceBoard.complete, Panel.complete]
  split
  next => exact .of_kept rfl
  next =>
    cases result with
    | ok services => exact ⟨fun _ => ⟨services, rfl, rfl⟩, nofun⟩
    | error e => exact .of_kept rfl

theorem follows_loadServices (s : Console) :
    loadServices.Follows (servicesAccount (.views .loadServices)) [] [] s s := by
  simp only [loadServices, bind_eq]
  refine (follows_bind _ _).mpr ((follows_read _).mpr ?_)
  change (ite _ _ _ : Action Console (Outcome LoadOutcome)).Follows _ _ _ _ _
  split
  next =>
    refine (follows_bind _ _).mpr ((follows_update _).mpr ?_)
    refine (follows_bind _ _).mpr (follows_request.mpr ⟨.of_kept rfl, fun result t => ?_⟩)
    exact (follows_update _).mpr (servicesTurn_complete t _ result)
  next => exact (follows_done _).mpr (.of_kept rfl)

/-- Everything else leaves the services as they are. -/
theorem confined_of_otherServices (a : Activity) (other : a ≠ .views .loadServices) :
    a.action.Confined (·.services) fun _ _ => True := by
  have may {k : Call → Prop} (c : Call) (_ : Console) (_ : k c) : True := trivial
  cases a with
  | session a =>
    exact SessionActivity.confined may (fun _ _ => rfl) (fun _ _ => rfl) (fun _ _ => rfl) a
      fun _ _ _ => rfl
  | jobs a =>
    exact JobActivity.confined (fun _ _ => rfl) (fun _ _ _ => trivial) may a fun _ _ _ _ => rfl
  | wizard a =>
    exact WizardActivity.confined (fun _ _ _ => rfl) may a fun what _ =>
      submission_confined (fun _ _ => rfl) (fun _ _ => rfl) (fun _ _ _ => rfl)
        (fun _ _ _ => trivial) may what
  | nodes a => exact NodeActivity.confined (fun _ _ => rfl) may a
  | views a =>
    cases a with
    | loadServices => exact absurd rfl other
    | loadOverview => exact loadOverview_confined (fun _ _ => rfl) may fun _ _ => trivial
    | loadMonitorDevices => exact loadMonitorDevices_confined (fun _ _ => rfl) may
    | loadUsage now => exact loadUsage_confined (fun _ _ => rfl) may now
    | loadSeries now => exact loadSeries_confined (fun _ _ => rfl) may now
    | refreshMonitor now => exact refreshMonitor_confined (fun _ _ => rfl) may now
    | applyFilters filters now =>
      exact .bind (confined_onMonitor (fun _ _ => rfl) (.modify fun _ => rfl)) fun _ =>
        refreshMonitor_confined (fun _ _ => rfl) may now
    | refreshLogs => exact refreshLogs_confined (fun _ _ => rfl) may
    | openLogs target tail => exact openLogs_confined (fun _ _ => rfl) may target tail
    | setTail | closeLogs => exact confined_onLogs (fun _ _ => rfl) (.modify fun _ => rfl)

theorem appliesServices_of_other {a : Activity} (other : a ≠ .views .loadServices) (r : a.Result) :
    a.appliesServices r = false := by
  unfold Activity.appliesServices
  split
  next => exact absurd rfl other
  next => rfl

theorem follows_services (a : Activity) (s : Console) :
    a.action.Follows (servicesAccount a) [] [] s s := by
  by_cases here : a = .views .loadServices
  · subst here
    exact follows_loadServices s
  · refine ((confined_of_otherServices a here).follows rfl (by simp)).imp ?_
    rintro told made value u v ⟨same, -, -⟩
    have unapplied : value.any a.appliesServices = false := by
      cases value with
      | none => rfl
      | some r => exact appliesServices_of_other here r
    unfold servicesAccount
    rw [unapplied]
    exact .of_kept (congrArg (·.panel.data) same)

variable {start : Console} {later earlier : List Moment} {m : Moment} {w : World}

theorem Run.services_turn (run : Run start (later ++ m :: earlier) w) :
    ServicesTurn m.appliesServices (repliesTo (m :: earlier) m.strand) m.before m.after :=
  run.accounts follows_services

/-- The services of the load that has been taken over last are those of the board. -/
theorem Run.services_after (run : Run start (later ++ m :: earlier) w)
    (applies : m.appliesServices = true) (last : ∀ m' ∈ later, m'.appliesServices = false)
    {services : List Service}
    (told : ⟨.services, .ok services⟩ ∈ repliesTo (m :: earlier) m.strand) :
    w.console.services.panel.data = some services := by
  obtain ⟨loaded, only, data⟩ := run.services_turn.taken applies
  rw [only, List.mem_singleton] at told
  cases told
  refine (run.stable (p := fun c => c.services.panel.data = some services) ?_ data).1
  intro m' mem shown
  obtain ⟨before, after, rfl⟩ := List.append_of_mem mem
  rw [List.append_assoc] at run
  rw [run.services_turn.kept (last m' mem), shown]

end PoolConsole
