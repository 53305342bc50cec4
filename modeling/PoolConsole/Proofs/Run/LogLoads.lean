import PoolConsole.Proofs.Run.Past
import PoolConsole.Proofs.Run.Sequence

namespace PoolConsole

open PoolConsole.Action Console Operation

/-- Whose logs a call asks for, and how many lines of them. -/
def Call.logs? : Call → Option (LogTarget × Nat)
  | .jobLogs id space pod tail => some (.job id space pod, tail)
  | .serviceLogs tail => some (.services, tail)
  | _ => none

def Reply.logs? : Reply → Option (Outcome LogView)
  | ⟨.jobLogs _ _ _ _, r⟩ => some r
  | ⟨.serviceLogs _, r⟩ => some r
  | _ => none

theorem Reply.logs?_of_quiet {reply : Reply} (quiet : reply.call.logs? = none) :
    reply.logs? = none := by
  obtain ⟨c, r⟩ := reply
  cases c with
  | jobLogs | serviceLogs => cases quiet
  | _ => rfl

/-- What is shown of an answer; a failure is shown in place of logs. -/
def LogView.ofOutcome : Outcome LogView → LogView
  | .ok view => view
  | .error e => .error e.userMessage

namespace LogPoller

theorem complete_latest {p : LogPoller} {ticket : Ticket}
    (latest : ticket.generation = p.panel.issued) (r : Outcome LogView) :
    p.complete ticket r = (.ok .applied, { p with panel := { p.panel with
      loading := false, data := some (.ofOutcome r), error := none } }) := by
  cases r with
  | ok | error => simp [complete, Panel.complete, latest, LogView.ofOutcome]

theorem complete_stale {p : LogPoller} {ticket : Ticket} (old : ticket.generation ≠ p.panel.issued)
    (r : Outcome LogView) : p.complete ticket r = (.ok .stale, p) := by
  cases r with
  | ok | error => simp [complete, Panel.complete, old]

theorem complete_ok (p : LogPoller) (ticket : Ticket) (r : Outcome LogView) :
    ∃ outcome, (p.complete ticket r).1 = .ok outcome := by
  by_cases latest : ticket.generation = p.panel.issued
  · exact ⟨_, congrArg Prod.fst (complete_latest latest r)⟩
  · exact ⟨_, congrArg Prod.fst (complete_stale latest r)⟩

end LogPoller

inductive AwaitsLogs (ticket : Ticket) : Action Console (Outcome LoadOutcome) → Prop where
  | job (id : String) (space pod : Option String) (tail : Nat) :
      AwaitsLogs ticket (.call (.jobLogs id space pod tail) fun r =>
        onLogs (.update fun p => p.complete ticket r))
  | services (tail : Nat) :
      AwaitsLogs ticket (.call (.serviceLogs tail) fun r =>
        onLogs (.update fun p => p.complete ticket r))

inductive LogLoad (s : Console) :
    List (Issue Console) → Action Console (Outcome LoadOutcome) → Console → Prop where
  | skipped : s.logs.target = none → LogLoad s [] (.done (.ok .skipped)) s
  | begins {target : LogTarget} {c : Call} {x} :
      s.logs.target = some target → c.logs? = some (target, s.logs.tail) →
      AwaitsLogs s.logs.begin.1 x →
      LogLoad s [⟨c, { s with logs := s.logs.begin.2 }⟩] x { s with logs := s.logs.begin.2 }

section
variable {s t : Console} {issues : List (Issue Console)}
  {x y : Action Console (Outcome LoadOutcome)}

theorem advances_refreshLogs (h : refreshLogs.Advances s issues x t) : LogLoad s issues x t := by
  simp only [refreshLogs, bind_eq, advances_read_bind] at h
  cases found : s.logs.target with
  | none =>
    rw [found] at h
    obtain ⟨rfl, rfl, rfl⟩ := (advances_done _).mp h
    exact .skipped found
  | some target =>
    simp only [found, onLogs, advances_update_bind] at h
    cases target with
    | job id space pod =>
      simp only [fetchLogs, request, Action.bind, advances_call] at h
      obtain ⟨rfl, rfl, rfl⟩ := h
      exact .begins found rfl (.job id space pod _)
    | services =>
      simp only [fetchLogs, request, Action.bind, advances_call] at h
      obtain ⟨rfl, rfl, rfl⟩ := h
      exact .begins found rfl (.services _)

theorem advances_modifyLogs {f : LogPoller → LogPoller} {x : Action Console Unit}
    (h : (onLogs (.modify f)).Advances s issues x t) :
    issues = [] ∧ x = .done () ∧ t = { s with logs := f s.logs } := by
  simpa only [onLogs, Action.modify, onPart, advances_get, advances_set, advances_done] using h

theorem AwaitsLogs.takes {ticket : Ticket} (awaits : AwaitsLogs ticket x) {reply : Reply}
    (takes : x.Takes s reply issues y t) :
    ∃ r, reply.logs? = some r ∧ issues = [] ∧ y = .done (s.logs.complete ticket r).1 ∧
      t = { s with logs := (s.logs.complete ticket r).2 } := by
  cases awaits with
  | job id space pod tail =>
    simp only [takes_call, onLogs, update, onPart, advances_get, advances_set,
      advances_done] at takes
    obtain ⟨r, rfl, rfl, rfl, rfl⟩ := takes
    exact ⟨r, rfl, rfl, rfl, rfl⟩
  | services tail =>
    simp only [takes_call, onLogs, update, onPart, advances_get, advances_set,
      advances_done] at takes
    obtain ⟨r, rfl, rfl, rfl, rfl⟩ := takes
    exact ⟨r, rfl, rfl, rfl, rfl⟩

end

def Activity.polls : Activity → Bool
  | .views .refreshLogs | .views (.openLogs _ _) | .views (.setTail _) | .views .closeLogs => true
  | _ => false

theorem logs?_of_about {k : Call → Prop}
    (job : ∀ id space pod tail, ¬ k (.jobLogs id space pod tail))
    (services : ∀ tail, ¬ k (.serviceLogs tail)) {c : Call} (about : k c) : c.logs? = none := by
  cases c with
  | jobLogs id space pod tail => exact absurd about (job id space pod tail)
  | serviceLogs tail => exact absurd about (services tail)
  | _ => rfl

theorem confined_logs (a : Activity) (other : a.polls = false) :
    a.action.Confined (·.logs) fun c _ => c.logs? = none := by
  have may {k : Call → Prop} (job : ∀ id space pod tail, ¬ k (.jobLogs id space pod tail))
      (services : ∀ tail, ¬ k (.serviceLogs tail)) (c : Call) (_ : Console) (about : k c) :
      c.logs? = none :=
    logs?_of_about job services about
  have quiet (c : Call) (_ : Console) (about : c.AboutUse) : c.logs? = none :=
    may (fun _ _ _ _ => id) (fun _ => id) c default about
  cases a with
  | session a =>
    exact SessionActivity.confined (may (fun _ _ _ _ => id) fun _ => id) (fun _ _ => rfl)
      (fun _ _ => rfl) (fun _ _ => rfl) a fun _ _ _ => rfl
  | jobs a =>
    exact JobActivity.confined (fun _ _ => rfl) (fun _ _ _ => rfl)
      (may (fun _ _ _ _ => id) fun _ => id) a fun _ _ _ _ => rfl
  | wizard a =>
    exact WizardActivity.confined (fun _ _ _ => rfl) (may (fun _ _ _ _ => id) fun _ => id) a
      fun what _ => submission_confined (fun _ _ => rfl) (fun _ _ => rfl) (fun _ _ _ => rfl)
        (fun _ _ _ => rfl) (may (fun _ _ _ _ => id) fun _ => id) what
  | nodes a =>
    exact NodeActivity.confined (fun _ _ => rfl) (may (fun _ _ _ _ => id) fun _ => id) a
  | views a =>
    cases a with
    | refreshLogs | openLogs | setTail | closeLogs => cases other
    | loadServices => exact loadServices_confined (fun _ _ => rfl) fun _ _ => rfl
    | loadOverview => exact loadOverview_confined (fun _ _ => rfl) quiet fun _ _ => rfl
    | loadMonitorDevices => exact loadMonitorDevices_confined (fun _ _ => rfl) quiet
    | loadUsage now => exact loadUsage_confined (fun _ _ => rfl) quiet now
    | loadSeries now => exact loadSeries_confined (fun _ _ => rfl) quiet now
    | refreshMonitor now => exact refreshMonitor_confined (fun _ _ => rfl) quiet now
    | applyFilters filters now =>
      exact .bind (confined_onMonitor (fun _ _ => rfl) (.modify fun _ => rfl)) fun _ =>
        refreshMonitor_confined (fun _ _ => rfl) quiet now

/-- A fetch of logs, by the number of its activity, and what it has been answered with. -/
structure Fetch where
  strand : Nat
  target : LogTarget
  tail : Nat
  answer : Option (Outcome LogView) := none

namespace Moment

def fetch? (m : Moment) : Option (LogTarget × Nat) :=
  m.issues.findSome? fun i => i.call.logs?

/-- The logs that the activity is given in the moment, or why it gets none. -/
def logs? (m : Moment) : Option (Outcome LogView) :=
  m.reply.bind Reply.logs?

def closes (m : Moment) : Bool :=
  match m.activity with
  | .views .closeLogs => true
  | _ => false

/-- What becomes of the fetch that counts. -/
def refetch (m : Moment) (fetch : Option Fetch) : Option Fetch :=
  if m.closes then none
  else match m.fetch? with
    | some (target, tail) => some { strand := m.strand, target, tail }
    | none => fetch.map fun f =>
      if f.strand = m.strand then { f with answer := f.answer.or m.logs? } else f

end Moment

/-- The fetch whose answer is to be shown. -/
def counted : List Moment → Option Fetch
  | [] => none
  | m :: h => m.refetch (counted h)

section
variable {h : List Moment} {m : Moment} {f : Fetch}

theorem counted_cons_of_closes (closes : m.closes = true) : counted (m :: h) = none :=
  if_pos closes

theorem counted_cons_of_fetch {target : LogTarget} {tail : Nat} (stays : m.closes = false)
    (fetch : m.fetch? = some (target, tail)) :
    counted (m :: h) = some { strand := m.strand, target, tail } := by
  rw [counted, Moment.refetch, stays, fetch]
  rfl

theorem counted_cons_of_quiet (stays : m.closes = false) (none : m.fetch? = none) :
    counted (m :: h) = (counted h).map fun f =>
      if f.strand = m.strand then { f with answer := f.answer.or m.logs? } else f := by
  rw [counted, Moment.refetch, stays, none]
  rfl

/-- What does not answer the fetch that counts leaves it as it is. -/
theorem counted_cons_of_silent (stays : m.closes = false) (none : m.fetch? = none)
    (silent : ∀ f, counted h = some f → f.strand = m.strand → m.logs? = .none) :
    counted (m :: h) = counted h := by
  rw [counted_cons_of_quiet stays none]
  cases found : counted h with
  | none => rfl
  | some f =>
    rw [Option.map_some]
    split
    next own => rw [silent f found own, Option.or_none]
    next => rfl

/-- The fetch that counts began in a moment; since then no other has begun, and the logs have not
been closed. -/
structure Counted (later : List Moment) (m : Moment) (f : Fetch) : Prop where
  strand : m.strand = f.strand
  fetch : m.fetch? = some (f.target, f.tail)
  latest : ∀ m' ∈ later, m'.closes = false ∧ m'.fetch? = none
  answered : ∀ r, f.answer = some r → ∃ reply ∈ repliesTo later m.strand, reply.logs? = some r
  unanswered : f.answer = none → ∀ reply ∈ repliesTo later m.strand, reply.logs? = none

theorem exists_counted (found : counted h = some f) :
    ∃ later m earlier, h = later ++ m :: earlier ∧ Counted later m f := by
  induction h generalizing f with
  | nil => cases found
  | cons m h ih =>
    cases closes : m.closes with
    | true =>
      rw [counted_cons_of_closes closes] at found
      cases found
    | false =>
      cases fetch : m.fetch? with
      | some asked =>
        obtain ⟨target, tail⟩ := asked
        rw [counted_cons_of_fetch closes fetch] at found
        cases found
        exact ⟨[], m, h, rfl, rfl, fetch, by simp, nofun, by simp [repliesTo]⟩
      | none =>
        rw [counted_cons_of_quiet closes fetch, Option.map_eq_some_iff] at found
        obtain ⟨g, before, rfl⟩ := found
        obtain ⟨later, own, earlier, rfl, counts⟩ := ih before
        have told : repliesTo later own.strand ⊆ repliesTo (m :: later) own.strand :=
          repliesTo_mono (List.subset_cons_self m later) _
        have latest := List.forall_mem_cons.mpr ⟨⟨closes, fetch⟩, counts.latest⟩
        refine ⟨m :: later, own, earlier, rfl, ?_⟩
        split
        next here =>
          have own : own.strand = m.strand := counts.strand.trans here
          refine ⟨counts.strand, counts.fetch, latest, fun r answered => ?_, fun none => ?_⟩
          · rcases Option.or_eq_some_iff.mp answered with before | ⟨-, now⟩
            · obtain ⟨reply, mem, is⟩ := counts.answered r before
              exact ⟨reply, told mem, is⟩
            · obtain ⟨reply, given, is⟩ := Option.bind_eq_some_iff.mp now
              refine ⟨reply, ?_, is⟩
              rw [own, repliesTo_cons, given]
              exact List.mem_cons_self
          · obtain ⟨before, now⟩ := Option.or_eq_none_iff.mp none
            rw [own, repliesTo_cons, ← own]
            intro reply mem
            rcases List.mem_append.mp mem with here | mem
            · exact Option.bind_eq_none_iff.mp now reply (Option.mem_toList.mp here)
            · exact counts.unanswered before reply mem
        next other =>
          have away : own.strand ≠ m.strand := fun same => other (counts.strand.symm.trans same)
          refine ⟨counts.strand, counts.fetch, latest, fun r answered => ?_, fun none => ?_⟩
          · obtain ⟨reply, mem, is⟩ := counts.answered r answered
            exact ⟨reply, told mem, is⟩
          · rw [repliesTo_cons_of_ne away]
            exact counts.unanswered none

end

end PoolConsole
