import PoolConsole.Proofs.Run.LogLoads

/-!
The logs that are shown, in every run of the console.

* `Polled`: what the poller shows, read off the history alone. `FetchStand` ties the ticket of every
  fetch that is still awaited to the fetch that counts.
* `LogTurn`: what a moment can be to the logs, with everything that it does to them.
* `logs_polled`: without a target nothing is shown; with one and nothing under way, the answer to
  the latest fetch is, and a failure of it is no failure of the activity.
-/

namespace PoolConsole

open PoolConsole.Action Console Operation

/-- What is shown has been answered to a fetch that began after the logs were closed last. -/
structure Displayed (later : List Moment) (m : Moment) (view : LogView) : Prop where
  fetch : m.fetch?.isSome = true
  stays : ∀ m' ∈ later, m'.closes = false
  answered : ∃ reply ∈ repliesTo later m.strand, reply.logs?.map LogView.ofOutcome = some view

structure Polled (h : List Moment) (p : LogPoller) : Prop where
  target : p.target = (counted h).map (·.target)
  loading : p.panel.loading = true ↔ ∃ f, counted h = some f ∧ f.answer = none
  blank : counted h = none → p.panel.data = none
  shown : ∀ f r, counted h = some f → f.answer = some r → p.panel.data = some (.ofOutcome r)
  origin : ∀ view, p.panel.data = some view →
    ∃ later m earlier, h = later ++ m :: earlier ∧ Displayed later m view

/-- What the ticket of a fetch that is awaited is worth. -/
structure Due (h : List Moment) (p : LogPoller) (n : Nat) (ticket : Ticket) : Prop where
  le : ticket.generation ≤ p.panel.issued
  latest : ticket.generation = p.panel.issued ↔ ∃ f, counted h = some f ∧ f.strand = n
  unanswered : ∀ f, counted h = some f → f.strand = n → f.answer = none

inductive FetchStand (h : List Moment) (c : Console) (n : Nat) : Strand → Prop where
  | refreshing {x} (ticket : Ticket) : AwaitsLogs ticket x → Due h c.logs n ticket →
      FetchStand h c n ⟨.views .refreshLogs, x⟩
  | opening {x} (target : LogTarget) (tail : Nat) (ticket : Ticket) : AwaitsLogs ticket x →
      Due h c.logs n ticket → FetchStand h c n ⟨.views (.openLogs target tail), x⟩
  | settled (a : Activity) (rest : Action Console a.Result) :
      (a.polls = true → rest.value?.isSome = true) →
      rest.Still (·.logs) (·.logs? = none) c → FetchStand h c n ⟨a, rest⟩

structure LogTracked (h : List Moment) (w : World) : Prop where
  polled : Polled h w.console.logs
  stands : ∀ n strand, w.strands[n]? = some strand → FetchStand h w.console n strand

inductive LogTurn (h : List Moment) : Moment → Prop where
  | refreshes {n before after issues x} : LogLoad before issues x after →
      LogTurn h ⟨n, .views .refreshLogs, none, before, after, issues, x⟩
  | opens {n before after issues x target tail} :
      LogLoad { before with logs := before.logs.aim target tail } issues x after →
      LogTurn h ⟨n, .views (.openLogs target tail), none, before, after, issues, x⟩
  | refreshed {n reply r} {before : Console} (ticket : Ticket) :
      Due h before.logs n ticket → reply.logs? = some r →
      LogTurn h ⟨n, .views .refreshLogs, some reply, before,
        { before with logs := (before.logs.complete ticket r).2 }, [],
        .done (before.logs.complete ticket r).1⟩
  | opened {n reply r target tail} {before : Console} (ticket : Ticket) :
      Due h before.logs n ticket → reply.logs? = some r →
      LogTurn h ⟨n, .views (.openLogs target tail), some reply, before,
        { before with logs := (before.logs.complete ticket r).2 }, [],
        .done (before.logs.complete ticket r).1⟩
  | setsTail {n tail} {before : Console} :
      LogTurn h ⟨n, .views (.setTail tail), none, before,
        { before with logs := { before.logs with tail } }, [], .done ()⟩
  | closes {n} {before : Console} :
      LogTurn h ⟨n, .views .closeLogs, none, before,
        { before with logs := before.logs.close }, [], .done ()⟩
  | other {m} : m.activity.polls = false → m.logs? = none →
      Keeps (·.logs) (·.logs? = none) m.before m.issues m.rest m.after → LogTurn h m

/-! ## One step -/

variable {start : Console} {h later earlier : List Moment} {m : Moment} {v w : World}

/-- The tickets move on exactly when a fetch begins or the logs are closed. -/
def Moment.Ticketed (m : Moment) : Prop :=
  (m.closes = false ∧ m.fetch? = none ∧ m.after.logs.panel.issued = m.before.logs.panel.issued) ∨
  ((m.closes = true ∨ m.fetch?.isSome = true) ∧
    m.after.logs.panel.issued = m.before.logs.panel.issued + 1)

theorem Due.cons {n : Nat} {ticket : Ticket} (due : Due h m.before.logs n ticket)
    (other : n ≠ m.strand) (ticketed : m.Ticketed) : Due (m :: h) m.after.logs n ticket := by
  rcases ticketed with ⟨stays, none, same⟩ | ⟨moves, next⟩
  · have quiet := counted_cons_of_quiet (h := h) stays none
    have counts (f : Fetch) : counted (m :: h) = some f ∧ f.strand = n ↔
        counted h = some f ∧ f.strand = n := by
      rw [quiet]
      cases counted h with
      | none => simp
      | some g =>
        rw [Option.map_some, Option.some.injEq, Option.some.injEq]
        split
        next here =>
          constructor
          · rintro ⟨rfl, own⟩
            exact absurd (own.symm.trans here) other
          · rintro ⟨rfl, own⟩
            exact absurd (own.symm.trans here) other
        next => exact Iff.rfl
    constructor
    · rw [same]
      exact due.le
    · rw [same, due.latest]
      exact exists_congr fun f => (counts f).symm
    · intro f found own
      exact due.unanswered f ((counts f).mp ⟨found, own⟩).1 own
  · have gone (f : Fetch) (found : counted (m :: h) = some f) : f.strand ≠ n := by
      cases closes : m.closes with
      | true =>
        rw [counted_cons_of_closes closes] at found
        cases found
      | false =>
        rw [closes] at moves
        obtain ⟨asked, fetch⟩ := Option.isSome_iff_exists.mp (moves.resolve_left nofun)
        rw [counted_cons_of_fetch closes fetch] at found
        cases found
        exact Ne.symm other
    have le := due.le
    constructor
    · omega
    · rw [next]
      refine iff_of_false (by omega) ?_
      rintro ⟨f, found, own⟩
      exact gone f found own
    · intro f found own
      exact absurd own (gone f found)

theorem FetchStand.cons {n : Nat} {strand : Strand} (stands : FetchStand h m.before n strand)
    (other : n ≠ m.strand) (ticketed : m.Ticketed) : FetchStand (m :: h) m.after n strand := by
  cases stands with
  | refreshing ticket awaits due => exact .refreshing ticket awaits (due.cons other ticketed)
  | opening target tail ticket awaits due =>
    exact .opening target tail ticket awaits (due.cons other ticketed)
  | settled a rest ended still => exact .settled a rest ended still.mono

theorem LogTracked.cons (tracked : LogTracked h v) (step : Step v m w) (ticketed : m.Ticketed)
    (polled : Polled (m :: h) m.after.logs)
    (stands : FetchStand (m :: h) m.after m.strand ⟨m.activity, m.rest⟩) :
    LogTracked (m :: h) w := by
  rw [step.after_eq] at polled
  refine ⟨polled, fun n strand there => ?_⟩
  rw [← step.after_eq]
  rcases step.strand_cases there with ⟨rfl, rfl⟩ | ⟨other, there⟩
  · exact stands
  · have before := tracked.stands n strand there
    rw [← step.before_eq] at before
    exact before.cons other ticketed

/-- What is shown stays displayed as long as the logs are not closed. -/
theorem displayed_cons {view : LogView} (stays : m.closes = false)
    (displayed : ∃ later own earlier, h = later ++ own :: earlier ∧ Displayed later own view) :
    ∃ later own earlier, m :: h = later ++ own :: earlier ∧ Displayed later own view := by
  obtain ⟨later, own, earlier, rfl, shows⟩ := displayed
  obtain ⟨reply, mem, is⟩ := shows.answered
  refine ⟨m :: later, own, earlier, rfl, shows.fetch, ?_, reply, ?_, is⟩
  · exact List.forall_mem_cons.mpr ⟨stays, shows.stays⟩
  · exact repliesTo_mono (List.subset_cons_self m later) _ mem

/-- While no fetch counts, nothing is shown. -/
theorem Polled.of_uncounted {p : LogPoller} (none : counted h = none) (target : p.target = .none)
    (loaded : p.panel.loading = false) (blank : p.panel.data = .none) : Polled h p := by
  constructor
  · rw [none, target]
    rfl
  · rw [none, loaded]
    exact iff_of_false nofun (by rintro ⟨_, ⟨⟩, _⟩)
  · exact fun _ => blank
  · intro f r found
    rw [none] at found
    cases found
  · intro view shown
    rw [blank] at shown
    cases shown

/-- A moment that is not about the fetch that counts leaves what is shown as it is. -/
theorem Polled.cons {p q : LogPoller} (polled : Polled h p) (target : q.target = p.target)
    (panel : q.panel = p.panel) (stays : m.closes = false) (none : m.fetch? = none)
    (silent : ∀ f, counted h = some f → f.strand = m.strand → m.logs? = .none) :
    Polled (m :: h) q := by
  have same := counted_cons_of_silent stays none silent
  constructor
  · rw [same, target]
    exact polled.target
  · rw [same, panel]
    exact polled.loading
  · rw [same, panel]
    exact polled.blank
  · rw [same, panel]
    exact polled.shown
  · intro view shown
    rw [panel] at shown
    exact displayed_cons stays (polled.origin view shown)

/-- A fetch begins. -/
theorem Polled.fetch {p q : LogPoller} (polled : Polled h p) {target : LogTarget} {tail : Nat}
    (aimed : q.target = some target) (panel : q.panel = p.panel.begin.2) (stays : m.closes = false)
    (fetch : m.fetch? = some (target, tail)) : Polled (m :: h) q := by
  have counts := counted_cons_of_fetch (h := h) stays fetch
  constructor
  · rw [counts, aimed]
    rfl
  · rw [counts, panel]
    exact iff_of_true rfl ⟨_, rfl, rfl⟩
  · rw [counts]
    nofun
  · rw [counts]
    rintro _ r ⟨⟩ ⟨⟩
  · intro view shown
    rw [panel] at shown
    exact displayed_cons stays (polled.origin view shown)

/-- The fetch that counts is answered. -/
theorem Polled.answer {p q : LogPoller} (polled : Polled h p) {f : Fetch} {r : Outcome LogView}
    (counts : counted h = some f) (own : f.strand = m.strand) (unanswered : f.answer = none)
    (answer : m.logs? = some r) (stays : m.closes = false) (none : m.fetch? = .none)
    (target : q.target = p.target) (loaded : q.panel.loading = false)
    (shown : q.panel.data = some (.ofOutcome r)) : Polled (m :: h) q := by
  have now : counted (m :: h) = some { f with answer := some r } := by
    rw [counted_cons_of_quiet stays none, counts, Option.map_some, if_pos own, unanswered, answer]
    rfl
  constructor
  · rw [now, target, polled.target, counts]
    rfl
  · rw [now, loaded]
    refine iff_of_false nofun ?_
    rintro ⟨_, ⟨⟩, ⟨⟩⟩
  · rw [now]
    nofun
  · rw [now]
    rintro _ _ ⟨⟩ ⟨⟩
    exact shown
  · intro view displayed
    rw [shown, Option.some.injEq] at displayed
    subst displayed
    obtain ⟨later, begun, earlier, split, since⟩ := exists_counted now
    obtain ⟨reply, mem, is⟩ := since.answered r rfl
    refine ⟨later, begun, earlier, split, ?_, fun m' mem => (since.latest m' mem).1, reply, mem, ?_⟩
    · rw [since.fetch]
      rfl
    · rw [is]
      rfl

theorem fetch?_of_quiet (quiet : ∀ i ∈ m.issues, i.call.logs? = none) : m.fetch? = none :=
  List.findSome?_eq_none_iff.mpr quiet

theorem closes_of_quiet (other : m.activity.polls = false) : m.closes = false := by
  unfold Moment.closes
  split
  next is =>
    rw [is] at other
    cases other
  next => rfl

theorem LogTracked.cons_quiet (tracked : LogTracked h v) (step : Step v m w)
    (target : m.after.logs.target = m.before.logs.target)
    (panel : m.after.logs.panel = m.before.logs.panel) (stays : m.closes = false)
    (none : m.fetch? = none)
    (silent : ∀ f, counted h = some f → f.strand = m.strand → m.logs? = .none)
    (stands : FetchStand (m :: h) m.after m.strand ⟨m.activity, m.rest⟩) :
    LogTracked (m :: h) w := by
  have polled := tracked.polled
  rw [← step.before_eq] at polled
  refine tracked.cons step (.inl ⟨stays, none, ?_⟩)
    (polled.cons target panel stays none silent) stands
  rw [panel]

/-- An activity begins a fetch, for a target that it may have set before. -/
theorem LogTracked.cons_fetch (tracked : LogTracked h v) (step : Step v m w) {p : LogPoller}
    {target : LogTarget} {tail : Nat} {c : Call} (aimed : p.target = some target)
    (panel : p.panel = m.before.logs.panel) (asks : c.logs? = some (target, tail))
    (issued : m.issues = [⟨c, m.after⟩]) (after : m.after.logs = p.begin.2)
    (stays : m.closes = false)
    (stands : Due (m :: h) m.after.logs m.strand p.begin.1 →
      FetchStand (m :: h) m.after m.strand ⟨m.activity, m.rest⟩) :
    LogTracked (m :: h) w := by
  have polled := tracked.polled
  rw [← step.before_eq] at polled
  have fetch : m.fetch? = some (target, tail) := by
    rw [Moment.fetch?, issued, List.findSome?_cons, asks]
  have begun : m.after.logs.panel = m.before.logs.panel.begin.2 := by
    rw [after, ← panel]
    rfl
  have counts := counted_cons_of_fetch (h := h) stays fetch
  refine tracked.cons step (.inr ⟨.inr (by rw [fetch]; rfl), by rw [begun]; rfl⟩)
    (polled.fetch (by rw [after]; exact aimed) begun stays fetch) (stands ⟨?_, ?_, ?_⟩)
  · rw [after]
    exact Nat.le_refl _
  · rw [after, counts]
    exact iff_of_true rfl ⟨_, rfl, rfl⟩
  · rw [counts]
    rintro _ ⟨⟩ _
    rfl

/-- The answer to a fetch is taken over if that is the one that counts. -/
theorem LogTracked.cons_answer (tracked : LogTracked h v) (step : Step v m w) {ticket : Ticket}
    {r : Outcome LogView} (due : Due h m.before.logs m.strand ticket) (answer : m.logs? = some r)
    (after : m.after.logs = (m.before.logs.complete ticket r).2) (quiet : m.issues = [])
    (stays : m.closes = false)
    (stands : FetchStand (m :: h) m.after m.strand ⟨m.activity, m.rest⟩) :
    LogTracked (m :: h) w := by
  have none : m.fetch? = none := by
    rw [Moment.fetch?, quiet]
    rfl
  by_cases latest : ticket.generation = m.before.logs.panel.issued
  · rw [LogPoller.complete_latest latest] at after
    obtain ⟨f, counts, own⟩ := due.latest.mp latest
    have polled := tracked.polled
    rw [← step.before_eq] at polled
    refine tracked.cons step (.inl ⟨stays, none, ?_⟩)
      (polled.answer counts own (due.unanswered f counts own) answer stays none ?_ ?_ ?_) stands
    · rw [after]
    · rw [after]
    · rw [after]
    · rw [after]
  · rw [LogPoller.complete_stale latest] at after
    refine tracked.cons_quiet step ?_ ?_ stays none (fun f counts own => ?_) stands
    · rw [after]
    · rw [after]
    · exact absurd (due.latest.mpr ⟨f, counts, own⟩) latest

theorem LogTracked.turn (tracked : LogTracked h v) (step : Step v m w) : LogTurn h m := by
  cases step with
  | begin a advances =>
    cases polls : a.polls with
    | false => exact .other polls rfl ((confined_logs a polls).keeps advances)
    | true =>
      cases a with
      | views a =>
        cases a with
        | refreshLogs => exact .refreshes (advances_refreshLogs advances)
        | openLogs target tail =>
          simp only [Activity.action, ViewActivity.action, openLogs, bind_eq, onLogs,
            advances_modify_bind] at advances
          exact .opens (advances_refreshLogs advances)
        | setTail tail =>
          obtain ⟨rfl, rfl, rfl⟩ := advances_modifyLogs (f := fun p => { p with tail }) advances
          exact .setsTail
        | closeLogs =>
          obtain ⟨rfl, rfl, rfl⟩ := advances_modifyLogs (f := LogPoller.close) advances
          exact .closes
        | _ => cases polls
      | _ => cases polls
  | answer n strand reply there takes =>
    cases tracked.stands n strand there with
    | refreshing ticket awaits due =>
      obtain ⟨r, answer, rfl, rfl, rfl⟩ := awaits.takes takes
      exact .refreshed ticket due answer
    | opening target tail ticket awaits due =>
      obtain ⟨r, answer, rfl, rfl, rfl⟩ := awaits.takes takes
      exact .opened ticket due answer
    | settled a x ended still =>
      refine .other ?_ (Reply.logs?_of_quiet (still.answered takes)) (still.keeps takes)
      cases polls : a.polls with
      | false => rfl
      | true =>
        have finished := ended polls
        rw [takes.unfinished] at finished
        cases finished

theorem LogTracked.next (tracked : LogTracked h v) (step : Step v m w) :
    LogTracked (m :: h) w := by
  cases tracked.turn step with
  | refreshes load =>
    cases load with
    | skipped =>
      exact tracked.cons_quiet step rfl rfl rfl rfl (fun _ _ _ => rfl)
        (.settled _ _ (fun _ => rfl) (.done _))
    | begins aimed asks awaits =>
      exact tracked.cons_fetch step aimed rfl asks rfl rfl rfl (.refreshing _ awaits)
  | opens load =>
    cases load with
    | skipped none => cases none
    | begins aimed asks awaits =>
      exact tracked.cons_fetch step aimed rfl asks rfl rfl rfl (.opening _ _ _ awaits)
  | refreshed ticket due answer =>
    exact tracked.cons_answer step due answer rfl rfl rfl (.settled _ _ (fun _ => rfl) (.done _))
  | opened ticket due answer =>
    exact tracked.cons_answer step due answer rfl rfl rfl (.settled _ _ (fun _ => rfl) (.done _))
  | setsTail =>
    exact tracked.cons_quiet step rfl rfl rfl rfl (fun _ _ _ => rfl)
      (.settled _ _ (fun _ => rfl) (.done _))
  | closes =>
    exact tracked.cons step (.inr ⟨.inl rfl, rfl⟩) (.of_uncounted rfl rfl rfl rfl)
      (.settled _ _ (fun _ => rfl) (.done _))
  | other polls silent keeps =>
    refine tracked.cons_quiet step (congrArg LogPoller.target keeps.same)
      (congrArg LogPoller.panel keeps.same) (closes_of_quiet polls) (fetch?_of_quiet keeps.asks)
      (fun _ _ _ => silent) (.settled _ _ (fun is => ?_) keeps.still)
    rw [polls] at is
    cases is

theorem Run.logTracked (run : Run start h w) (target : start.logs.target = none)
    (blank : start.logs.panel = {}) : LogTracked h w := by
  induction run with
  | start =>
    refine ⟨.of_uncounted rfl target ?_ ?_, by simp⟩
    · rw [blank]
    · rw [blank]
  | next run step tracked => exact tracked.next step

/-! ## What holds in every run -/

/-- In a moment the logs of the target are asked for, as many lines as were set then. No logs have
been asked for since, and what is shown has been answered. -/
structure LatestFetch (later : List Moment) (m : Moment) (target : LogTarget) (view : LogView) :
    Prop where
  aimed : m.after.logs.target = some target
  fetch : m.fetch? = some (target, m.after.logs.tail)
  latest : ∀ m' ∈ later, m'.closes = false ∧ m'.fetch? = none
  answered : ∃ reply ∈ repliesTo later m.strand, reply.logs?.map LogView.ofOutcome = some view

structure LogsPolled (h : List Moment) (w : World) : Prop where
  idle : w.console.logs.target = none →
    w.console.logs.view = .idle ∧ w.console.logs.panel.loading = false
  /-- What is shown has been asked for since the logs were closed last. -/
  sinceClosed : ∀ view, w.console.logs.panel.data = some view →
    ∃ later m earlier, h = later ++ m :: earlier ∧ Displayed later m view
  latest : ∀ target, w.console.logs.target = some target → w.console.logs.panel.loading = false →
    ∃ later m earlier, h = later ++ m :: earlier ∧
      LatestFetch later m target w.console.logs.view
  /-- Something is loading only while the latest fetch has not been answered. -/
  awaited : w.console.logs.panel.loading = true →
    ∃ later m earlier, h = later ++ m :: earlier ∧ m.fetch?.isSome = true ∧
      (∀ m' ∈ later, m'.closes = false ∧ m'.fetch? = none) ∧
      ∀ reply ∈ repliesTo later m.strand, reply.logs? = none
  /-- An activity that loads logs ends well, as soon as it is answered. -/
  refreshes : ∀ m ∈ h, m.activity = .views .refreshLogs → m.reply.isSome = true ∨ m.ends = true →
    ∃ outcome, m.Returns (.views .refreshLogs) (.ok outcome)
  opens : ∀ m ∈ h, ∀ target tail, m.activity = .views (.openLogs target tail) →
    m.reply.isSome = true ∨ m.ends = true →
    ∃ outcome, m.Returns (.views (.openLogs target tail)) (.ok outcome)
  skips : ∀ m ∈ h, m.activity = .views .refreshLogs → m.reply = none →
    m.before.logs.target = none → m.issues = [] ∧ m.after = m.before ∧
      m.Returns (.views .refreshLogs) (.ok .skipped)

theorem Run.log_turn (run : Run start (later ++ m :: earlier) w) (target : start.logs.target = none)
    (blank : start.logs.panel = {}) : LogTurn earlier m := by
  obtain ⟨v, v', prior, step⟩ := run.split
  exact (prior.logTracked target blank).turn step

theorem LogLoad.aimed {s t : Console} {issues : List (Issue Console)}
    {x : Action Console (Outcome LoadOutcome)} (load : LogLoad s issues x t) {target : LogTarget}
    {tail : Nat} (fetch : issues.findSome? (fun i => i.call.logs?) = some (target, tail)) :
    t.logs.target = some target ∧ t.logs.tail = tail := by
  cases load with
  | skipped => cases fetch
  | begins aimed asks =>
    rw [List.findSome?_cons, asks] at fetch
    cases fetch
    exact ⟨aimed, rfl⟩

/-- Logs are asked for of the target that is set, as many lines as are set. -/
theorem LogTurn.aimed (turn : LogTurn h m) {target : LogTarget} {tail : Nat}
    (fetch : m.fetch? = some (target, tail)) :
    m.after.logs.target = some target ∧ m.after.logs.tail = tail := by
  cases turn with
  | refreshes load => exact load.aimed fetch
  | opens load => exact load.aimed fetch
  | other _ _ keeps =>
    rw [fetch?_of_quiet keeps.asks] at fetch
    cases fetch
  | refreshed | opened | setsTail | closes => cases fetch

/-- A load of logs that has come to its end as it began has had no target. -/
theorem LogLoad.ends {s t : Console} {issues : List (Issue Console)}
    {x : Action Console (Outcome LoadOutcome)} (load : LogLoad s issues x t)
    (ends : x.value?.isSome = true) : s.logs.target = none ∧ x = .done (.ok .skipped) := by
  cases load with
  | skipped none => exact ⟨none, rfl⟩
  | begins _ _ awaits =>
    cases awaits with
    | job | services => cases ends

theorem LogTurn.refresh_ends (turn : LogTurn h m) (is : m.activity = .views .refreshLogs)
    (answered : m.reply.isSome = true ∨ m.ends = true) :
    ∃ outcome, m.Returns (.views .refreshLogs) (.ok outcome) := by
  cases turn with
  | refreshes load =>
    obtain ⟨-, rfl⟩ := load.ends (answered.resolve_left nofun)
    exact ⟨.skipped, rfl⟩
  | @refreshed n reply r before ticket =>
    obtain ⟨outcome, ok⟩ := before.logs.complete_ok ticket r
    exact ⟨outcome, congrArg (fun o => (⟨.views .refreshLogs, .done o⟩ : Strand)) ok⟩
  | other polls =>
    rw [is] at polls
    cases polls
  | _ => cases is

theorem LogTurn.open_ends (turn : LogTurn h m) {target : LogTarget} {tail : Nat}
    (is : m.activity = .views (.openLogs target tail))
    (answered : m.reply.isSome = true ∨ m.ends = true) :
    ∃ outcome, m.Returns (.views (.openLogs target tail)) (.ok outcome) := by
  cases turn with
  | opens load =>
    obtain ⟨none, -⟩ := load.ends (answered.resolve_left nofun)
    cases none
  | @opened n reply r _ _ before ticket =>
    cases is
    obtain ⟨outcome, ok⟩ := before.logs.complete_ok ticket r
    exact ⟨outcome, congrArg (fun o => (⟨.views (.openLogs _ _), .done o⟩ : Strand)) ok⟩
  | other polls =>
    rw [is] at polls
    cases polls
  | _ => cases is

theorem LogTurn.skips (turn : LogTurn h m) (is : m.activity = .views .refreshLogs)
    (begins : m.reply = none) (none : m.before.logs.target = .none) :
    m.issues = [] ∧ m.after = m.before ∧ m.Returns (.views .refreshLogs) (.ok .skipped) := by
  cases turn with
  | refreshes load =>
    cases load with
    | skipped => exact ⟨rfl, rfl, rfl⟩
    | begins aimed =>
      rw [none] at aimed
      cases aimed
  | refreshed => cases begins
  | other polls =>
    rw [is] at polls
    cases polls
  | _ => cases is

theorem logs_polled (run : Run start h w) (target : start.logs.target = none)
    (blank : start.logs.panel = {}) : LogsPolled h w := by
  have polled := (run.logTracked target blank).polled
  have turn {m : Moment} (mem : m ∈ h) : ∃ earlier, LogTurn earlier m := by
    obtain ⟨later, earlier, rfl⟩ := List.append_of_mem mem
    exact ⟨earlier, run.log_turn target blank⟩
  constructor
  case idle =>
    intro none
    rw [polled.target, Option.map_eq_none_iff] at none
    constructor
    · rw [LogPoller.view, polled.blank none]
      rfl
    · refine Bool.eq_false_iff.mpr fun loading => ?_
      obtain ⟨f, found, -⟩ := polled.loading.mp loading
      rw [none] at found
      cases found
  case sinceClosed => exact polled.origin
  case latest =>
    intro aim aimed loaded
    rw [polled.target, Option.map_eq_some_iff] at aimed
    obtain ⟨f, found, rfl⟩ := aimed
    obtain ⟨later, m, earlier, rfl, counts⟩ := exists_counted found
    cases answer : f.answer with
    | none =>
      rw [polled.loading.mpr ⟨f, found, answer⟩] at loaded
      cases loaded
    | some r =>
      obtain ⟨set, tail⟩ := (run.log_turn target blank).aimed counts.fetch
      obtain ⟨reply, mem, is⟩ := counts.answered r answer
      refine ⟨later, m, earlier, rfl, set, ?_, counts.latest, reply, mem, ?_⟩
      · rw [tail]
        exact counts.fetch
      · rw [is, LogPoller.view, polled.shown f r found answer]
        rfl
  case awaited =>
    intro loading
    obtain ⟨f, found, unanswered⟩ := polled.loading.mp loading
    obtain ⟨later, m, earlier, rfl, counts⟩ := exists_counted found
    refine ⟨later, m, earlier, rfl, ?_, counts.latest, counts.unanswered unanswered⟩
    rw [counts.fetch]
    rfl
  case refreshes =>
    intro m mem is answered
    obtain ⟨earlier, turn⟩ := turn mem
    exact turn.refresh_ends is answered
  case opens =>
    intro m mem aim tail is answered
    obtain ⟨earlier, turn⟩ := turn mem
    exact turn.open_ends is answered
  case skips =>
    intro m mem is begins none
    obtain ⟨earlier, turn⟩ := turn mem
    exact turn.skips is begins none

/-- The logs are closed and opened again; then the fetch from before is answered, and the new one
fails. -/
theorem logs_after_reopening :
    ∃ h w, Run (.fresh {} {}) h w ∧ LogsPolled h w ∧
      w.console.logs.target = some .services ∧ w.console.logs.view = .error "timeout" := by
  have opened := Run.next (@Run.start (.fresh {} {}))
    (.begin (.views (.openLogs (.job "a" none none) 10))
      (.get (.get (.set (.get (.get (.get (.set (.call _ _ _)))))))))
  have closed := opened.next (.begin (.views .closeLogs) (.get (.get (.set (.done _ _)))))
  have reopened := closed.next (.begin (.views (.openLogs .services 10))
    (.get (.get (.set (.get (.get (.get (.set (.call _ _ _)))))))))
  have late := reopened.next (.answer 0 _ ⟨.jobLogs _ _ _ _, .ok .empty⟩ rfl
    (.call _ (.get (.get (.set (.done _ _))))))
  have failed := late.next (.answer 2 _ ⟨.serviceLogs _, .error (.backend "timeout")⟩ rfl
    (.call _ (.get (.get (.set (.done _ _))))))
  exact ⟨_, _, failed, logs_polled failed rfl rfl, rfl, rfl⟩

end PoolConsole
