import PoolConsole.Proofs.JobCoherence
import PoolConsole.Proofs.Run.Past
import PoolConsole.Proofs.Run.Source

/-!
The loads of a panel in a run.

* `Source.Standing`: where an activity stands with its load; it ties the ghost stage to the history,
  the ticket to the counter, and the result to what is shown.
* `Source.Plan`: every activity moves the panel by one load at most. `Source.tracked` carries the
  standing of all activities through a run, and `Source.Plan.returns` reads off what one ends with.
* `Source.Tracked.latest`: what is shown is the result of the load that began last;
  `Source.Tracked.shown`: so data without an error is its answer; `Source.Tracked.current`: nothing
  that makes it out of date has been accepted since.
-/

namespace PoolConsole

theorem Panel.complete_latest {α : Type} {p : Panel α} {ticket : Ticket}
    (latest : ticket.generation = p.issued) (result : Outcome α) :
    (p.complete ticket result).1 = result.map fun _ => .applied := by
  unfold complete
  rw [if_neg (not_not_intro latest)]
  cases result with
  | ok | error => rfl

theorem Panel.complete_stale {α : Type} {p : Panel α} {ticket : Ticket}
    (old : ticket.generation ≠ p.issued) (result : Outcome α) :
    p.complete ticket result = (.ok .stale, p) :=
  if_pos old

theorem Panel.data_complete_error {α : Type} (p : Panel α) (ticket : Ticket) (e : PoolError) :
    (p.complete ticket (.error e)).2.data = p.data := by
  unfold complete
  split
  · rfl
  · rfl

/-- Data is taken over from the result only. -/
theorem Panel.data_of_complete {α : Type} {p : Panel α} {ticket : Ticket} {result : Outcome α}
    {data : α} (shown : (p.complete ticket result).2.data = some data) :
    p.data = some data ∨ result = .ok data := by
  by_cases latest : ticket.generation = p.issued
  · cases result with
    | ok loaded =>
      have taken := (Panel.shows_complete latest (.ok loaded)).2.1
      rw [shown, Option.some.injEq] at taken
      exact .inr (congrArg Except.ok taken.symm)
    | error e =>
      rw [Panel.data_complete_error] at shown
      exact .inl shown
  · rw [Panel.complete_of_old latest] at shown
    exact .inl shown

namespace Source

variable {α : Type} (S : Source α)

/-! ## Loads -/

/-- A load begins in the moment. -/
def Begins (m : Moment) : Prop :=
  (S.panel m.after).issued ≠ (S.panel m.before).issued

def BeginsFor (n : Nat) (m : Moment) : Prop :=
  m.strand = n ∧ S.Begins m

/-- What the load that begins in the moment asks for. -/
structure Asked (m : Moment) (accepted : List Reply) (query : S.Query) : Prop where
  asks : S.asks m.activity query accepted m.after
  calls : ∀ c ∈ S.calls query, ⟨c, m.after⟩ ∈ m.issues

inductive Settled (m : Moment) (accepted told : List Reply) (query : S.Query) :
    Outcome α → Prop where
  | given (result : Outcome α) :
      S.Asked m accepted query → S.Given told query result → Settled m accepted told query result
  /-- One of its calls has failed before the others were made. -/
  | atOnce (e : PoolError) :
      1 < (S.calls query).length → Settled m accepted told query (.error e)

inductive Standing (h : List Moment) (c : Console) (n : Nat) : S.Stage → Prop where
  | ahead : (∀ m ∈ h, m.strand = n → ¬ S.Begins m) →
      Standing h c n (.ahead (acceptedOf S.writes h n))
  | loading {later m} (query : S.Query) (ticket : Ticket) :
      Last (S.BeginsFor n) h later m → S.Asked m (acceptedOf S.writes h n) query →
      (∀ m' ∈ later, m'.strand = n → ¬ m'.Accepts S.writes) →
      ticket.generation ≤ (S.panel c).issued →
      (ticket.generation = (S.panel c).issued ↔ ∀ m' ∈ later, ¬ S.Begins m') →
      Standing h c n (.loading query ticket (repliesTo later n))
  | finished {later m} (query : S.Query) (result : Outcome α) :
      Last (S.BeginsFor n) h later m →
      S.Settled m (acceptedOf S.writes h n) (repliesTo later n) query result →
      (∀ m' ∈ later, m'.strand = n → ¬ m'.Accepts S.writes) →
      ((∀ m' ∈ later, ¬ S.Begins m') → (S.panel c).Shows (some result)) →
      Standing h c n (.finished query result)

/-- After everything that an activity has seen accepted a load has begun, or there has been nothing
to load. -/
def Paid (h : List Moment) (n : Nat) : Prop :=
  ∀ later m earlier, h = later ++ m :: earlier → m.strand = n → m.Accepts S.writes →
    ∃ m' ∈ later ++ [m], S.Begins m' ∨ S.blocked m'.after

variable {S} {h later : List Moment} {m : Moment} {n : Nat} {stage stage' : S.Stage} {c : Console}

theorem Settled.mono {accepted told more : List Reply} (sub : told ⊆ more) {query : S.Query}
    {result : Outcome α} (settled : S.Settled m accepted told query result) :
    S.Settled m accepted more query result := by
  cases settled with
  | given result asked given => exact .given result asked (given.mono sub)
  | atOnce e several => exact .atOnce e several

namespace Stage

/-- What is heard in a moment, if it is a reply. -/
def hear? (reply : Option Reply) (stage : S.Stage) : S.Stage :=
  reply.elim stage fun reply => stage.hear reply

theorem hear?_ahead (accepted : List Reply) (reply : Option Reply) :
    (ahead accepted : S.Stage).hear? reply =
      ahead (reply.toList.filter (Reply.accepts S.writes) ++ accepted) := by
  cases reply with
  | none => rfl
  | some reply =>
    change ahead (if reply.accepts S.writes then _ else _) = _
    rw [Option.toList_some, List.filter_cons, List.filter_nil]
    cases reply.accepts S.writes with
    | true => rfl
    | false => rfl

theorem hear?_loading (query : S.Query) (ticket : Ticket) (told : List Reply)
    (reply : Option Reply) :
    (loading query ticket told).hear? reply = loading query ticket (reply.toList ++ told) := by
  cases reply with
  | none => rfl
  | some reply => rfl

theorem hear?_finished (query : S.Query) (result : Outcome α) (reply : Option Reply) :
    (finished query result).hear? reply = finished query result := by
  cases reply with
  | none => rfl
  | some reply => rfl

end Stage

/-! ## One step -/

variable (S) in
structure Turn (h : List Moment) (m : Moment) : Prop where
  begins : S.Begins m → (S.panel m.after).issued = (S.panel m.before).issued + 1
  /-- Unless the activity has made the load that began last, it cannot end one. -/
  foreign : ¬ S.Begins m → (∀ later m', Last S.Begins h later m' → m'.strand ≠ m.strand) →
    S.panel m.after = S.panel m.before
  origin : ∀ data, (S.panel m.after).data = some data → (S.panel m.before).data = some data ∨
    ∃ query, S.Given (repliesTo (m :: h) m.strand) query (.ok data)

theorem Turn.of_kept (same : S.panel m.after = S.panel m.before) :
    S.Turn h m ∧ ¬ S.Begins m := by
  have still : ¬ S.Begins m := not_not_intro (congrArg Panel.issued same)
  refine ⟨⟨fun begins => absurd begins still, fun _ _ => same, fun data shown => .inl ?_⟩, still⟩
  rw [← same, shown]

theorem Turn.of_begins (next : (S.panel m.after).issued = (S.panel m.before).issued + 1)
    (kept : (S.panel m.after).data = (S.panel m.before).data) : S.Turn h m ∧ S.Begins m := by
  have begins : S.Begins m := by
    rw [Begins, next]
    exact Nat.succ_ne_self _
  refine ⟨⟨fun _ => next, fun still => absurd begins still, fun data shown => .inl ?_⟩, begins⟩
  rw [← kept, shown]

/-- The step of an activity takes its own load on. -/
theorem Standing.next (stands : S.Standing h m.before m.strand stage) {cs : List Call}
    (passage : S.Passage m.activity (stage.hear? m.reply) m.before cs m.after stage')
    (issued : ∀ c ∈ cs, ⟨c, m.after⟩ ∈ m.issues)
    (admits : ∀ reply, m.reply = some reply → stage.Admits reply.call) :
    S.Turn h m ∧ S.Standing (m :: h) m.after m.strand stage' := by
  cases stands with
  | ahead unbegun =>
    rw [Stage.hear?_ahead, ← acceptedOf_cons] at passage
    generalize heard : acceptedOf S.writes (m :: h) m.strand = accepted at passage
    cases passage with
    | kept same =>
      obtain ⟨turn, still⟩ := Turn.of_kept (h := h) same
      rw [← heard]
      refine ⟨turn, .ahead fun m' mem here => ?_⟩
      rcases List.mem_cons.mp mem with rfl | mem
      · exact still
      · exact unbegun m' mem here
    | begins query begun asks calls =>
      obtain ⟨turn, begins⟩ := Turn.of_begins (h := h) (congrArg Panel.issued begun)
        (by rw [begun]; rfl)
      have asked : S.Asked m (acceptedOf S.writes (m :: h) m.strand) query :=
        ⟨heard ▸ asks, fun c mem => issued c (calls mem)⟩
      refine ⟨turn, @Standing.loading _ S _ _ _ [] m query _ (.here ⟨rfl, begins⟩) asked (by simp)
        ?_ ?_⟩
      · rw [begun]
        exact Nat.le_refl _
      · rw [begun]
        simp [Panel.begin]
    | fails query e several failed =>
      have next := (congrArg Panel.issued failed).trans (Panel.complete_issued _ _ _)
      obtain ⟨turn, begins⟩ := Turn.of_begins (h := h) next
        (by rw [failed, Panel.data_complete_error]; rfl)
      refine ⟨turn, @Standing.finished _ S _ _ _ [] m query _ (.here ⟨rfl, begins⟩)
        (.atOnce e several) (by simp) fun _ => ?_⟩
      rw [failed]
      exact Panel.shows_complete rfl _
  | @loading later own query ticket last asked clear le latest =>
    rw [Stage.hear?_loading, ← repliesTo_cons] at passage
    have quiet := Moment.not_accepts admits
    rw [← acceptedOf_cons_of_not quiet] at asked
    have clear' : ∀ m' ∈ m :: later, m'.strand = m.strand → ¬ m'.Accepts S.writes := by
      intro m' mem here
      rcases List.mem_cons.mp mem with rfl | mem
      · exact quiet
      · exact clear m' mem here
    have none_since (still : ¬ S.Begins m) :
        (∀ m' ∈ m :: later, ¬ S.Begins m') ↔ ∀ m' ∈ later, ¬ S.Begins m' := by
      simp [still]
    cases passage with
    | kept same =>
      obtain ⟨turn, still⟩ := Turn.of_kept (h := h) same
      refine ⟨turn, .loading query ticket (last.since fun own => still own.2) asked clear' ?_ ?_⟩
      · rwa [same]
      · rw [same, none_since still]
        exact latest
    | takes result taken given =>
      have issued : (S.panel m.after).issued = (S.panel m.before).issued := by
        rw [taken]
        exact Panel.complete_issued _ ticket result
      have still : ¬ S.Begins m := not_not_intro issued
      refine ⟨⟨fun begins => absurd begins still, fun _ foreign => ?_, fun data shown => ?_⟩,
        .finished query result (last.since fun own => still own.2) (.given result asked given)
          clear' fun none => ?_⟩
      · -- If the load still counts, it began last, so it is not foreign.
        by_cases current : ticket.generation = (S.panel m.before).issued
        · have began := last.widen And.right (latest.mp current)
          exact absurd last.holds.1 (foreign _ _ began)
        · rw [taken]
          exact Panel.complete_of_old current result
      · rw [taken] at shown
        refine (Panel.data_of_complete shown).imp_right fun loaded => ⟨query, ?_⟩
        obtain ⟨earlier, rfl⟩ := last.split
        rw [← loaded]
        exact given.mono (repliesTo_mono (List.cons_subset_cons m (List.subset_append_left _ _)) _)
      · rw [taken]
        exact Panel.shows_complete (latest.mpr ((none_since still).mp none)) result
  | @finished later own query result last settled clear shows =>
    rw [Stage.hear?_finished] at passage
    have quiet := Moment.not_accepts admits
    rw [← acceptedOf_cons_of_not quiet] at settled
    cases passage with
    | kept same =>
      obtain ⟨turn, still⟩ := Turn.of_kept (h := h) same
      refine ⟨turn, .finished query result (last.since fun own => still own.2) ?_ ?_ fun none => ?_⟩
      · rw [repliesTo_cons]
        exact settled.mono (List.subset_append_right _ _)
      · intro m' mem here
        rcases List.mem_cons.mp mem with rfl | mem
        · exact quiet
        · exact clear m' mem here
      · rw [same]
        exact shows fun m' mem => none m' (List.mem_cons_of_mem _ mem)

/-- The step of another activity leaves a load at its stage. -/
theorem Standing.cons (stands : S.Standing h m.before n stage) (other : n ≠ m.strand)
    (turn : S.Turn h m) : S.Standing (m :: h) m.after n stage := by
  have since {later : List Moment} {own : Moment} (last : Last (S.BeginsFor n) h later own) :
      Last (S.BeginsFor n) (m :: h) (m :: later) own :=
    last.since fun began => other began.1.symm
  have foreign {p : Moment → Prop} {later : List Moment}
      (none : ∀ m' ∈ later, m'.strand = n → p m') : ∀ m' ∈ m :: later, m'.strand = n → p m' := by
    intro m' mem here
    rcases List.mem_cons.mp mem with rfl | mem
    · exact absurd here.symm other
    · exact none m' mem here
  cases stands with
  | ahead unbegun =>
    rw [← acceptedOf_cons_of_ne other]
    exact .ahead (foreign unbegun)
  | loading query ticket last asked clear le latest =>
    rw [← acceptedOf_cons_of_ne other] at asked
    rw [← repliesTo_cons_of_ne other]
    refine .loading query ticket (since last) asked (foreign clear) ?_ ?_
    · by_cases begins : S.Begins m
      · rw [turn.begins begins]
        exact Nat.le_succ_of_le le
      · rwa [Decidable.not_not.mp begins]
    · by_cases begins : S.Begins m
      · rw [turn.begins begins]
        refine iff_of_false (Nat.ne_of_lt (Nat.lt_succ_of_le le)) fun none => ?_
        exact none m List.mem_cons_self begins
      · rw [Decidable.not_not.mp begins, latest]
        simp [begins]
  | @finished later own query result last settled clear shows =>
    rw [← acceptedOf_cons_of_ne other, ← repliesTo_cons_of_ne other] at settled
    refine .finished query result (since last) settled (foreign clear) fun none => ?_
    have none' : ∀ m' ∈ later, ¬ S.Begins m' := fun m' mem => none m' (List.mem_cons_of_mem _ mem)
    rw [turn.foreign (none m List.mem_cons_self) fun later' m' began => ?_]
    · exact shows none'
    · obtain ⟨-, rfl⟩ := began.unique (last.widen And.right none')
      rw [last.holds.1]
      exact other

/-! ## The invariant -/

variable (S) in
/-- Every activity moves the panel by at most one load. -/
structure Plan where
  /-- What an activity ends with, by the stage at its last wait and the states since. -/
  post : (a : Activity) → a.Result → S.Stage → Console → Console → Prop
  loads : ∀ (a : Activity) (s : Console), a.action.Loads S a (post a) (.ahead []) s s
  ends : ∀ {a b stage s t}, post a b stage s t → S.Ends a stage s t

structure Tracked (plan : S.Plan) (start : Console) (h : List Moment) (w : World) : Prop where
  blank : (∀ m ∈ h, ¬ S.Begins m) → S.panel w.console = S.panel start
  /-- Whatever is shown has been answered to some load. -/
  origin : ∀ data, (S.panel w.console).data = some data → (S.panel start).data = some data ∨
    ∃ n query, S.Given (repliesTo h n) query (.ok data)
  stands : ∀ n strand, w.strands[n]? = some strand → ∃ stage : S.Stage,
    strand.rest.Awaits S strand.activity (plan.post strand.activity) stage ∧
    S.Standing h w.console n stage ∧
    (strand.rest.value?.isSome = true → stage.Rests ∧ S.Paid h n)

variable {plan : S.Plan} {start : Console} {v w : World}

theorem Paid.cons (paid : S.Paid h n) (other : n ≠ m.strand) : S.Paid (m :: h) n := by
  intro later m' earlier split here accepts
  cases later with
  | nil =>
    cases split
    exact absurd here.symm other
  | cons _ later =>
    obtain ⟨rfl, rfl⟩ := List.cons.inj split
    obtain ⟨m'', mem, settled⟩ := paid later m' earlier rfl here accepts
    exact ⟨m'', List.mem_cons_of_mem _ mem, settled⟩

/-- An activity that has come to its end owes no load, unless there is nothing to load. -/
theorem Standing.paid (stands : S.Standing (m :: h) c n stage) (ended : stage.Ended m.after) :
    S.Paid (m :: h) n := by
  intro later m' earlier split here accepts
  cases stands with
  | ahead unbegun =>
    have head : m ∈ later ++ [m'] := by
      cases later with
      | nil =>
        cases split
        exact List.mem_cons_self
      | cons _ later =>
        cases split
        exact List.mem_cons_self
    refine ⟨m, head, .inr (ended ?_)⟩
    obtain ⟨c, a, reply, changes⟩ := accepts
    have mem : m' ∈ m :: h := split ▸ List.mem_append_right _ List.mem_cons_self
    exact List.ne_nil_of_mem (mem_acceptedOf.mpr ⟨⟨m', mem, here, reply⟩, changes⟩)
  | loading => exact ended.elim
  | @finished since own query result last settled clear shows =>
    have none : ∀ m ∈ since, ¬ (m.strand = n ∧ m.Accepts S.writes) := fun m mem both =>
      clear m mem both.1 both.2
    obtain ⟨between, eq⟩ := last.before_split none split ⟨here, accepts⟩
    refine ⟨own, ?_, .inl last.holds.2⟩
    rw [eq]
    exact List.mem_append_right _ List.mem_cons_self

/-- What a step of an activity comes to, when it goes on from a stage. -/
theorem Standing.step (stands : S.Standing h m.before m.strand stage)
    (admits : ∀ reply, m.reply = some reply → stage.Admits reply.call)
    (lands : m.rest.Lands S m.activity (plan.post m.activity) (stage.hear? m.reply) m.before
      m.issues m.after) :
    S.Turn h m ∧ ∃ stage' : S.Stage,
      m.rest.Awaits S m.activity (plan.post m.activity) stage' ∧
      S.Standing (m :: h) m.after m.strand stage' ∧
      (m.rest.value?.isSome = true → stage'.Rests ∧ S.Paid (m :: h) m.strand) := by
  generalize rest : m.rest = y at lands
  cases lands with
  | waits stage' cs unfinished passage issued awaits =>
    obtain ⟨turn, stands⟩ := stands.next passage issued admits
    refine ⟨turn, stage', awaits, stands, fun ended => ?_⟩
    rw [unfinished] at ended
    cases ended
  | ends b post =>
    obtain ⟨stage', passage, ended⟩ := plan.ends post
    obtain ⟨turn, stands⟩ := stands.next passage (by simp) admits
    exact ⟨turn, stage', trivial, stands, fun _ => ⟨ended.rests, stands.paid ended⟩⟩

/-- An activity that begins has made no load and seen nothing accepted. -/
theorem Standing.fresh (fresh : ∀ m' ∈ h, m'.strand < n) : S.Standing h c n (.ahead []) := by
  have absent (m' : Moment) (mem : m' ∈ h) : m'.strand ≠ n := Nat.ne_of_lt (fresh m' mem)
  have none : acceptedOf S.writes h n = [] := by
    refine List.eq_nil_iff_forall_not_mem.mpr fun reply mem => ?_
    obtain ⟨⟨m', mem, here, -⟩, -⟩ := mem_acceptedOf.mp mem
    exact absent m' mem here
  rw [← none]
  exact .ahead fun m' mem here => absurd here (absent m' mem)

/-- The stage from which an activity makes a step, and what the step comes to. -/
theorem Tracked.lands (tracked : S.Tracked plan start h v) (run : Run start h v)
    (step : Step v m w) :
    ∃ stage : S.Stage, S.Standing h m.before m.strand stage ∧
      (∀ reply, m.reply = some reply → stage.Admits reply.call) ∧
      m.rest.Lands S m.activity (plan.post m.activity) (stage.hear? m.reply) m.before m.issues
        m.after := by
  cases answered : m.reply with
  | none =>
    have begins : m.begins = true := congrArg Option.isNone answered
    exact ⟨.ahead [], .fresh (run.strand_fresh step begins),
      fun _ is => absurd is.symm (Option.some_ne_none _),
      (step.advances begins).loads (plan.loads m.activity m.before)⟩
  | some reply =>
    obtain ⟨x, there, takes⟩ := step.takes answered
    obtain ⟨stage, awaits, stands, -⟩ := tracked.stands _ _ there
    rw [← step.before_eq] at stands
    refine ⟨stage, stands, ?_, takes.loads awaits⟩
    rintro _ ⟨⟩
    exact awaits.admits takes.mem_awaited

/-- What an activity ends with, and the stage at its last wait. -/
theorem Tracked.ending (tracked : S.Tracked plan start h v) (run : Run start h v)
    (step : Step v m w) {b : m.activity.Result} (ends : m.rest = .done b) :
    ∃ stage : S.Stage, S.Standing h m.before m.strand stage ∧
      plan.post m.activity b (stage.hear? m.reply) m.before m.after := by
  obtain ⟨stage, stands, -, lands⟩ := tracked.lands run step
  rw [ends] at lands
  refine ⟨stage, stands, ?_⟩
  cases lands with
  | waits _ _ unfinished => cases unfinished
  | ends _ post => exact post

theorem Tracked.next (tracked : S.Tracked plan start h v) (run : Run start h v)
    (step : Step v m w) : S.Tracked plan start (m :: h) w := by
  obtain ⟨stage, stands, admits, lands⟩ := tracked.lands run step
  obtain ⟨turn, own⟩ := stands.step admits lands
  rw [step.after_eq] at own
  refine ⟨fun none => ?_, fun data shown => ?_, fun n strand there => ?_⟩
  · have before := tracked.blank fun m' mem => none m' (List.mem_cons_of_mem _ mem)
    rw [← step.after_eq, ← before, ← step.before_eq]
    refine turn.foreign (none m List.mem_cons_self) fun later m' last => ?_
    exact absurd last.holds (none m' (List.mem_cons_of_mem _ last.mem))
  · rw [← step.after_eq] at shown
    rcases turn.origin data shown with before | ⟨query, given⟩
    · rw [step.before_eq] at before
      refine (tracked.origin data before).imp_right fun ⟨n, query, given⟩ => ⟨n, query, ?_⟩
      exact given.mono (repliesTo_mono (List.subset_cons_self _ _) n)
    · exact .inr ⟨m.strand, query, given⟩
  · rcases step.strand_cases there with ⟨rfl, rfl⟩ | ⟨other, there⟩
    · exact own
    · obtain ⟨stage', awaits, stands', ended⟩ := tracked.stands n strand there
      rw [← step.before_eq] at stands'
      have moved := stands'.cons other turn
      rw [step.after_eq] at moved
      exact ⟨stage', awaits, moved, fun is => ⟨(ended is).1, (ended is).2.cons other⟩⟩

theorem tracked (plan : S.Plan) (run : Run start h w) : S.Tracked plan start h w := by
  induction run with
  | start => exact ⟨fun _ => rfl, fun _ => .inl, by simp⟩
  | next run step ih => exact ih.next run step

/-! ## What holds in every run -/

/-- What an activity ends with, in every run. -/
theorem Plan.returns (plan : S.Plan) (run : Run start (m :: h) w) {a : Activity} {b : a.Result}
    (returns : m.Returns a b) :
    ∃ stage : S.Stage, S.Standing h m.before m.strand stage ∧
      plan.post a b (stage.hear? m.reply) m.before m.after := by
  cases run with
  | next prior step =>
    exact returns.elim
      (p := fun a b => ∃ stage : S.Stage, S.Standing h m.before m.strand stage ∧
        plan.post a b (stage.hear? m.reply) m.before m.after)
      fun b ends => (tracked plan prior).ending prior step ends

/-- The load that an activity is given its last answer for. -/
theorem Standing.loading_of_hear (stands : S.Standing h c m.strand stage) {query : S.Query}
    {ticket : Ticket} {told : List Reply}
    (heard : stage.hear? m.reply = .loading query ticket told) :
    ∃ later own, Last (S.BeginsFor m.strand) h later own ∧
      S.Asked own (acceptedOf S.writes h m.strand) query ∧
      (∀ m' ∈ later, m'.strand = m.strand → ¬ m'.Accepts S.writes) ∧
      (ticket.generation = (S.panel c).issued ↔ ∀ m' ∈ later, ¬ S.Begins m') ∧
      told = repliesTo (m :: later) m.strand := by
  cases stands with
  | ahead =>
    rw [Stage.hear?_ahead] at heard
    cases heard
  | finished =>
    rw [Stage.hear?_finished] at heard
    cases heard
  | @loading later own _ _ last asked clear le latest =>
    rw [Stage.hear?_loading, ← repliesTo_cons] at heard
    cases heard
    exact ⟨later, own, last, asked, clear, latest, rfl⟩

/-- What is shown is what the load that began last has come to, if its activity has ended. -/
theorem Tracked.latest (tracked : S.Tracked plan start h w) (last : Last S.Begins h later m)
    (ended : w.Ended m.strand) :
    ∃ query result,
      S.Settled m (acceptedOf S.writes h m.strand) (repliesTo later m.strand) query result ∧
      (S.panel w.console).Shows (some result) := by
  obtain ⟨strand, there, ended⟩ := ended
  obtain ⟨stage, -, stands, finished⟩ := tracked.stands _ _ there
  have own : Last (S.BeginsFor m.strand) h later m :=
    last.narrow (fun _ => And.right) ⟨rfl, last.holds⟩
  cases stands with
  | ahead unbegun => exact absurd last.holds (unbegun m last.mem rfl)
  | loading => exact (finished ended).1.elim
  | finished query result began settled _ shows =>
    obtain ⟨rfl, rfl⟩ := began.unique own
    exact ⟨query, result, settled, shows last.not_later⟩

/-- The answers to the load that began last are what is shown, if its calls have not failed. -/
theorem Tracked.latest_answered (tracked : S.Tracked plan start h w)
    (last : Last S.Begins h later m) (ended : w.Ended m.strand)
    (single : ∀ query, (S.calls query).length ≤ 1)
    (answered : ∀ query, ∀ c ∈ S.calls query, ∀ e, ⟨c, .error e⟩ ∉ repliesTo later m.strand) :
    ∃ query answers, S.Asked m (acceptedOf S.writes h m.strand) query ∧
      Answered (repliesTo later m.strand) (S.calls query) answers ∧
      (S.panel w.console).Shows (some (.ok (S.read query answers))) := by
  obtain ⟨query, result, settled, shows⟩ := tracked.latest last ended
  cases settled with
  | atOnce e several => exact absurd several (Nat.not_lt_of_le (single query))
  | given _ asked given =>
    obtain ⟨r, replied, rfl⟩ := given
    cases r with
    | ok answers => exact ⟨query, answers, asked, replied, shows⟩
    | error e =>
      obtain ⟨c, mem, failed⟩ := replied
      exact absurd failed (answered query c mem e)

/-- Data that is shown without an error, with nothing under way, is the answer to the load that
began last. -/
theorem Tracked.shown (tracked : S.Tracked plan start h w) (run : Run start h w) (quiet : w.Quiet)
    (blank : (S.panel start).data = none) {data : α} (shown : (S.panel w.console).data = some data)
    (clear : (S.panel w.console).error = none) :
    ∃ since m query, Last S.Begins h since m ∧ S.Asked m (acceptedOf S.writes h m.strand) query ∧
      S.Given (repliesTo since m.strand) query (.ok data) := by
  by_cases begun : ∃ m ∈ h, S.Begins m
  · obtain ⟨m', mem, begins⟩ := begun
    obtain ⟨since, m, last⟩ := Last.exists_of_mem mem begins
    obtain ⟨query, result, settled, shows⟩ := tracked.latest last (quiet.ended run last.mem)
    refine ⟨since, m, query, last, ?_⟩
    have loaded : (S.panel w.console).loading = false := by
      cases result with
      | ok => exact shows.1
      | error => exact shows.1
    have is := shows.eq_of_data loaded clear shown
    rw [Option.some.injEq] at is
    subst is
    cases settled with
    | given _ asked given => exact ⟨asked, given⟩
  · rw [tracked.blank fun m mem begins => begun ⟨m, mem, begins⟩, blank] at shown
    cases shown

/-- What is shown has gone out of date since the last load began only if there has been nothing to
load since. -/
theorem Tracked.current (tracked : S.Tracked plan start h w) (last : Last S.Begins h later m)
    {m' : Moment} (mem : m' ∈ later) (accepts : m'.Accepts S.writes) (ended : w.Ended m'.strand) :
    ∃ m'' ∈ later, S.blocked m''.after := by
  obtain ⟨strand, there, ended⟩ := ended
  obtain ⟨stage, -, -, finished⟩ := tracked.stands _ _ there
  obtain ⟨earlier, rfl⟩ := last.split
  obtain ⟨since, before, rfl⟩ := List.append_of_mem mem
  obtain ⟨m'', mem', settled⟩ := (finished ended).2 since m' (before ++ m :: earlier)
    (List.append_assoc since (m' :: before) _) rfl accepts
  have within : m'' ∈ since ++ m' :: before := by
    rw [List.mem_append, List.mem_singleton] at mem'
    rw [List.mem_append, List.mem_cons]
    exact mem'.imp_right .inl
  exact ⟨m'', within, settled.resolve_left (last.not_later m'' within)⟩

end Source

end PoolConsole
