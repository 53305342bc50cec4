import PoolConsole.Debounce

/-!
Which queries a debouncer dispatches, over any timed history.

* `Debouncer.run`: what is dispatched by some time while events arrive, and the debouncer then.
* `Orderly`: the invariant; whatever sleeps is the latest dispatch, which the next query gives up.
* `Settles`: a query has been left to rest for the quiet period.
* `dispatched_settled`: at every time the queries dispatched so far are those that have settled,
  each once and in the order in which they were pushed, and at most one dispatch sleeps.
-/

namespace PoolConsole.Debouncer

/-! ## Histories -/

inductive Input where
  | push (query : String)
  | cancel
  | drop
  deriving DecidableEq

structure Event where
  time : Nat
  input : Input
  deriving DecidableEq

def Event.query? (e : Event) : Option String :=
  match e.input with
  | .push query => some query
  | .cancel | .drop => none

def take (d : Debouncer) (e : Event) : Debouncer :=
  match e.input with
  | .push query => d.push e.time query
  | .cancel => d.cancel
  | .drop => d.drop

/-- What is dispatched by some time while events arrive in order, and the debouncer then. What is
due when an event arrives is dispatched before it. -/
def run (d : Debouncer) (now : Nat) : List Event → List String × Debouncer
  | [] => d.dispatch now
  | e :: later =>
    if now < e.time then d.dispatch now
    else
      let (sent, d) := d.dispatch e.time
      let (rest, d) := (d.take e).run now later
      (sent ++ rest, d)

/-- Of the events of a history, nothing has disturbed a query in the quiet period after its push,
which is over by now, and the debouncer was not given up before it. -/
structure Settles (quiet now : Nat) (history : List Event) (e : Event) : Prop where
  past : e.time + quiet ≤ now
  kept : ∀ other ∈ history, other.input = .drop → e.time < other.time
  undisturbed : ∀ other ∈ history, ¬ (e.time < other.time ∧ other.time < e.time + quiet)

instance (quiet now : Nat) (history : List Event) (e : Event) :
    Decidable (Settles quiet now history e) :=
  decidable_of_iff (e.time + quiet ≤ now ∧
      (∀ other ∈ history, other.input = .drop → e.time < other.time) ∧
      ∀ other ∈ history, ¬ (e.time < other.time ∧ other.time < e.time + quiet))
    ⟨fun ⟨past, kept, undisturbed⟩ => ⟨past, kept, undisturbed⟩,
      fun ⟨past, kept, undisturbed⟩ => ⟨past, kept, undisturbed⟩⟩

/-- The queries that have settled by some time, in the order in which they were pushed. -/
def settled (quiet now : Nat) (history : List Event) : List String :=
  (history.filter (Settles quiet now history)).filterMap Event.query?

/-! ## What sleeps -/

/-- The dispatch that sleeps, if one does, is the latest, and none sleeps once the debouncer has
been given up. -/
structure Orderly (d : Debouncer) : Prop where
  latest : ∀ s ∈ d.sleeping, d.latest = some s.number
  single : d.sleeping.length ≤ 1
  begun : ∀ n, d.latest = some n → n < d.begun
  ended : d.closed = true → d.sleeping = []

variable {d : Debouncer} {e : Event} {h : List Event}

theorem orderly_fresh (quiet : Nat) : Orderly { quiet } where
  latest := by simp
  single := by simp
  begun := by simp
  ended := by simp

theorem Orderly.abort_latest (ok : Orderly d) : (d.abort d.latest).sleeping = [] := by
  refine List.filter_eq_nil_iff.mpr fun s mem => ?_
  simp [ok.latest s mem]

/-- A new query gives up whatever sleeps. -/
theorem Orderly.sleeping_push (ok : Orderly d) (opened : d.closed = false) (now : Nat)
    (query : String) : (d.push now query).sleeping = [⟨d.begun, query, now + d.quiet⟩] := by
  have old : d.sleeping.filter (fun s => d.latest ≠ some s.number) = [] := ok.abort_latest
  have new : d.latest ≠ some d.begun := fun same => Nat.lt_irrefl _ (ok.begun _ same)
  simp only [push, opened, abort, Bool.false_eq_true, if_false]
  rw [List.filter_append, old]
  simp [new]

theorem Orderly.push (ok : Orderly d) (now : Nat) (query : String) :
    Orderly (d.push now query) := by
  cases closed : d.closed with
  | true => rwa [Debouncer.push, if_pos closed]
  | false =>
    have sleeping := ok.sleeping_push closed now query
    have latest : (d.push now query).latest = some d.begun := by simp [Debouncer.push, closed, abort]
    have begun : (d.push now query).begun = d.begun + 1 := by simp [Debouncer.push, closed, abort]
    have opened : (d.push now query).closed = false := by simp [Debouncer.push, closed, abort]
    refine ⟨?_, ?_, ?_, ?_⟩
    · intro s mem
      rw [sleeping, List.mem_singleton] at mem
      rw [latest, mem]
    · rw [sleeping]
      exact Nat.le_refl 1
    · intro n same
      rw [latest, Option.some.injEq] at same
      omega
    · intro closed
      rw [opened] at closed
      cases closed

theorem Orderly.cancel (ok : Orderly d) : Orderly d.cancel where
  latest s mem := by
    rw [show d.cancel.sleeping = [] from ok.abort_latest] at mem
    cases mem
  single := by simp [show d.cancel.sleeping = [] from ok.abort_latest]
  begun n same := by cases same
  ended _ := ok.abort_latest

theorem Orderly.drop (ok : Orderly d) : Orderly d.drop where
  latest := ok.cancel.latest
  single := ok.cancel.single
  begun := ok.cancel.begun
  ended _ := ok.abort_latest

theorem Orderly.take (ok : Orderly d) (e : Event) : Orderly (d.take e) := by
  unfold Debouncer.take
  cases e.input with
  | push query => exact ok.push e.time query
  | cancel => exact ok.cancel
  | drop => exact ok.drop

theorem Orderly.dispatch (ok : Orderly d) (now : Nat) : Orderly (d.dispatch now).2 where
  latest s mem := ok.latest s (List.mem_filter.mp mem).1
  single := Nat.le_trans (List.length_filter_le _ _) ok.single
  begun := ok.begun
  ended closed := by
    simp [Debouncer.dispatch, ok.ended closed]

theorem Orderly.run (ok : Orderly d) (now : Nat) : Orderly (d.run now h).2 := by
  induction h generalizing d with
  | nil => exact ok.dispatch now
  | cons e later ih =>
    rw [Debouncer.run]
    split
    next => exact ok.dispatch now
    next => exact ih ((ok.dispatch e.time).take e)

/-! ## What settles -/

/-- What is due at some time is dispatched by now, and before any of the events to come. -/
def Passes (now : Nat) (h : List Event) (due : Nat) : Prop :=
  due ≤ now ∧ ∀ e ∈ h, due ≤ e.time

instance (now : Nat) (h : List Event) (due : Nat) : Decidable (Passes now h due) :=
  inferInstanceAs (Decidable (_ ∧ _))

/-- The queries of those dispatches that sleep which will have been made by now. -/
def lasting (sleeping : List Dispatch) (now : Nat) (h : List Event) : List String :=
  (sleeping.filter fun s => Passes now h s.due).map (·.query)

/-- The queries that are still to come: none, once the debouncer has been given up. -/
def coming (d : Debouncer) (now : Nat) (h : List Event) : List String :=
  if d.closed then [] else settled d.quiet now h

variable {quiet now : Nat} {later : List Event}

/-- The first event decides nothing about a later push, unless it gives the debouncer up. -/
theorem settles_of_mem (before : ∀ other ∈ later, e.time < other.time) {other : Event}
    (mem : other ∈ later) :
    Settles quiet now (e :: later) other ↔ e.input ≠ .drop ∧ Settles quiet now later other := by
  have earlier := before other mem
  constructor
  · rintro ⟨past, kept, undisturbed⟩
    rw [List.forall_mem_cons] at kept undisturbed
    exact ⟨fun dropped => Nat.lt_asymm earlier (kept.1 dropped), past, kept.2, undisturbed.2⟩
  · rintro ⟨stays, past, kept, undisturbed⟩
    refine ⟨past, List.forall_mem_cons.mpr ⟨fun dropped => absurd dropped stays, kept⟩, ?_⟩
    exact List.forall_mem_cons.mpr ⟨fun between => Nat.lt_asymm earlier between.1, undisturbed⟩

/-- The first push settles if all that follows it comes after its quiet period. -/
theorem settles_first (before : ∀ other ∈ later, e.time < other.time) (stays : e.input ≠ .drop) :
    Settles quiet now (e :: later) e ↔ Passes now later (e.time + quiet) := by
  constructor
  · rintro ⟨past, -, undisturbed⟩
    refine ⟨past, fun other mem => ?_⟩
    have apart := undisturbed other (List.mem_cons_of_mem _ mem)
    have := before other mem
    omega
  · rintro ⟨past, after⟩
    refine ⟨past, List.forall_mem_cons.mpr ⟨fun dropped => absurd dropped stays, ?_⟩,
      List.forall_mem_cons.mpr ⟨by omega, ?_⟩⟩
    · exact fun other mem _ => before other mem
    · intro other mem between
      have := after other mem
      omega

/-- The settled queries by the first event. -/
theorem settled_cons (before : ∀ other ∈ later, e.time < other.time) :
    settled quiet now (e :: later) =
      match e.input with
      | .push query =>
        (if Passes now later (e.time + quiet) then [query] else []) ++ settled quiet now later
      | .cancel => settled quiet now later
      | .drop => [] := by
  have rest (stays : e.input ≠ .drop) :
      later.filter (Settles quiet now (e :: later)) = later.filter (Settles quiet now later) :=
    List.filter_congr fun other mem => by simp [settles_of_mem before mem, stays]
  obtain ⟨time, input⟩ := e
  rw [settled, List.filter_cons]
  cases input with
  | push query =>
    rw [rest Input.noConfusion]
    simp only [settles_first before Input.noConfusion, decide_eq_true_eq]
    split <;> rfl
  | cancel =>
    rw [rest Input.noConfusion]
    split <;> rfl
  | drop =>
    have none : later.filter (Settles quiet now (⟨time, .drop⟩ :: later)) = [] :=
      List.filter_eq_nil_iff.mpr fun other mem => by simp [settles_of_mem before mem]
    rw [none]
    split <;> rfl

/-- Nothing settles that comes later than now. -/
theorem settled_of_later (ahead : ∀ e ∈ h, now < e.time) : settled quiet now h = [] := by
  rw [settled, List.filter_eq_nil_iff.mpr, List.filterMap_nil]
  intro e mem settles
  have past := (of_decide_eq_true settles).past
  have := ahead e mem
  omega

/-! ## What is dispatched -/

/-- What an event leaves asleep and what comes after it make up what was to come before it. -/
theorem Orderly.coming_take (ok : Orderly d) (before : ∀ other ∈ later, e.time < other.time)
    (now : Nat) :
    lasting (d.take e).sleeping now later ++ coming (d.take e) now later =
      coming d now (e :: later) := by
  have first : settled d.quiet now (e :: later) = _ := settled_cons before
  obtain ⟨time, input⟩ := e
  cases input with
  | push query =>
    cases closed : d.closed with
    | true =>
      have same : d.take ⟨time, .push query⟩ = d := if_pos closed
      simp [same, ok.ended closed, lasting, coming, closed]
    | false =>
      have sleeping : (d.take ⟨time, .push query⟩).sleeping = [⟨d.begun, query, time + d.quiet⟩] :=
        ok.sleeping_push closed time query
      have rest : coming (d.take ⟨time, .push query⟩) now later = settled d.quiet now later := by
        simp [coming, Debouncer.take, Debouncer.push, closed, abort]
      rw [sleeping, rest, coming, closed, if_neg Bool.false_ne_true, first, lasting]
      simp only [List.filter_cons, List.filter_nil, decide_eq_true_eq]
      split <;> rfl
  | cancel =>
    rw [show (d.take ⟨time, .cancel⟩).sleeping = [] from ok.abort_latest, coming, coming, first]
    rfl
  | drop =>
    rw [show (d.take ⟨time, .drop⟩).sleeping = [] from ok.abort_latest, coming, coming, first,
      ite_self]
    rfl

/-- What is dispatched at some time is all that will have been made of what sleeps, if the events
to come are no obstacle to just what is due by then. -/
theorem dispatch_eq_lasting {time : Nat} (due : ∀ n, n ≤ time ↔ Passes now h n) :
    (d.dispatch time).1 = lasting d.sleeping now h := by
  simp only [Debouncer.dispatch, lasting, due]

/-- What has been dispatched by now: what slept and nothing disturbed, and what has settled. -/
theorem Orderly.sent_eq (ok : Orderly d) (ordered : h.Pairwise (·.time < ·.time)) (now : Nat) :
    (d.run now h).1 = lasting d.sleeping now h ++ coming d now h := by
  induction h generalizing d with
  | nil =>
    have none : coming d now [] = [] := ite_self _
    rw [none, List.append_nil]
    exact dispatch_eq_lasting fun n => by simp [Passes]
  | cons e later ih =>
    obtain ⟨before, ordered⟩ := List.pairwise_cons.mp ordered
    rw [Debouncer.run]
    split
    next ahead =>
      have ahead : ∀ other ∈ e :: later, now < other.time :=
        List.forall_mem_cons.mpr ⟨ahead, fun other mem => Nat.lt_trans ahead (before other mem)⟩
      rw [coming, settled_of_later ahead, ite_self, List.append_nil]
      refine dispatch_eq_lasting fun n => ⟨fun due => ⟨due, fun other mem => ?_⟩, fun due => due.1⟩
      exact Nat.le_of_lt (Nat.lt_of_le_of_lt due (ahead other mem))
    next arrived =>
      have sent : (d.dispatch e.time).1 = lasting d.sleeping now (e :: later) := by
        refine dispatch_eq_lasting fun n => ⟨fun due => ⟨by omega, ?_⟩, fun due => ?_⟩
        · exact List.forall_mem_cons.mpr
            ⟨due, fun other mem => Nat.le_of_lt (Nat.lt_of_le_of_lt due (before other mem))⟩
        · exact due.2 e List.mem_cons_self
      have next := (ok.dispatch e.time).coming_take before now
      change (d.dispatch e.time).1 ++ (((d.dispatch e.time).2.take e).run now later).1 = _
      rw [sent, ih ((ok.dispatch e.time).take e) ordered, next]
      rfl

/-- At every time, the queries dispatched so far are those that have settled, each once and in the
order in which they were pushed, and at most one dispatch sleeps. Nothing is asked of the times at
which dispatches are due: one that is due when an event arrives is made first. -/
theorem dispatched_settled (quiet : Nat) (ordered : h.Pairwise (·.time < ·.time)) (now : Nat) :
    (run { quiet } now h).1 = settled quiet now h ∧ (run { quiet } now h).2.sleeping.length ≤ 1 :=
  ⟨(orderly_fresh quiet).sent_eq ordered now, ((orderly_fresh quiet).run now).single⟩

/-- Of a burst only the last query is dispatched, and a query that is cancelled is not. -/
theorem dispatched_of_burst :
    let h : List Event := [⟨0, .push "g"⟩, ⟨100, .push "gp"⟩, ⟨200, .push "gpu"⟩, ⟨600, .push "cpu"⟩,
      ⟨700, .cancel⟩, ⟨750, .push "job"⟩, ⟨1100, .drop⟩, ⟨1200, .push "node"⟩]
    (run { quiet := 300 } 2000 h).1 = ["gpu", "job"] ∧
      (run { quiet := 300 } 2000 h).2.sleeping.length ≤ 1 :=
  dispatched_settled 300 (by decide) 2000

end PoolConsole.Debouncer
