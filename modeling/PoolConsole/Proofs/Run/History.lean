import PoolConsole.Proofs.Run.Frame

/-!
Runs of the console: activities that overlap in any way.

* `Step`: an activity begins, or one that is waiting is given an answer; either way it runs on to
  its next wait, and nothing else happens meanwhile.
* `Run`: a history of such moments, and the world that it ends in. Answers are arbitrary and arrive
  in any order.
* `Run.moment`: every moment of a history is a step from a world that a part of the run ends in.
* `Run.each`: what is known of every activity in its waits, and so of every moment.
* `Run.begin`, `Run.answer`: in no world is there anything that cannot begin or be answered.
-/

namespace PoolConsole

/-- An activity that has begun, and what it will do from now on. -/
structure Strand where
  activity : Activity
  rest : Action Console activity.Result

theorem Strand.eq_mk {s : Strand} {a : Activity} (h : s.activity = a) : ∃ rest, s = ⟨a, rest⟩ := by
  cases s
  cases h
  exact ⟨_, rfl⟩

structure World where
  console : Console
  /-- The activities in the order in which they have begun. -/
  strands : List Strand := []

/-- What one activity does from one wait to the next. -/
structure Moment where
  /-- The number of the activity, in the order of their beginnings. -/
  strand : Nat
  activity : Activity
  /-- The answer that the activity goes on with, if it does not begin. -/
  reply : Option Reply
  before : Console
  after : Console
  issues : List (Issue Console)
  rest : Action Console activity.Result

namespace Moment

def begins (m : Moment) : Bool :=
  m.reply.isNone

def ends (m : Moment) : Bool :=
  m.rest.value?.isSome

end Moment

inductive Step : World → Moment → World → Prop where
  | begin {w : World} (a : Activity) {issues rest after} :
      a.action.Advances w.console issues rest after →
      Step w ⟨w.strands.length, a, none, w.console, after, issues, rest⟩
        ⟨after, w.strands ++ [⟨a, rest⟩]⟩
  | answer {w : World} (n : Nat) (strand : Strand) (reply : Reply) {issues rest after} :
      w.strands[n]? = some strand → strand.rest.Takes w.console reply issues rest after →
      Step w ⟨n, strand.activity, some reply, w.console, after, issues, rest⟩
        ⟨after, w.strands.set n ⟨strand.activity, rest⟩⟩

/-- A history, whose latest moment comes first, and the world in which it ends. -/
inductive Run (start : Console) : List Moment → World → Prop where
  | start : Run start [] ⟨start, []⟩
  | next {h m v w} : Run start h v → Step v m w → Run start (m :: h) w

variable {start : Console} {h later earlier : List Moment} {m : Moment} {v w : World}

theorem Step.before_eq (step : Step v m w) : m.before = v.console := by
  cases step <;> rfl

theorem Step.after_eq (step : Step v m w) : m.after = w.console := by
  cases step <;> rfl

theorem Step.advances (step : Step v m w) (begins : m.begins = true) :
    m.activity.action.Advances m.before m.issues m.rest m.after := by
  cases step with
  | begin a advances => exact advances
  | answer => cases begins

theorem Step.takes (step : Step v m w) {reply : Reply} (answered : m.reply = some reply) :
    ∃ x, v.strands[m.strand]? = some ⟨m.activity, x⟩ ∧
      x.Takes m.before reply m.issues m.rest m.after := by
  cases step with
  | begin => cases answered
  | answer n strand other there takes =>
    cases answered
    exact ⟨strand.rest, there, takes⟩

theorem Step.strand_after (step : Step v m w) :
    w.strands[m.strand]? = some ⟨m.activity, m.rest⟩ := by
  cases step with
  | begin a advances => exact List.getElem?_concat_length
  | answer n strand reply there takes =>
    exact List.getElem?_set_self (List.getElem?_eq_some_iff.mp there).1

/-- A step changes one activity and leaves what waits elsewhere as it is. -/
theorem Step.strand_cases (step : Step v m w) {n : Nat} {strand : Strand}
    (there : w.strands[n]? = some strand) :
    (n = m.strand ∧ strand = ⟨m.activity, m.rest⟩) ∨
      (n ≠ m.strand ∧ v.strands[n]? = some strand) := by
  by_cases same : n = m.strand
  · subst same
    rw [step.strand_after, Option.some.injEq] at there
    exact .inl ⟨rfl, there.symm⟩
  · refine .inr ⟨same, ?_⟩
    cases step with
    | begin a advances =>
      have bound := (List.getElem?_eq_some_iff.mp there).1
      rw [List.length_append, List.length_singleton] at bound
      have older : n < v.strands.length := Nat.lt_of_le_of_ne (Nat.le_of_lt_succ bound) same
      rwa [List.getElem?_append_left older] at there
    | answer k strand reply _ takes => rwa [List.getElem?_set_ne (Ne.symm same)] at there

theorem Step.strand_left (step : Step v m w) {n : Nat} {strand : Strand} (other : n ≠ m.strand)
    (there : v.strands[n]? = some strand) : w.strands[n]? = some strand := by
  cases step with
  | begin a advances => rwa [List.getElem?_append_left (List.getElem?_eq_some_iff.mp there).1]
  | answer k waiting reply here takes => rwa [List.getElem?_set_ne (Ne.symm other)]

/-- No activity is forgotten. -/
theorem Step.strand_kept (step : Step v m w) {n : Nat} {strand : Strand}
    (there : v.strands[n]? = some strand) :
    ∃ rest, w.strands[n]? = some ⟨strand.activity, rest⟩ := by
  by_cases other : n = m.strand
  · subst other
    cases step with
    | begin a advances => simp at there
    | answer k waiting reply here takes =>
      rw [there, Option.some.injEq] at here
      subst here
      exact ⟨_, List.getElem?_set_self (List.getElem?_eq_some_iff.mp there).1⟩
  · exact ⟨strand.rest, step.strand_left other there⟩

/-- What has come to its end does nothing any more. -/
theorem Step.unfinished (step : Step v m w) {strand : Strand}
    (there : v.strands[m.strand]? = some strand) : strand.rest.value? = none := by
  cases step with
  | begin a advances => simp at there
  | answer k waiting reply here takes =>
    rw [here, Option.some.injEq] at there
    subst there
    exact takes.unfinished

/-- The activity of a number has come to its end. -/
def World.Ended (w : World) (n : Nat) : Prop :=
  ∃ strand, w.strands[n]? = some strand ∧ strand.rest.value?.isSome = true

theorem Step.ended (step : Step v m w) {n : Nat} (ended : v.Ended n) :
    n ≠ m.strand ∧ w.Ended n := by
  obtain ⟨strand, there, ended⟩ := ended
  have other : n ≠ m.strand := by
    rintro rfl
    rw [step.unfinished there] at ended
    cases ended
  exact ⟨other, strand, step.strand_left other there, ended⟩

theorem Step.ended_here (step : Step v m w) (ends : m.ends = true) : w.Ended m.strand :=
  ⟨_, step.strand_after, ends⟩

theorem Step.strand_lt (step : Step v m w) : m.strand < w.strands.length :=
  (List.getElem?_eq_some_iff.mp step.strand_after).1

theorem Step.length_le (step : Step v m w) : v.strands.length ≤ w.strands.length := by
  cases step with
  | begin => simp
  | answer => simp

theorem Run.begin (run : Run start h w) (a : Activity) :
    ∃ m v, m.activity = a ∧ m.begins = true ∧ Run start (m :: h) v := by
  obtain ⟨issues, rest, after, advances⟩ := a.action.exists_advances w.console
  exact ⟨_, _, rfl, rfl, run.next (.begin a advances)⟩

theorem Run.answer (run : Run start h w) {n : Nat} {strand : Strand}
    (there : w.strands[n]? = some strand) {c : Call} (waits : c ∈ strand.rest.awaited)
    (r : Outcome c.Answer) :
    ∃ m v, m.strand = n ∧ m.reply = some ⟨c, r⟩ ∧ Run start (m :: h) v := by
  obtain ⟨issues, rest, after, takes⟩ := Action.exists_takes waits r w.console
  exact ⟨_, _, rfl, rfl, run.next (.answer n strand ⟨c, r⟩ there takes)⟩

theorem Run.after_eq (run : Run start (m :: h) w) : m.after = w.console := by
  cases run with
  | next _ step => exact step.after_eq

/-- The earlier part of a history is one itself. -/
theorem Run.suffix (run : Run start (later ++ h) w) : ∃ v, Run start h v := by
  induction later generalizing w with
  | nil => exact ⟨w, run⟩
  | cons m later ih =>
    cases run with
    | next run _ => exact ih run

theorem Run.split (run : Run start (later ++ m :: earlier) w) :
    ∃ v v', Run start earlier v ∧ Step v m v' := by
  obtain ⟨v', run⟩ := run.suffix
  cases run with
  | next run step => exact ⟨_, v', run, step⟩

theorem Run.moment (run : Run start h w) (mem : m ∈ h) :
    ∃ earlier v v', Run start earlier v ∧ Step v m v' := by
  obtain ⟨later, earlier, rfl⟩ := List.append_of_mem mem
  obtain ⟨v, v', run, step⟩ := run.split
  exact ⟨earlier, v, v', run, step⟩

theorem Run.strand_lt (run : Run start h w) : ∀ m ∈ h, m.strand < w.strands.length := by
  induction run with
  | start => simp
  | next run step ih =>
    intro m mem
    rcases List.mem_cons.mp mem with rfl | mem
    · exact step.strand_lt
    · exact Nat.lt_of_lt_of_le (ih m mem) step.length_le

/-- An activity that begins has a number that none before had. -/
theorem Run.strand_fresh (run : Run start h v) (step : Step v m w) (begins : m.begins = true) :
    ∀ m' ∈ h, m'.strand < m.strand := by
  cases step with
  | begin a advances => exact run.strand_lt
  | answer => cases begins

theorem Run.strand_of_mem (run : Run start h w) (mem : m ∈ h) :
    ∃ rest, w.strands[m.strand]? = some ⟨m.activity, rest⟩ := by
  induction run with
  | start => cases mem
  | next run step ih =>
    rcases List.mem_cons.mp mem with rfl | mem
    · exact ⟨_, step.strand_after⟩
    · obtain ⟨rest, there⟩ := ih mem
      exact step.strand_kept there

/-- Moments of the same number are moments of the same activity. -/
theorem Run.activity_eq (run : Run start h w) {m' : Moment} (mem : m ∈ h) (mem' : m' ∈ h)
    (same : m'.strand = m.strand) : m'.activity = m.activity := by
  obtain ⟨rest, there⟩ := run.strand_of_mem mem
  obtain ⟨rest', there'⟩ := run.strand_of_mem mem'
  rw [same, there, Option.some.injEq] at there'
  exact (congrArg Strand.activity there').symm

/-- Every activity has begun. -/
theorem Run.exists_begins (run : Run start h w) {n : Nat} {strand : Strand}
    (there : w.strands[n]? = some strand) : ∃ m ∈ h, m.strand = n ∧ m.begins = true := by
  induction run generalizing strand with
  | start => cases there
  | @next h m v w run step ih =>
    have older {strand : Strand} (there : v.strands[n]? = some strand) :
        ∃ m' ∈ m :: h, m'.strand = n ∧ m'.begins = true := by
      obtain ⟨m', mem, here⟩ := ih there
      exact ⟨m', List.mem_cons_of_mem m mem, here⟩
    rcases step.strand_cases there with ⟨rfl, -⟩ | ⟨-, there⟩
    · cases answered : m.reply with
      | none => exact ⟨m, List.mem_cons_self, rfl, congrArg Option.isNone answered⟩
      | some reply =>
        obtain ⟨x, waits, -⟩ := step.takes answered
        exact older waits
    · exact older there

/-- An activity begins once. -/
theorem Run.eq_of_begins (run : Run start h w) {m' : Moment} (mem : m ∈ h) (mem' : m' ∈ h)
    (begins : m.begins = true) (begins' : m'.begins = true) (same : m'.strand = m.strand) :
    m' = m := by
  induction run with
  | start => cases mem
  | next run step ih =>
    rcases List.mem_cons.mp mem with rfl | older
    · rcases List.mem_cons.mp mem' with rfl | older'
      · rfl
      · exact absurd same (Nat.ne_of_lt (run.strand_fresh step begins m' older'))
    · rcases List.mem_cons.mp mem' with rfl | older'
      · exact absurd same.symm (Nat.ne_of_lt (run.strand_fresh step begins' m older))
      · exact ih older older'

theorem Run.advances (run : Run start h w) (mem : m ∈ h) (begins : m.begins = true) :
    m.activity.action.Advances m.before m.issues m.rest m.after := by
  obtain ⟨_, v, v', _, step⟩ := run.moment mem
  exact step.advances begins

/-- What holds after a moment and is left so by all later ones holds between them and at the end. -/
theorem Run.stable {p : Console → Prop} (run : Run start (later ++ m :: earlier) w)
    (kept : ∀ m' ∈ later, p m'.before → p m'.after) (now : p m.after) :
    p w.console ∧ ∀ m' ∈ later, p m'.before := by
  induction later generalizing w with
  | nil =>
    cases run with
    | next run step =>
      rw [step.after_eq] at now
      exact ⟨now, by simp⟩
  | cons m' later ih =>
    cases run with
    | next run step =>
      obtain ⟨now, all⟩ := ih run fun n hn => kept n (List.mem_cons_of_mem _ hn)
      rw [← step.before_eq] at now
      constructor
      · rw [← step.after_eq]
        exact kept m' List.mem_cons_self now
      · intro n hn
        rcases List.mem_cons.mp hn with rfl | hn
        · exact now
        · exact all n hn

/-- What is known of the rest of every activity, whatever the others do to the state meanwhile, and
what therefore comes of every moment. -/
theorem Run.each (known : Console → Strand → Prop) {comes : Moment → Prop} (run : Run start h w)
    (mono : ∀ {s t strand}, known s strand → known t strand)
    (begins : ∀ m : Moment, m.reply = none →
      m.activity.action.Advances m.before m.issues m.rest m.after →
      comes m ∧ known m.after ⟨m.activity, m.rest⟩)
    (answers : ∀ (m : Moment) x reply, m.reply = some reply → known m.before ⟨m.activity, x⟩ →
      x.Takes m.before reply m.issues m.rest m.after →
      comes m ∧ known m.after ⟨m.activity, m.rest⟩) :
    (∀ m ∈ h, comes m) ∧
      ∀ (n : Nat) strand, w.strands[n]? = some strand → known w.console strand := by
  induction run with
  | start => simp
  | @next h m v w run step ih =>
    obtain ⟨all, rests⟩ := ih
    have here : comes m ∧ known m.after ⟨m.activity, m.rest⟩ := by
      cases answered : m.reply with
      | none => exact begins m answered (step.advances (congrArg Option.isNone answered))
      | some reply =>
        obtain ⟨x, there, takes⟩ := step.takes answered
        exact answers m x reply answered (mono (rests _ _ there)) takes
    refine ⟨List.forall_mem_cons.mpr ⟨here.1, all⟩, fun n strand there => ?_⟩
    rw [← step.after_eq]
    rcases step.strand_cases there with ⟨rfl, rfl⟩ | ⟨-, there⟩
    · exact here.2
    · exact mono (rests n strand there)

end PoolConsole
