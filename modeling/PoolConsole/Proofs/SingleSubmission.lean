import Mathlib.Algebra.GroupWithZero.Nat
import PoolConsole.Proofs.Run.History
import PoolConsole.Proofs.Run.Submission

/-!
Submissions of the wizard, in every run of the console.

* `Idle`, `Holding`: where the rest of an activity stands without the flag that a submission is
  under way, and with it.
* `Single`: the invariant; at most one activity holds the flag, and none other awaits a deployment.
* `Turn`: what one step can do to the holder. It is taken, returned or left where it is.
* `single_submission`: at most one deployment is awaited at any time, and each submission that takes
  the flag makes one deployment and gives the flag back.
-/

namespace PoolConsole

open PoolConsole.Action Console

/-- The discipline of an activity that leaves the flag alone and makes no deployment. -/
def apart : Discipline Console :=
  .frame (·.wizard.submitting) fun c _ => c.deploys = false

/-! ## Activities that are no submissions -/

theorem deploys_of_about {k : Call → Prop} (deploy : ∀ r, ¬ k (.deploy r))
    (custom : ∀ r, ¬ k (.deployCustom r)) (c : Call) (_ : Console) (about : k c) :
    c.deploys = false := by
  cases c with
  | deploy r => exact absurd about (deploy r)
  | deployCustom r => exact absurd about (custom r)
  | _ => rfl

theorem confined_submitting (a : Activity) (other : a.submits = false) :
    a.action.Confined (·.wizard.submitting) fun c _ => c.deploys = false := by
  have may {k : Call → Prop} := deploys_of_about (k := k)
  cases a with
  | session a =>
    exact SessionActivity.confined (may (fun _ => id) fun _ => id) (fun _ _ => rfl) (fun _ _ => rfl)
      (fun _ _ => rfl) a fun _ _ _ => rfl
  | jobs a =>
    exact JobActivity.confined (fun _ _ => rfl) (fun _ _ _ => rfl) (may (fun _ => id) fun _ => id) a
      fun _ _ _ _ => rfl
  | wizard a =>
    refine WizardActivity.confined (fun _ _ => id) (may (fun _ => id) fun _ => id) a ?_
    rintro what rfl
    cases other
  | nodes a => exact NodeActivity.confined (fun _ _ => rfl) (may (fun _ => id) fun _ => id) a
  | views a =>
    exact ViewActivity.confined (fun _ _ => rfl) (fun _ _ => rfl) (fun _ _ => rfl) (fun _ _ => rfl)
      (fun _ _ => rfl) (may (fun _ => id) fun _ => id) a fun _ _ _ => rfl

/-! ## Submissions -/

/-- What a submission that has taken the flag ends with. -/
abbrev Released {α : Type} : α → Console → Console → Prop :=
  fun _ _ t => t.wizard.submitting = false

/-- However a submission is concluded, it gives the flag back. -/
theorem obeys_concludeSubmission (result : Outcome Unit) (success : String) (s : Console) :
    (Operation.concludeSubmission result success).Obeys apart Released s s := by
  have finishes : (Operation.finishSubmission result success).Confined (·.wizard.submitting)
      fun c _ => c.deploys = false := by
    refine Operation.finishSubmission_confined (fun _ _ _ => rfl) (fun _ _ _ => rfl) ?_ result success
    intro result c
    cases result <;> rfl
  rw [Operation.concludeSubmission, bind_eq, obeys_bind]
  exact (finishes.obeys s s rfl).imp fun _ => rfl

inductive Begins (s : Console) : List (Issue Console) → Action Console (Outcome Notice) →
    Console → Prop where
  | refused (e : PoolError) : e.Refuses → Begins s [] (.done (.error e)) s
  | taken (c : Call) (next : Outcome c.Answer → Action Console (Outcome Notice)) (t : Console) :
      s.wizard.submitting = false → t.wizard.submitting = true → c.deploys = true →
      (∀ r u, (next r).Obeys apart Released u u) → Begins s [⟨c, t⟩] (.call c next) t

theorem advances_submit {what : Submission} {s t : Console} {issues x}
    (h : (WizardActivity.submit what).action.Advances s issues x t) : Begins s issues x t := by
  cases advances_submission h with
  | refused _ e refuses => exact .refused e refuses
  | filledIn r success free =>
    exact .taken (.deploy r) _ _ free rfl rfl fun answer u => obeys_concludeSubmission answer _ u
  | custom r success free =>
    exact .taken (.deployCustom r) _ _ free rfl rfl
      fun answer u => obeys_concludeSubmission answer _ u

/-! ## The holder of the flag -/

structure Idle {α : Type} (c : Console) (rest : Action Console α) : Prop where
  poised : rest.Poised apart (Unchanged (·.wizard.submitting)) c
  awaits : rest.awaited.countP Call.deploys = 0

structure Holding {α : Type} (c : Console) (rest : Action Console α) : Prop where
  poised : rest.Poised apart Released c
  awaits : rest.awaited.countP Call.deploys ≤ 1
  unfinished : rest.value? = none

/-- At most one activity holds the flag, which is set as long as one does. -/
structure Single (w : World) (holder : Option Nat) : Prop where
  flag : w.console.wizard.submitting = holder.isSome
  idle : ∀ n strand, w.strands[n]? = some strand → holder ≠ some n → Idle w.console strand.rest
  holding : ∀ n, holder = some n →
    ∃ strand, w.strands[n]? = some strand ∧ Holding w.console strand.rest

namespace Moment

def deployments (m : Moment) : Nat :=
  m.issues.countP fun i => i.call.deploys

/-- The activity takes the flag. -/
def Acquires (m : Moment) : Prop :=
  m.before.wizard.submitting = false ∧ m.after.wizard.submitting = true

theorem not_acquires {m : Moment} (same : m.after.wizard.submitting = m.before.wizard.submitting) :
    ¬ m.Acquires := by
  rintro ⟨free, held⟩
  rw [same, free] at held
  cases held

end Moment

inductive Turn (m : Moment) : Option Nat → Option Nat → Prop where
  | stays (holder : Option Nat) : ¬ m.Acquires → m.deployments = 0 →
      (holder = some m.strand → m.ends = false) → Turn m holder holder
  | taken : m.Acquires → m.deployments = 1 → m.begins = true → m.ends = false →
      Turn m none (some m.strand)
  | returned : m.after.wizard.submitting = false → m.deployments = 0 → m.ends = true →
      Turn m (some m.strand) none

section
variable {α : Type} {post : α → Console → Console → Prop} {s t : Console}
  {issues : List (Issue Console)} {x y : Action Console α}

theorem deployments_of_fits (fits : x.Fits apart post s issues t) :
    issues.countP (fun i => i.call.deploys) = 0 := by
  rw [List.countP_eq_zero]
  intro i hi deploys
  rw [fits.issue i hi] at deploys
  cases deploys

theorem countP_map_call (issues : List (Issue Console)) :
    (issues.map (·.call)).countP Call.deploys = issues.countP fun i => i.call.deploys := by
  rw [List.countP_map]
  rfl

theorem Idle.advances (run : x.Advances s issues y t)
    (fits : y.Fits apart (Unchanged (·.wizard.submitting)) s issues t) : Idle t y := by
  refine ⟨fits.poised, ?_⟩
  have le := run.awaited_sublist.countP_le (p := Call.deploys)
  rw [countP_map_call, deployments_of_fits fits] at le
  exact Nat.le_zero.mp le

theorem Idle.of_ended {a : α} (ended : x.value? = some a) : Idle s x := by
  cases x with
  | done => exact ⟨trivial, rfl⟩
  | _ => cases ended

/-- An answer does not make an activity wait for more deployments than it did. -/
theorem awaits_le {reply : Reply} (takes : x.Takes s reply issues y t)
    (fits : y.Fits apart post s issues t) :
    y.awaited.countP Call.deploys ≤ x.awaited.countP Call.deploys := by
  have le := takes.awaited_sublist.countP_le (p := Call.deploys)
  rw [List.countP_append, countP_map_call, deployments_of_fits fits] at le
  exact le

end

variable {start : Console} {h : List Moment} {m : Moment} {v w : World} {holder : Option Nat}

theorem Single.lt_length (single : Single v holder) {n : Nat} (holds : holder = some n) :
    n < v.strands.length := by
  obtain ⟨strand, there, _⟩ := single.holding n holds
  exact (List.getElem?_eq_some_iff.mp there).1

/-- What one step has to see to for the invariant. -/
theorem Single.next (single : Single v holder) (step : Step v m w) (holder' : Option Nat)
    (flag : m.after.wizard.submitting = holder'.isSome)
    (others : ∀ n, n ≠ m.strand → (holder = some n ↔ holder' = some n))
    (idle : holder' ≠ some m.strand → Idle m.after m.rest)
    (holding : holder' = some m.strand → Holding m.after m.rest) : Single w holder' := by
  rw [step.after_eq] at flag idle holding
  refine ⟨flag, ?_, ?_⟩
  · intro n strand there free
    rcases step.strand_cases there with ⟨rfl, rfl⟩ | ⟨other, there⟩
    · exact idle free
    · have free' : holder ≠ some n := fun holds => free ((others n other).mp holds)
      obtain ⟨poised, awaits⟩ := single.idle n strand there free'
      exact ⟨poised.mono trivial, awaits⟩
  · intro n holds
    by_cases here : n = m.strand
    · subst here
      exact ⟨_, step.strand_after, holding holds⟩
    · obtain ⟨strand, there, poised, awaits, unfinished⟩ :=
        single.holding n ((others n here).mpr holds)
      exact ⟨strand, step.strand_left here there, poised.mono trivial, awaits, unfinished⟩

theorem Single.begin_other (single : Single v holder) {a : Activity} (other : a.submits = false)
    {issues rest after} (advances : a.action.Advances v.console issues rest after) :
    ∃ holder', Turn ⟨v.strands.length, a, none, v.console, after, issues, rest⟩ holder holder' ∧
      Single ⟨after, v.strands ++ [⟨a, rest⟩]⟩ holder' := by
  have fits := (confined_submitting a other).poised rfl advances
  have same : after.wizard.submitting = v.console.wizard.submitting := fits.unchanged
  have absent : holder ≠ some v.strands.length :=
    fun holds => Nat.lt_irrefl _ (single.lt_length holds)
  refine ⟨holder, .stays holder (Moment.not_acquires same) (deployments_of_fits fits)
    (fun holds => absurd holds absent), ?_⟩
  refine single.next (.begin a advances) holder (same.trans single.flag) (fun _ _ => Iff.rfl) ?_ ?_
  · exact fun _ => .advances advances fits
  · exact fun holds => absurd holds absent

theorem Single.begin_submission (single : Single v holder) {what : Submission} {issues rest after}
    (advances : (WizardActivity.submit what).action.Advances v.console issues rest after) :
    ∃ holder', Turn ⟨v.strands.length, .wizard (.submit what), none, v.console, after, issues, rest⟩
        holder holder' ∧
      Single ⟨after, v.strands ++ [⟨.wizard (.submit what), rest⟩]⟩ holder' := by
  have step := Step.begin (.wizard (.submit what)) advances
  have absent : holder ≠ some v.strands.length :=
    fun holds => Nat.lt_irrefl _ (single.lt_length holds)
  cases advances_submit advances with
  | refused e _ =>
    refine ⟨holder, .stays holder (Moment.not_acquires rfl) rfl
      (fun holds => absurd holds absent), ?_⟩
    refine single.next step holder single.flag (fun _ _ => Iff.rfl) ?_ ?_
    · exact fun _ => ⟨trivial, rfl⟩
    · exact fun holds => absurd holds absent
  | taken c next t free held deploys gives =>
    have vacant : holder = none := by
      rw [single.flag, Option.isSome_eq_false_iff, Option.isNone_iff_eq_none] at free
      exact free
    subst vacant
    refine ⟨some v.strands.length, .taken ⟨free, held⟩ ?_ rfl rfl, ?_⟩
    · simp [Moment.deployments, deploys]
    · refine single.next step _ held ?_ ?_ ?_
      · intro n other
        refine iff_of_false nofun ?_
        rintro ⟨⟩
        exact other rfl
      · exact fun free => absurd rfl free
      · intro _
        exact ⟨fun r u _ => gives r u, List.countP_le_length, rfl⟩

theorem Single.answer (single : Single v holder) {n : Nat} {strand : Strand} {reply : Reply}
    {issues rest after} (there : v.strands[n]? = some strand)
    (takes : strand.rest.Takes v.console reply issues rest after) :
    ∃ holder', Turn ⟨n, strand.activity, some reply, v.console, after, issues, rest⟩
        holder holder' ∧
      Single ⟨after, v.strands.set n ⟨strand.activity, rest⟩⟩ holder' := by
  have step := Step.answer n strand reply there takes
  by_cases holds : holder = some n
  · obtain ⟨_, there', poised, awaits, _⟩ := single.holding n holds
    rw [there, Option.some.injEq] at there'
    subst there' holds
    have fits := takes.obeys poised
    have stepped := fits.step
    cases ends : rest.value? with
    | none =>
      rw [ends] at stepped
      have same : after.wizard.submitting = v.console.wizard.submitting := stepped
      refine ⟨some n, .stays (some n) (Moment.not_acquires same) (deployments_of_fits fits)
        (fun _ => congrArg Option.isSome ends), ?_⟩
      refine single.next step _ (same.trans single.flag) (fun _ _ => Iff.rfl) ?_ ?_
      · exact fun free => absurd rfl free
      · exact fun _ => ⟨fits.poised, Nat.le_trans (awaits_le takes fits) awaits, ends⟩
    | some r =>
      rw [ends] at stepped
      have free : after.wizard.submitting = false := stepped
      refine ⟨none, .returned free (deployments_of_fits fits) (congrArg Option.isSome ends), ?_⟩
      refine single.next step none free ?_ ?_ nofun
      · intro k other
        refine iff_of_false ?_ nofun
        rintro ⟨⟩
        exact other rfl
      · exact fun _ => .of_ended ends
  · obtain ⟨poised, awaits⟩ := single.idle n strand there holds
    have fits := takes.obeys poised
    have same : after.wizard.submitting = v.console.wizard.submitting := fits.unchanged
    refine ⟨holder, .stays holder (Moment.not_acquires same) (deployments_of_fits fits)
      (fun held => absurd held holds), ?_⟩
    refine single.next step holder (same.trans single.flag) (fun _ _ => Iff.rfl) ?_ ?_
    · exact fun _ => ⟨fits.poised, Nat.le_zero.mp (awaits ▸ awaits_le takes fits)⟩
    · exact fun held => absurd held holds

theorem Single.step (single : Single v holder) (step : Step v m w) :
    ∃ holder', Turn m holder holder' ∧ Single w holder' := by
  cases step with
  | begin a advances =>
    cases submits : a.submits with
    | false => exact single.begin_other submits advances
    | true =>
      cases a with
      | wizard a =>
        cases a with
        | submit what => exact single.begin_submission advances
        | _ => cases submits
      | _ => cases submits
  | answer n strand reply there takes => exact single.answer there takes

/-! ## Runs -/

/-- How many deployments the activity of a number has asked for. -/
def deployments (h : List Moment) (n : Nat) : Nat :=
  ((h.filter fun m => m.strand = n).map Moment.deployments).sum

theorem deployments_cons_of_ne {n : Nat} (other : m.strand ≠ n) :
    deployments (m :: h) n = deployments h n := by
  simp [deployments, other]

theorem deployments_cons_of_none (free : m.deployments = 0) (n : Nat) :
    deployments (m :: h) n = deployments h n := by
  by_cases here : m.strand = n
  · simp [deployments, here, free]
  · exact deployments_cons_of_ne here

theorem deployments_cons_self (h : List Moment) (m : Moment) :
    deployments (m :: h) m.strand = m.deployments + deployments h m.strand := by
  simp [deployments]

theorem deployments_of_absent {n : Nat} (absent : ∀ m ∈ h, m.strand ≠ n) : deployments h n = 0 := by
  rw [deployments, List.filter_eq_nil_iff.mpr (by simpa using absent)]
  rfl

structure Ledger (h : List Moment) (w : World) (holder : Option Nat) : Prop where
  single : Single w holder
  taken : ∀ n, holder = some n → ∃ m ∈ h, m.Acquires ∧ m.strand = n
  returned : ∀ m ∈ h, m.Acquires → holder = some m.strand ∨ w.Ended m.strand
  once : ∀ m ∈ h, m.Acquires → deployments h m.strand = 1
  free : ∀ m ∈ h, m.Acquires → ∀ m' ∈ h, m'.strand = m.strand → m'.ends = true →
    m'.after.wizard.submitting = false

section
variable {holder' : Option Nat}

theorem Turn.of_acquires (turn : Turn m holder holder') (acquires : m.Acquires) :
    holder = none ∧ holder' = some m.strand ∧ m.begins = true ∧ m.deployments = 1 := by
  cases turn with
  | stays _ not => exact absurd acquires not
  | taken _ once begins => exact ⟨rfl, rfl, begins, once⟩
  | returned free =>
    rw [acquires.2] at free
    cases free

theorem Ledger.returned_next (ledger : Ledger h v holder) (step : Step v m w)
    (turn : Turn m holder holder') :
    ∀ m' ∈ m :: h, m'.Acquires → holder' = some m'.strand ∨ w.Ended m'.strand := by
  intro m' mem acquires
  rcases List.mem_cons.mp mem with rfl | mem
  · exact .inl (turn.of_acquires acquires).2.1
  · rcases ledger.returned m' mem acquires with holds | ended
    · cases turn with
      | stays => exact .inl holds
      | taken => cases holds
      | returned _ _ ends =>
        have same : m.strand = m'.strand := Option.some.inj holds
        exact .inr (same ▸ step.ended_here ends)
    · exact .inr (step.ended ended).2

theorem Ledger.once_next (ledger : Ledger h v holder) (run : Run start h v) (step : Step v m w)
    (turn : Turn m holder holder') :
    ∀ m' ∈ m :: h, m'.Acquires → deployments (m :: h) m'.strand = 1 := by
  intro m' mem acquires
  rcases List.mem_cons.mp mem with rfl | mem
  · obtain ⟨-, -, begins, once⟩ := turn.of_acquires acquires
    have fresh := run.strand_fresh step begins
    rw [deployments_cons_self, once, deployments_of_absent fun m mem => Nat.ne_of_lt (fresh m mem)]
  · rw [← ledger.once m' mem acquires]
    cases turn with
    | stays _ _ free => exact deployments_cons_of_none free _
    | taken _ _ begins =>
      exact deployments_cons_of_ne (Nat.ne_of_gt (run.strand_fresh step begins m' mem))
    | returned _ free => exact deployments_cons_of_none free _

theorem Ledger.free_next (ledger : Ledger h v holder) (run : Run start h v) (step : Step v m w)
    (turn : Turn m holder holder') :
    ∀ m' ∈ m :: h, m'.Acquires → ∀ n ∈ m :: h, n.strand = m'.strand → n.ends = true →
      n.after.wizard.submitting = false := by
  intro m' mem acquires n memN same ends
  rcases List.mem_cons.mp mem with rfl | older
  · obtain ⟨-, -, begins, -⟩ := turn.of_acquires acquires
    rcases List.mem_cons.mp memN with rfl | memN
    · cases turn with
      | stays _ not => exact absurd acquires not
      | taken _ _ _ unfinished =>
        rw [ends] at unfinished
        cases unfinished
      | returned free => exact free
    · exact absurd same (Nat.ne_of_lt (run.strand_fresh step begins n memN))
  · rcases List.mem_cons.mp memN with rfl | memN
    · cases turn with
      | stays _ _ _ unfinished =>
        rcases ledger.returned m' older acquires with holds | ended
        · rw [unfinished (same ▸ holds)] at ends
          cases ends
        · exact absurd same.symm (step.ended ended).1
      | taken _ _ _ unfinished =>
        rw [ends] at unfinished
        cases unfinished
      | returned free => exact free
    · exact ledger.free m' older acquires n memN same ends

end

theorem Ledger.next (ledger : Ledger h v holder) (run : Run start h v) (step : Step v m w) :
    ∃ holder', Ledger (m :: h) w holder' := by
  obtain ⟨holder', turn, single⟩ := ledger.single.step step
  refine ⟨holder', single, ?_, ledger.returned_next step turn, ledger.once_next run step turn,
    ledger.free_next run step turn⟩
  intro n holds
  cases turn with
  | stays =>
    obtain ⟨m', mem, acquires⟩ := ledger.taken n holds
    exact ⟨m', List.mem_cons_of_mem _ mem, acquires⟩
  | taken acquires =>
    cases holds
    exact ⟨m, List.mem_cons_self, acquires, rfl⟩
  | returned => cases holds

theorem Run.ledger (run : Run start h w) (fresh : start.wizard = {}) :
    ∃ holder, Ledger h w holder := by
  induction run with
  | start =>
    refine ⟨none, ⟨?_, by simp, nofun⟩, nofun, by simp, by simp, by simp⟩
    rw [fresh]
    rfl
  | next run step ih =>
    obtain ⟨holder, ledger⟩ := ih
    exact ledger.next run step

/-- Where all lists but one count nothing, all together count what the one does. -/
theorem countP_flatMap_le {α β : Type} {p : β → Bool} {f : α → List β} {l : List α} {n : Nat}
    (others : ∀ i x, l[i]? = some x → i ≠ n → (f x).countP p = 0)
    (here : ∀ x, l[n]? = some x → (f x).countP p ≤ 1) : (l.flatMap f).countP p ≤ 1 := by
  induction l generalizing n with
  | nil => simp
  | cons x l ih =>
    rw [List.flatMap_cons, List.countP_append]
    cases n with
    | zero =>
      have rest : (l.flatMap f).countP p = 0 := by
        rw [List.countP_flatMap, List.sum_eq_zero_iff_forall_eq_nat]
        intro k counted
        obtain ⟨y, mem, rfl⟩ := List.mem_map.mp counted
        obtain ⟨i, there⟩ := List.mem_iff_getElem?.mp mem
        exact others (i + 1) y there (Nat.succ_ne_zero i)
      rw [rest]
      exact here x rfl
    | succ n =>
      rw [others 0 x rfl (Nat.succ_ne_zero n).symm, Nat.zero_add]
      refine ih (n := n) ?_ here
      intro i y there other
      exact others (i + 1) y there (fun eq => other (Nat.succ.inj eq))

theorem Single.countP_awaited (single : Single w holder) :
    (w.strands.flatMap fun s => s.rest.awaited).countP Call.deploys ≤ 1 := by
  cases holder with
  | none =>
    refine countP_flatMap_le (n := w.strands.length) ?_ (by simp)
    intro i strand there _
    exact (single.idle i strand there nofun).awaits
  | some n =>
    refine countP_flatMap_le (n := n) ?_ ?_
    · intro i strand there other
      refine (single.idle i strand there ?_).awaits
      rintro ⟨⟩
      exact other rfl
    · intro strand there
      obtain ⟨_, there', holding⟩ := single.holding n rfl
      rw [there, Option.some.injEq] at there'
      subst there'
      exact holding.awaits

/-- Only a submission takes the flag, and it does so as it begins. -/
theorem Run.acquirer (run : Run start h w) (fresh : start.wizard = {}) (mem : m ∈ h)
    (acquires : m.Acquires) : m.begins = true ∧ m.activity.submits = true := by
  obtain ⟨_, v, v', prior, step⟩ := run.moment mem
  obtain ⟨holder, ledger⟩ := prior.ledger fresh
  obtain ⟨_, turn, _⟩ := ledger.single.step step
  have begins := (turn.of_acquires acquires).2.2.1
  refine ⟨begins, ?_⟩
  cases submits : m.activity.submits with
  | true => rfl
  | false =>
    have fits := (confined_submitting _ submits).poised rfl (step.advances begins)
    exact absurd acquires (Moment.not_acquires fits.unchanged)

structure SingleSubmission (h : List Moment) (w : World) : Prop where
  awaited : (w.strands.flatMap fun s => s.rest.awaited).countP Call.deploys ≤ 1
  /-- The flag is set as long as a submission that has taken it has not come to its end. -/
  submitting : w.console.wizard.submitting = true ↔
    ∃ m ∈ h, m.Acquires ∧ ¬ w.Ended m.strand
  acquirer : ∀ m ∈ h, m.Acquires → m.begins = true ∧ m.activity.submits = true
  deploys : ∀ m ∈ h, m.Acquires → deployments h m.strand = 1
  /-- A submission that does not get the flag is refused before it does anything. -/
  refused : ∀ n what before after issues rest,
    let m : Moment := ⟨n, .wizard (.submit what), none, before, after, issues, rest⟩
    m ∈ h → ¬ m.Acquires →
      issues = [] ∧ after = before ∧ ∃ e : PoolError, e.Refuses ∧ rest = .done (.error e)
  returns : ∀ m ∈ h, m.Acquires → ∀ m' ∈ h, m'.strand = m.strand → m'.ends = true →
    m'.after.wizard.submitting = false

theorem single_submission (run : Run start h w) (fresh : start.wizard = {}) :
    SingleSubmission h w := by
  obtain ⟨holder, ledger⟩ := run.ledger fresh
  constructor
  case awaited => exact ledger.single.countP_awaited
  case submitting =>
    rw [ledger.single.flag]
    constructor
    · intro held
      obtain ⟨n, holds⟩ := Option.isSome_iff_exists.mp held
      obtain ⟨m, mem, acquires, rfl⟩ := ledger.taken n holds
      refine ⟨m, mem, acquires, ?_⟩
      rintro ⟨strand, there, ended⟩
      obtain ⟨_, there', holding⟩ := ledger.single.holding m.strand holds
      rw [there, Option.some.injEq] at there'
      subst there'
      rw [holding.unfinished] at ended
      cases ended
    · rintro ⟨m, mem, acquires, unfinished⟩
      rcases ledger.returned m mem acquires with holds | ended
      · rw [holds]
        rfl
      · exact absurd ended unfinished
  case acquirer => exact fun m mem acquires => run.acquirer fresh mem acquires
  case deploys => exact ledger.once
  case refused =>
    intro n what before after issues rest m mem not
    have begins : Begins before issues rest after := advances_submit (run.advances mem rfl)
    cases begins with
    | refused e refuses => exact ⟨rfl, rfl, e, refuses, rfl⟩
    | taken c next t free held => exact absurd ⟨free, held⟩ not
  case returns => exact ledger.free

/-- Two submissions race: the second is refused, and the first gives the flag back. -/
theorem submitting_after_race :
    ∃ h w, Run {} h w ∧ deployments h 0 = 1 ∧ w.console.wizard.submitting = false := by
  let submission : Activity := .wizard (.submit (.custom "kind: Job" ∅ none))
  have first := Run.next (@Run.start {})
    (.begin submission (.get (.get (.get (.set (.call _ _ _))))))
  have second := first.next (.begin submission (.get (.get (.get (.set (.done _ _))))))
  have answered := second.next (.answer 0 _ ⟨.deployCustom _, .ok ()⟩ rfl
    (.call _ (.get (.get (.set (.get (.get (.get (.set (.done _ _))))))))))
  have kept := single_submission answered rfl
  refine ⟨_, _, answered, ?_, ?_⟩
  · exact kept.deploys _ (.tail _ (.tail _ (.head _))) ⟨rfl, rfl⟩
  · exact kept.returns _ (.tail _ (.tail _ (.head _))) ⟨rfl, rfl⟩ _ (.head _) rfl rfl

end PoolConsole
