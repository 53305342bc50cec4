import PoolConsole.Proofs.Run.Opening

/-!
The template chosen in the wizard, in every run of the console.

* `choice?`, `answer?`: which choice of a template counts after a history, and what its definition
  has been answered with.
* `shown`: what the wizard then shows of the template, read off the history alone.
* `Tracked`: the invariant; an activity that still waits for a definition holds the latest ticket
  exactly if its choice counts.
* `template_coherent`: template, definition, form and loading flag fit together in every run, and
  the answer to a superseded choice changes nothing.
-/

namespace PoolConsole

open PoolConsole.Action Console

/-! ## What the wizard shows of a template -/

/-- What the wizard shows of the template that is chosen. -/
structure Picked where
  template : Option String := none
  definition : Option TemplateDefinition := none
  loading : Bool := false
  params : List Param := []

namespace Wizard

def picked (w : Wizard) : Picked where
  template := w.view.template
  definition := w.view.definition
  loading := w.view.loading
  params := w.view.form.params

/-- All that the choice of a template is about. -/
def core (w : Wizard) : Nat × WizardStep × Picked :=
  (w.chosen, w.view.step, w.picked)

end Wizard

namespace Wizard

theorem core_setParam (w : Wizard) (name raw : String) : (w.setParam name raw).2.core = w.core := by
  unfold setParam
  split
  next form h => simp [core, picked, edit, ParameterForm.params_setInput h]
  next => rfl

theorem core_toggleParam (w : Wizard) (name : String) : (w.toggleParam name).2.core = w.core := by
  unfold toggleParam
  split
  next b form h => simp [core, picked, edit, ParameterForm.params_toggle h]
  next => rfl

end Wizard

/-! ## Activities that leave the choice alone -/

def Activity.chooses : Activity → Bool
  | .wizard .reopen | .wizard .next | .wizard .back | .wizard (.select _) => true
  | _ => false

def unmoved : Discipline Console :=
  .frame (·.wizard.core) fun _ _ => True

theorem loadChoices_unmoved :
    Operation.loadChoices.Confined (·.wizard.core) fun _ _ => True :=
  Operation.loadChoices_confined (fun _ _ _ => trivial) (fun _ _ => rfl) fun _ _ _ => rfl

theorem confined_core (a : Activity) (other : a.chooses = false) :
    a.action.Confined (·.wizard.core) fun _ _ => True := by
  refine a.confined_wizard fun b is => ?_
  subst is
  cases b with
  | reopen | next | back | select => cases other
  | close => exact confined_modifyWizard (f := fun w => w.edit _) fun _ => rfl
  | removeTarget key value =>
    exact confined_modifyWizard (f := fun w => w.removeTarget key value) fun _ => rfl
  | setMode mode => exact confined_modifyWizard (f := fun w => w.setMode mode) fun _ => rfl
  | setName name => exact confined_modifyWizard (f := fun w => w.setName name) fun _ => rfl
  | setParam name raw =>
    exact confined_updateWizard (f := fun w => w.setParam name raw)
      fun c => c.wizard.core_setParam name raw
  | toggleParam name =>
    exact confined_updateWizard (f := fun w => w.toggleParam name)
      fun c => c.wizard.core_toggleParam name
  | addTarget text =>
    exact confined_updateWizard fun c => c.wizard.addTarget_keeps (fun _ => rfl) text
  | submit what =>
    exact Operation.submission_confined (fun _ _ => rfl)
      (fun r c => c.wizard.settle_keeps (fun _ _ => rfl) r) (fun _ _ _ => rfl)
      (fun _ _ _ => trivial) (fun _ _ _ => trivial) what

/-! ## What a history says of the choice -/

namespace Moment

/-- What becomes of the choice in the moment: a template is chosen by the activity of the number, or
the wizard is opened afresh, with nothing chosen. -/
def choice? (m : Moment) : Option (Option (Nat × String)) :=
  match m.reply, m.activity with
  | none, .wizard .reopen => some none
  | none, .wizard (.select name) => some (some (m.strand, name))
  | _, _ => none

/-- The definition that the activity of a number is given in the moment, or why it gets none. -/
def answer? (n : Nat) (m : Moment) : Option (Outcome TemplateDefinition) :=
  match m.reply with
  | some ⟨.template _, r⟩ => if m.strand = n then some r else none
  | _ => none

theorem answer?_of_ne {m : Moment} {n : Nat} (other : m.strand ≠ n) : m.answer? n = none := by
  unfold answer?
  split
  · exact if_neg other
  · rfl

theorem answer?_of_template {m : Moment} {name : String} {r : Outcome TemplateDefinition}
    (h : m.reply = some ⟨.template name, r⟩) : m.answer? m.strand = some r := by
  unfold answer?
  rw [h]
  exact if_pos rfl

theorem eq_of_choice? {m : Moment} {n : Nat} {name : String}
    (h : m.choice? = some (some (n, name))) :
    n = m.strand ∧ m.activity = .wizard (.select name) := by
  unfold choice? at h
  split at h
  next => cases h
  next activity =>
    cases h
    exact ⟨rfl, activity⟩
  next => cases h

end Moment

/-- The choice that counts: the latest one, unless the wizard has been opened since. -/
def choice? (h : List Moment) : Option (Nat × String) :=
  (h.findSome? Moment.choice?).join

/-- What the choice made by the activity of a number has been answered with. -/
def answer? (h : List Moment) (n : Nat) : Option (Outcome TemplateDefinition) :=
  h.findSome? (Moment.answer? n)

/-- What is shown of a template, by what its definition has been answered with. -/
def Picked.of (name : String) : Option (Outcome TemplateDefinition) → Picked
  | none => { template := some name, loading := true }
  | some (.ok d) => { template := some name, definition := some d, params := d.params }
  | some (.error _) => { template := some name }

theorem Picked.template_of (name : String) (answer : Option (Outcome TemplateDefinition)) :
    (Picked.of name answer).template = some name := by
  cases answer with
  | none => rfl
  | some r => cases r <;> rfl

/-- What the wizard shows of the template after a history. -/
def shown (h : List Moment) : Picked :=
  match choice? h with
  | none => {}
  | some (n, name) => .of name (answer? h n)

section
variable {h : List Moment} {m : Moment} {n : Nat}

theorem choice?_cons_of_none (none : m.choice? = .none) : choice? (m :: h) = choice? h := by
  rw [choice?, List.findSome?_cons, none]
  rfl

theorem choice?_cons_of_some {c : Option (Nat × String)} (some : m.choice? = .some c) :
    choice? (m :: h) = c := by
  rw [choice?, List.findSome?_cons, some]
  rfl

theorem answer?_cons_of_none (none : m.answer? n = .none) : answer? (m :: h) n = answer? h n := by
  rw [answer?, List.findSome?_cons, none]
  rfl

theorem answer?_cons_of_some {r : Outcome TemplateDefinition} (some : m.answer? n = .some r) :
    answer? (m :: h) n = .some r := by
  rw [answer?, List.findSome?_cons, some]

theorem answer?_of_absent (absent : ∀ m ∈ h, m.strand ≠ n) : answer? h n = none :=
  List.findSome?_eq_none_iff.mpr fun m mem => Moment.answer?_of_ne (absent m mem)

theorem shown_of_choice {name : String} (choice : choice? h = some (n, name)) :
    shown h = .of name (answer? h n) := by
  rw [shown, choice]

theorem shown_definition {d : TemplateDefinition} (found : (shown h).definition = some d) :
    ∃ n name, choice? h = some (n, name) ∧ answer? h n = some (.ok d) ∧
      (shown h).template = some name ∧ (shown h).params = d.params := by
  cases choice : choice? h with
  | none =>
    rw [shown, choice] at found
    cases found
  | some c =>
    obtain ⟨n, name⟩ := c
    rw [shown_of_choice choice] at found ⊢
    cases answer : answer? h n with
    | none =>
      rw [answer] at found
      cases found
    | some r =>
      rw [answer] at found
      cases r with
      | error e => cases found
      | ok d' =>
        cases found
        exact ⟨n, name, rfl, answer, rfl, rfl⟩

theorem shown_blank (absent : (shown h).definition = none) : (shown h).params = [] := by
  cases choice : choice? h with
  | none =>
    rw [shown, choice]
  | some c =>
    obtain ⟨n, name⟩ := c
    rw [shown_of_choice choice] at absent ⊢
    cases answer : answer? h n with
    | none => rfl
    | some r =>
      rw [answer] at absent
      cases r with
      | error e => rfl
      | ok d => cases absent

theorem shown_loading :
    (shown h).loading = true ↔ ∃ n name, choice? h = some (n, name) ∧ answer? h n = none := by
  cases choice : choice? h with
  | none => simp [shown, choice]
  | some c =>
    obtain ⟨n, name⟩ := c
    rw [shown_of_choice choice]
    cases answer : answer? h n with
    | none => exact iff_of_true rfl ⟨n, name, rfl, answer⟩
    | some r => cases r <;> simp [Picked.of, answer]

theorem shown_cons (choice : m.choice? = none)
    (answer : ∀ n name, choice? h = some (n, name) → m.answer? n = none) :
    shown (m :: h) = shown h := by
  unfold shown
  rw [choice?_cons_of_none choice]
  cases found : choice? h with
  | none => rfl
  | some c =>
    obtain ⟨n, name⟩ := c
    simp only [answer?_cons_of_none (answer n name found)]

end

/-! ## The invariant -/

/-- The rest of a choice whose definition is awaited. -/
def selecting (name : String) (ticket : Ticket) : Action Console (Outcome LoadOutcome) :=
  .call (.template name) fun result => onWizard (.update fun w => w.complete ticket result)

inductive Stands (h : List Moment) (c : Console) (n : Nat) : Strand → Prop where
  | selected (name : String) (outcome : Outcome LoadOutcome) :
      Stands h c n ⟨.wizard (.select name), .done outcome⟩
  | selecting (name : String) (ticket : Ticket) :
      ticket.generation ≤ c.wizard.chosen → answer? h n = none →
      (ticket.generation = c.wizard.chosen ↔ choice? h = some (n, name)) →
      Stands h c n ⟨.wizard (.select name), selecting name ticket⟩
  | other (a : Activity) (rest : Action Console a.Result) :
      (∀ name, a ≠ .wizard (.select name)) → rest.Poised unmoved (Unchanged (·.wizard.core)) c →
      Stands h c n ⟨a, rest⟩

structure Tracked (h : List Moment) (w : World) : Prop where
  picked : w.console.wizard.picked = shown h
  step : w.console.wizard.view.step ≠ .selectTemplate →
    w.console.wizard.view.template.isSome = true
  chosen : ∀ n name, choice? h = some (n, name) →
    ∃ rest, w.strands[n]? = some ⟨.wizard (.select name), rest⟩
  stands : ∀ n strand, w.strands[n]? = some strand → Stands h w.console n strand

variable {start : Console} {h : List Moment} {m : Moment} {v w : World}

/-- The choice moves on exactly when the generation does. -/
def Moment.Counted (m : Moment) : Prop :=
  (m.choice? = none ∧ m.after.wizard.chosen = m.before.wizard.chosen) ∨
  (m.choice?.isSome = true ∧ m.after.wizard.chosen = m.before.wizard.chosen + 1)

/-- A step of another activity leaves an activity where it stands. -/
theorem Stands.cons {n : Nat} {strand : Strand} (stands : Stands h m.before n strand)
    (other : n ≠ m.strand) (counted : m.Counted) : Stands (m :: h) m.after n strand := by
  have answer := answer?_cons_of_none (h := h) (Moment.answer?_of_ne (Ne.symm other))
  cases stands with
  | selected name outcome => exact .selected name outcome
  | selecting name ticket le unanswered latest =>
    rcases counted with ⟨none, same⟩ | ⟨moves, next⟩
    · refine .selecting name ticket (same ▸ le) (answer.trans unanswered) ?_
      rw [same, choice?_cons_of_none none]
      exact latest
    · obtain ⟨c, moves⟩ := Option.isSome_iff_exists.mp moves
      refine .selecting name ticket (by omega) (answer.trans unanswered) ?_
      rw [choice?_cons_of_some moves]
      refine iff_of_false (by omega) ?_
      rintro rfl
      exact other (Moment.eq_of_choice? moves).1
  | other a rest isOther poised => exact .other a rest isOther (poised.mono trivial)

/-- What one step has to see to for the invariant. -/
theorem Tracked.next (tracked : Tracked h v) (step : Step v m w) (counted : m.Counted)
    (picked : m.after.wizard.picked = shown (m :: h))
    (ready : m.after.wizard.view.step ≠ .selectTemplate →
      m.after.wizard.view.template.isSome = true)
    (stands : Stands (m :: h) m.after m.strand ⟨m.activity, m.rest⟩) : Tracked (m :: h) w := by
  rw [step.after_eq] at picked ready
  refine ⟨picked, ready, ?_, ?_⟩
  · intro n name latest
    rcases counted with ⟨none, -⟩ | ⟨moves, -⟩
    · rw [choice?_cons_of_none none] at latest
      obtain ⟨rest, there⟩ := tracked.chosen n name latest
      exact step.strand_kept there
    · obtain ⟨c, moves⟩ := Option.isSome_iff_exists.mp moves
      rw [choice?_cons_of_some moves] at latest
      subst latest
      obtain ⟨rfl, activity⟩ := Moment.eq_of_choice? moves
      obtain ⟨rest, eq⟩ := Strand.eq_mk (s := ⟨m.activity, m.rest⟩) activity
      exact ⟨rest, eq ▸ step.strand_after⟩
  · intro n strand there
    rw [← step.after_eq]
    rcases step.strand_cases there with ⟨rfl, rfl⟩ | ⟨other, there⟩
    · exact stands
    · have before := tracked.stands n strand there
      rw [← step.before_eq] at before
      exact before.cons other counted

/-- A step that leaves template and step alone leaves them as the history says. -/
theorem Tracked.next_unmoved (tracked : Tracked h v) (step : Step v m w)
    (same : m.after.wizard.core = m.before.wizard.core) (choice : m.choice? = none)
    (answer : ∀ n name, choice? h = some (n, name) → m.answer? n = none)
    (stands : Stands (m :: h) m.after m.strand ⟨m.activity, m.rest⟩) : Tracked (m :: h) w := by
  simp only [Wizard.core, Prod.mk.injEq] at same
  obtain ⟨chosen, stepSame, picked⟩ := same
  have template : m.after.wizard.view.template = m.before.wizard.view.template :=
    congrArg Picked.template picked
  refine tracked.next step (.inl ⟨choice, chosen⟩) ?_ ?_ stands
  · rw [picked, step.before_eq, tracked.picked, shown_cons choice answer]
  · rw [stepSame, template, step.before_eq]
    exact tracked.step

theorem advances_selectTemplate {name : String} {s t : Console} {issues x}
    (h : (Operation.selectTemplate name).Advances s issues x t) :
    x = selecting name ⟨s.wizard.chosen + 1⟩ ∧
      t = { s with wizard := (s.wizard.choose name).2 } := by
  simp only [Operation.selectTemplate, onWizard, bind_eq, advances_update_bind, request,
    Action.bind, advances_call] at h
  obtain ⟨-, rfl, rfl⟩ := h
  exact ⟨rfl, rfl⟩

/-- What a choice does with its answer. -/
theorem takes_selecting {name : String} {ticket : Ticket} {s t : Console} {reply issues x}
    (h : (selecting name ticket).Takes s reply issues x t) :
    ∃ r, reply = ⟨.template name, r⟩ ∧ x = .done (s.wizard.complete ticket r).1 ∧
      t = { s with wizard := (s.wizard.complete ticket r).2 } := by
  simp only [selecting, takes_call, onWizard, update, onPart, advances_get, advances_set,
    advances_done] at h
  obtain ⟨r, rfl, -, rfl, rfl⟩ := h
  exact ⟨r, rfl, rfl, rfl⟩

theorem advances_updateWizard {α : Type} {f : Wizard → α × Wizard} {s t : Console} {issues x}
    (h : (onWizard (.update f)).Advances s issues x t) :
    x = .done (f s.wizard).1 ∧ t = { s with wizard := (f s.wizard).2 } := by
  simp only [onWizard, update, onPart, advances_get, advances_set, advances_done] at h
  exact h.2

namespace Wizard

/-- The step moves on only once a template is chosen. -/
theorem ready_next {w : Wizard}
    (ready : w.view.step ≠ .selectTemplate → w.view.template.isSome = true) :
    w.next.2.view.step ≠ .selectTemplate → w.next.2.view.template.isSome = true := by
  unfold next
  split
  next => exact ready
  next passed =>
    intro _
    change w.view.template.isSome = true
    by_cases first : w.view.step = .selectTemplate
    · exact Option.isSome_iff_ne_none.mpr fun none => passed ⟨first, none⟩
    · exact ready first

theorem ready_back {w : Wizard}
    (ready : w.view.step ≠ .selectTemplate → w.view.template.isSome = true) :
    w.back.2.view.step ≠ .selectTemplate → w.back.2.view.template.isSome = true := by
  intro moved
  apply ready
  intro first
  apply moved
  change w.view.step.back = .selectTemplate
  rw [first]
  rfl

/-- A step forward leaves the rest alone. -/
theorem next_unmoved (w : Wizard) : w.next.2.chosen = w.chosen ∧ w.next.2.picked = w.picked := by
  unfold next
  split
  · exact ⟨rfl, rfl⟩
  · exact ⟨rfl, rfl⟩

end Wizard

theorem choice?_of_other {a : Activity} (other : a.chooses = false) (n : Nat) (s t : Console)
    (issues : List (Issue Console)) (rest : Action Console a.Result) :
    (Moment.mk n a none s t issues rest).choice? = none := by
  unfold Moment.choice?
  split
  next activity =>
    cases activity
    cases other
  next activity =>
    cases activity
    cases other
  next => rfl

theorem Tracked.begin (tracked : Tracked h v) (run : Run start h v) (a : Activity)
    {issues rest after} (advances : a.action.Advances v.console issues rest after) :
    Tracked (⟨v.strands.length, a, none, v.console, after, issues, rest⟩ :: h)
      ⟨after, v.strands ++ [⟨a, rest⟩]⟩ := by
  have step := Step.begin a advances
  cases chooses : a.chooses with
  | false =>
    have fits := (confined_core a chooses).poised rfl advances
    have unchosen := choice?_of_other chooses v.strands.length v.console after issues rest
    refine tracked.next_unmoved step fits.unchanged unchosen (fun _ _ _ => rfl)
      (.other a rest ?_ fits.poised)
    rintro name rfl
    cases chooses
  | true =>
    cases a with
    | wizard a =>
      cases a with
      | reopen =>
        have fits := loadChoices_unmoved.poised rfl (advances_openWizard advances)
        have core := fits.unchanged
        simp only [Wizard.core, Prod.mk.injEq] at core
        obtain ⟨chosen, first, picked⟩ := core
        refine tracked.next step (.inr ⟨rfl, chosen⟩) picked ?_ (.other _ rest nofun fits.poised)
        intro moved
        exact absurd first moved
      | next =>
        obtain ⟨rfl, rfl⟩ := advances_updateWizard advances
        obtain ⟨chosen, picked⟩ := v.console.wizard.next_unmoved
        refine tracked.next step (.inl ⟨rfl, chosen⟩) ?_ (Wizard.ready_next tracked.step)
          (.other _ _ nofun trivial)
        rw [shown_cons rfl fun _ _ _ => rfl, ← tracked.picked]
        exact picked
      | back =>
        obtain ⟨rfl, rfl⟩ := advances_updateWizard advances
        refine tracked.next step (.inl ⟨rfl, rfl⟩) ?_ (Wizard.ready_back tracked.step)
          (.other _ _ nofun trivial)
        rw [shown_cons rfl fun _ _ _ => rfl, ← tracked.picked]
        rfl
      | select name =>
        obtain ⟨rfl, rfl⟩ := advances_selectTemplate advances
        have absent : answer? h v.strands.length = none :=
          answer?_of_absent fun m mem => Nat.ne_of_lt (run.strand_lt m mem)
        refine tracked.next step (.inr ⟨rfl, rfl⟩) ?_ (fun _ => rfl)
          (.selecting name _ (Nat.le_refl _) ?_ (iff_of_true rfl rfl))
        · rw [shown_of_choice (choice?_cons_of_some rfl), answer?_cons_of_none (by rfl), absent]
          rfl
        · exact (answer?_cons_of_none rfl).trans absent
      | _ => cases chooses
    | _ => cases chooses

namespace Wizard

theorem complete_stale {w : Wizard} {ticket : Ticket} (old : ticket.generation ≠ w.chosen)
    (r : Outcome TemplateDefinition) : w.complete ticket r = (.ok .stale, w) := by
  unfold complete
  exact if_pos old

/-- The answer that is awaited replaces what is shown, and nothing else. -/
theorem complete_awaited {w : Wizard} {ticket : Ticket} {name : String}
    (latest : ticket.generation = w.chosen) (awaited : w.picked = .of name none)
    (r : Outcome TemplateDefinition) :
    (w.complete ticket r).2.core = (w.chosen, w.view.step, .of name (some r)) := by
  simp only [picked, Picked.of, Picked.mk.injEq] at awaited
  obtain ⟨template, definition, -, params⟩ := awaited
  unfold complete
  rw [if_neg (not_not_intro latest)]
  cases r with
  | ok d => simp [core, picked, edit, Picked.of, template, ParameterForm.params_ofParams]
  | error e => simp [core, picked, edit, Picked.of, template, definition, params]

end Wizard

theorem Tracked.answer (tracked : Tracked h v) {n : Nat} {strand : Strand} {reply : Reply}
    {issues rest after} (there : v.strands[n]? = some strand)
    (takes : strand.rest.Takes v.console reply issues rest after) :
    Tracked (⟨n, strand.activity, some reply, v.console, after, issues, rest⟩ :: h)
      ⟨after, v.strands.set n ⟨strand.activity, rest⟩⟩ := by
  have step := Step.answer n strand reply there takes
  cases tracked.stands n strand there with
  | selected name outcome => exact absurd takes (not_takes_done _ _)
  | selecting name ticket le unanswered latest =>
    obtain ⟨r, rfl, rfl, rfl⟩ := takes_selecting takes
    by_cases current : ticket.generation = v.console.wizard.chosen
    · have counts := latest.mp current
      have awaited := tracked.picked
      rw [shown_of_choice counts, unanswered] at awaited
      have core := Wizard.complete_awaited current awaited r
      simp only [Wizard.core, Prod.mk.injEq] at core
      obtain ⟨chosen, stepSame, picked⟩ := core
      refine tracked.next step (.inl ⟨rfl, chosen⟩) ?_ ?_ (.selected name _)
      · rw [picked, shown_of_choice ((choice?_cons_of_none rfl).trans counts),
          answer?_cons_of_some (Moment.answer?_of_template rfl)]
      · intro _
        have template := congrArg Picked.template picked
        rw [Picked.template_of] at template
        exact Option.isSome_iff_exists.mpr ⟨name, template⟩
    · have stale := Wizard.complete_stale current r
      refine tracked.next_unmoved step ?_ rfl ?_ (.selected name _)
      · exact congrArg (fun done => done.2.core) stale
      · intro k other counts
        apply Moment.answer?_of_ne
        rintro rfl
        obtain ⟨rest, eq⟩ := tracked.chosen n other counts
        rw [there, Option.some.injEq] at eq
        cases congrArg Strand.activity eq
        exact current (latest.mpr counts)
  | other a x isOther poised =>
    have fits := takes.obeys poised
    refine tracked.next_unmoved step fits.unchanged rfl ?_ (.other a rest isOther fits.poised)
    intro k name counts
    apply Moment.answer?_of_ne
    rintro rfl
    obtain ⟨rest', eq⟩ := tracked.chosen n name counts
    rw [there, Option.some.injEq] at eq
    exact isOther name (congrArg Strand.activity eq)

theorem Run.tracked (run : Run start h w) (fresh : start.wizard = {}) : Tracked h w := by
  induction run with
  | start =>
    refine ⟨?_, ?_, nofun, by simp⟩
    · rw [fresh]
      rfl
    · rw [fresh]
      exact fun moved => absurd rfl moved
  | next run step tracked =>
    cases step with
    | begin a advances => exact tracked.begin run a advances
    | answer n strand reply there takes => exact tracked.answer there takes

/-! ## What holds in every run -/

/-- After the choice made by the activity of a number, another template has been chosen or the
wizard opened. -/
def Superseded (h : List Moment) (n : Nat) : Prop :=
  ∃ m ∈ h, m.choice?.isSome = true ∧ n < m.strand

/-- The choice that counts is the latest. -/
theorem Run.not_superseded (run : Run start h w) {n : Nat} {name : String}
    (counts : choice? h = some (n, name)) : ¬ Superseded h n := by
  rintro ⟨m', mem, chooses, later⟩
  induction run with
  | start => cases mem
  | @next h m v w run step ih =>
    cases moves : m.choice? with
    | none =>
      rw [choice?_cons_of_none moves] at counts
      rcases List.mem_cons.mp mem with rfl | mem
      · rw [moves] at chooses
        cases chooses
      · exact ih counts mem
    | some c =>
      rw [choice?_cons_of_some moves] at counts
      subst counts
      obtain ⟨rfl, -⟩ := Moment.eq_of_choice? moves
      rcases List.mem_cons.mp mem with rfl | mem
      · exact Nat.lt_irrefl _ later
      · have older := run.strand_lt m' mem
        cases step with
        | begin a advances => exact Nat.lt_asymm older later
        | answer => cases moves

structure TemplateCoherent (h : List Moment) (w : World) : Prop where
  chosen : w.console.wizard.view.step ≠ .selectTemplate →
    w.console.wizard.view.template.isSome = true
  /-- A definition that is shown is the answer to the choice that counts, and the form is its. -/
  definition : ∀ d, w.console.wizard.view.definition = some d →
    ∃ n name, choice? h = some (n, name) ∧ answer? h n = some (.ok d) ∧
      w.console.wizard.view.template = some name ∧ w.console.wizard.view.form.params = d.params
  blank : w.console.wizard.view.definition = none → w.console.wizard.view.form.params = []
  loading : w.console.wizard.view.loading = true ↔
    ∃ n name, choice? h = some (n, name) ∧ answer? h n = none
  /-- The answer to a superseded choice changes nothing. -/
  stale : ∀ later n name reply before after issues rest earlier,
    h = later ++ ⟨n, .wizard (.select name), some reply, before, after, issues, rest⟩ :: earlier →
      Superseded earlier n → rest = .done (.ok .stale) ∧ after = before

theorem template_coherent (run : Run start h w) (fresh : start.wizard = {}) :
    TemplateCoherent h w := by
  have tracked := run.tracked fresh
  have template : w.console.wizard.view.template = (shown h).template :=
    congrArg Picked.template tracked.picked
  have definition : w.console.wizard.view.definition = (shown h).definition :=
    congrArg Picked.definition tracked.picked
  have loading : w.console.wizard.view.loading = (shown h).loading :=
    congrArg Picked.loading tracked.picked
  have params : w.console.wizard.view.form.params = (shown h).params :=
    congrArg Picked.params tracked.picked
  constructor
  case chosen => exact tracked.step
  case definition =>
    intro d found
    rw [template, params]
    rw [definition] at found
    exact shown_definition found
  case blank =>
    intro absent
    rw [params]
    rw [definition] at absent
    exact shown_blank absent
  case loading =>
    rw [loading]
    exact shown_loading
  case stale =>
    rintro later n name reply before after issues rest earlier rfl superseded
    obtain ⟨v, v', prior, step⟩ := run.split
    obtain ⟨x, there, takes⟩ : ∃ x, v.strands[n]? = some ⟨.wizard (.select name), x⟩ ∧
        x.Takes before reply issues rest after := step.takes rfl
    have same : before = v.console := step.before_eq
    subst same
    cases (prior.tracked fresh).stands n _ there with
    | selected name outcome => exact absurd takes (not_takes_done _ _)
    | selecting name ticket le unanswered latest =>
      obtain ⟨r, rfl, rfl, rfl⟩ := takes_selecting takes
      have old : ticket.generation ≠ v.console.wizard.chosen :=
        fun current => prior.not_superseded (latest.mp current) superseded
      rw [Wizard.complete_stale old r]
      exact ⟨rfl, rfl⟩
    | other a rest isOther poised => exact absurd rfl (isOther name)

/-- The first of two choices fails while the second is still awaited. -/
theorem loading_after_superseded_failure :
    ∃ h w, Run {} h w ∧ w.console.wizard.view.error = none ∧
      w.console.wizard.view.loading = true := by
  have first := Run.next (@Run.start {})
    (.begin (.wizard (.select "a")) (.get (.get (.set (.call _ _ _)))))
  have second := first.next
    (.begin (.wizard (.select "b")) (.get (.get (.set (.call _ _ _)))))
  have failed := second.next (.answer 0 _ ⟨.template "a", .error (.backend "timeout")⟩ rfl
    (.call _ (.get (.get (.set (.done _ _))))))
  have coherent := template_coherent failed rfl
  exact ⟨_, _, failed, rfl, coherent.loading.mpr ⟨1, "b", rfl, rfl⟩⟩

end PoolConsole
