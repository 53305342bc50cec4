import PoolConsole.Proofs.LabelText
import PoolConsole.Proofs.Run.Past
import PoolConsole.Proofs.Run.Submission
import PoolConsole.Proofs.TemplateChoice

/-!
The target labels of the wizard, in every run of the console.

* `TargetLabels.valuesOf`: the values that will do for a key; `Adds` and `Removes` say what becomes
  of them.
* `TargetLabels.Tidy`: no key is empty or stands for nothing, no value stands twice, and there are
  no blanks around any of them. Tidy labels are known by their values (`Tidy.ext`).
* `Run.relabels`: what can happen to the labels in a moment, and so (`Run.tidy`) they stay tidy.
* `target_labels`: how labels are added, refused, removed and submitted in every run.
-/

namespace PoolConsole

open PoolConsole.Action Console

namespace TargetLabels

/-- The values that will do for a key. -/
def valuesOf (labels : TargetLabels) (key : String) : List String :=
  (labels.get? key).getD []

structure Adds (before : TargetLabels) (key value : String) (after : TargetLabels) : Prop where
  here : after.valuesOf key =
    if value ∈ before.valuesOf key then before.valuesOf key else before.valuesOf key ++ [value]
  elsewhere : ∀ other, other ≠ key → after.get? other = before.get? other

structure Removes (before : TargetLabels) (key value : String) (after : TargetLabels) : Prop where
  here : after.valuesOf key = (before.valuesOf key).filter (· ≠ value)
  elsewhere : ∀ other, other ≠ key → after.get? other = before.get? other

structure TidyEntry (key : String) (values : List String) : Prop where
  named : key ≠ ""
  trimmed : Text.Trimmed key
  wanted : values ≠ []
  distinct : values.Nodup
  values_trimmed : ∀ value ∈ values, Text.Trimmed value

def Tidy (labels : TargetLabels) : Prop :=
  ∀ key values, labels.get? key = some values → TidyEntry key values

variable {labels before after : TargetLabels} {key value : String}

theorem valuesOf_of_get? {values : List String} (found : labels.get? key = some values) :
    labels.valuesOf key = values := by
  rw [valuesOf, found, Option.getD_some]

/-! ## Changes -/

theorem get?_add (labels : TargetLabels) (key value k : String) :
    (labels.add key value).get? k =
      if k = key then
        some (if value ∈ labels.valuesOf key then labels.valuesOf key
          else labels.valuesOf key ++ [value])
      else labels.get? k := by
  simp only [add, KeyMap.get?_insert, List.contains_iff_mem]
  rfl

theorem adds_add (labels : TargetLabels) (key value : String) :
    labels.Adds key value (labels.add key value) := by
  constructor
  · apply valuesOf_of_get?
    rw [get?_add, if_pos rfl]
  · intro other apart
    rw [get?_add, if_neg apart]

theorem get?_remove (labels : TargetLabels) (key value k : String) :
    (labels.remove key value).get? k =
      if k = key then
        (labels.get? key).bind fun values =>
          if values.filter (· ≠ value) = [] then none else some (values.filter (· ≠ value))
      else labels.get? k := by
  unfold remove
  cases found : labels.get? key with
  | none =>
    by_cases here : k = key
    · rw [if_pos here, here, found, Option.bind_none]
    · rw [if_neg here]
  | some values =>
    simp only [List.isEmpty_iff, Option.bind_some]
    by_cases gone : values.filter (· ≠ value) = []
    · rw [if_pos gone, if_pos gone, KeyMap.get?_erase]
    · rw [if_neg gone, if_neg gone, KeyMap.get?_insert]

theorem removes_remove (labels : TargetLabels) (key value : String) :
    labels.Removes key value (labels.remove key value) := by
  constructor
  · unfold valuesOf
    rw [get?_remove, if_pos rfl]
    cases labels.get? key with
    | none => rfl
    | some values =>
      rw [Option.bind_some, Option.getD_some]
      by_cases gone : values.filter (· ≠ value) = []
      · rw [if_pos gone, gone, Option.getD_none]
      · rw [if_neg gone, Option.getD_some]
  · intro other apart
    rw [get?_remove, if_neg apart]

/-! ## Tidy labels -/

theorem tidy_empty : Tidy ∅ :=
  fun _ _ found => nomatch found

/-- Labels are tidy as long as no change leaves a key with untidy values. -/
theorem Tidy.change (tidy : before.Tidy)
    (elsewhere : ∀ other, other ≠ key → after.get? other = before.get? other)
    (here : ∀ values, after.get? key = some values → TidyEntry key values) : after.Tidy := by
  intro k values found
  by_cases same : k = key
  · subst same
    exact here values found
  · rw [elsewhere k same] at found
    exact tidy k values found

theorem Tidy.add (tidy : labels.Tidy) (named : key ≠ "") (trimmed : Text.Trimmed key)
    (clean : Text.Trimmed value) : (labels.add key value).Tidy := by
  refine tidy.change (labels.adds_add key value).elsewhere fun values found => ?_
  have given : values = (labels.add key value).valuesOf key := (valuesOf_of_get? found).symm
  rw [(labels.adds_add key value).here] at given
  have old : (labels.valuesOf key).Nodup ∧ ∀ v ∈ labels.valuesOf key, Text.Trimmed v := by
    unfold valuesOf
    cases held : labels.get? key with
    | none => exact ⟨List.nodup_nil, nofun⟩
    | some values => exact ⟨(tidy key values held).distinct, (tidy key values held).values_trimmed⟩
  by_cases present : value ∈ labels.valuesOf key
  · rw [if_pos present] at given
    subst given
    exact ⟨named, trimmed, List.ne_nil_of_mem present, old.1, old.2⟩
  · rw [if_neg present] at given
    subst given
    refine ⟨named, trimmed, by simp, ?_, ?_⟩
    · rw [List.nodup_append]
      refine ⟨old.1, by simp, ?_⟩
      rintro v held _ new rfl
      rw [List.mem_singleton] at new
      exact present (new ▸ held)
    · intro v mem
      rcases List.mem_append.mp mem with held | new
      · exact old.2 v held
      · rw [List.mem_singleton] at new
        exact new ▸ clean

theorem Tidy.remove (tidy : labels.Tidy) (key value : String) : (labels.remove key value).Tidy := by
  refine tidy.change (labels.removes_remove key value).elsewhere fun values found => ?_
  rw [get?_remove, if_pos rfl, Option.bind_eq_some_iff] at found
  obtain ⟨held, there, rest⟩ := found
  have entry := tidy key held there
  by_cases gone : held.filter (· ≠ value) = []
  · rw [if_pos gone] at rest
    cases rest
  · rw [if_neg gone] at rest
    cases rest
    refine ⟨entry.named, entry.trimmed, gone, entry.distinct.filter _, fun v mem => ?_⟩
    exact entry.values_trimmed v (List.mem_filter.mp mem).1

/-- Tidy labels have a key only for its values. -/
theorem Tidy.get?_eq (tidy : labels.Tidy) (key : String) :
    labels.get? key = if labels.valuesOf key = [] then none else some (labels.valuesOf key) := by
  unfold valuesOf
  cases held : labels.get? key with
  | none => rfl
  | some values => rw [Option.getD_some, if_neg (tidy key values held).wanted]

theorem Tidy.ext (tidy : before.Tidy) (tidy' : after.Tidy)
    (same : ∀ key, before.valuesOf key = after.valuesOf key) : before = after := by
  apply KeyMap.ext_get?
  intro key
  rw [tidy.get?_eq, tidy'.get?_eq, same key]

theorem valuesOf_congr {k : String} (same : after.get? k = before.get? k) :
    after.valuesOf k = before.valuesOf k := by
  rw [valuesOf, same, valuesOf]

theorem Tidy.add_of_mem (tidy : labels.Tidy) (present : value ∈ labels.valuesOf key) :
    labels.add key value = labels := by
  apply KeyMap.ext_get?
  intro k
  rw [get?_add, if_pos present]
  by_cases here : k = key
  · rw [if_pos here, here, tidy.get?_eq, if_neg (List.ne_nil_of_mem present)]
  · rw [if_neg here]

/-- What has been added can be removed again. -/
theorem Tidy.remove_add (tidy : labels.Tidy) (named : key ≠ "") (trimmed : Text.Trimmed key)
    (clean : Text.Trimmed value) (new : value ∉ labels.valuesOf key) :
    (labels.add key value).remove key value = labels := by
  have added := labels.adds_add key value
  have removed := (labels.add key value).removes_remove key value
  refine ((tidy.add named trimmed clean).remove key value).ext tidy fun k => ?_
  by_cases here : k = key
  · subst here
    rw [removed.here, added.here, if_neg new, List.filter_append]
    simpa using fun v held => ne_of_mem_of_not_mem held new
  · rw [valuesOf_congr (removed.elsewhere k here), valuesOf_congr (added.elsewhere k here)]

/-- What is read as a label is fit to be kept. -/
theorem tidy_of_readLabel {text : String} (read : readLabel text = .ok (key, value)) :
    key ≠ "" ∧ Text.Trimmed key ∧ Text.Trimmed value := by
  obtain ⟨named, a, b, -, rfl, rfl⟩ := readLabel_eq_ok_iff.mp read
  exact ⟨named, Text.trimmed_trim a, Text.trimmed_trim b⟩

end TargetLabels

open TargetLabels

/-! ## The wizard -/

namespace Wizard

variable {w : Wizard} {text key value : String} {e : PoolError}

def withTargets (w : Wizard) (targets : TargetLabels) : Wizard :=
  w.edit fun v => { v with targets }

theorem addTarget_of_ok (read : readLabel text = .ok (key, value)) :
    w.addTarget text = (.ok (), w.withTargets (w.view.targets.add key value)) := by
  rw [addTarget, read]
  rfl

theorem addTarget_of_error (read : readLabel text = .error e) :
    w.addTarget text = (.error e, w) := by
  rw [addTarget, read]

end Wizard

/-! ## What happens to the labels in a moment -/

def Activity.relabels : Activity → Bool
  | .wizard .reopen | .wizard (.addTarget _) | .wizard (.removeTarget _ _) => true
  | _ => false

inductive Relabels (m : Moment) : Prop where
  | emptied : m.Opens → m.after.wizard.view.targets = ∅ → Relabels m
  | added (text key value : String) : m.Returns (.wizard (.addTarget text)) (.ok ()) →
      readLabel text = .ok (key, value) →
      m.before.wizard.view.targets.Adds key value m.after.wizard.view.targets →
      m.after.wizard = m.before.wizard.withTargets (m.before.wizard.view.targets.add key value) →
      Relabels m
  | rejected (text : String) (e : PoolError) :
      m.Returns (.wizard (.addTarget text)) (.error e) → readLabel text = .error e →
      m.after = m.before → Relabels m
  | removed (key value : String) : m.Returns (.wizard (.removeTarget key value)) () →
      m.before.wizard.view.targets.Removes key value m.after.wizard.view.targets →
      m.after.wizard =
        m.before.wizard.withTargets (m.before.wizard.view.targets.remove key value) → Relabels m
  | kept : (m.begins = true → m.activity.relabels = false) →
      m.after.wizard.view.targets = m.before.wizard.view.targets → Relabels m

theorem confined_targets (a : Activity) (other : a.relabels = false) :
    a.action.Confined (·.wizard.view.targets) fun _ _ => True := by
  refine a.confined_wizard (g := fun w => w.view.targets) fun b is => ?_
  subst is
  cases b with
  | reopen | addTarget | removeTarget => cases other
  | close => exact confined_modifyWizard (f := fun w => w.edit _) fun _ => rfl
  | next =>
    exact confined_updateWizard fun c =>
      c.wizard.next_keeps (g := fun w => w.view.targets) fun _ => rfl
  | back => exact confined_updateWizard (f := Wizard.back) fun _ => rfl
  | select template =>
    refine .bind (confined_updateWizard (f := fun w => w.choose template) fun _ => rfl)
      fun ticket => .bind (.request fun _ => trivial) fun result => ?_
    exact confined_updateWizard fun c =>
      c.wizard.complete_keeps (g := fun w => w.view.targets) (fun _ _ _ _ => rfl) ticket result
  | setParam name raw =>
    exact confined_updateWizard fun c =>
      c.wizard.setParam_keeps (g := fun w => w.view.targets) (fun _ => rfl) name raw
  | toggleParam name =>
    exact confined_updateWizard fun c =>
      c.wizard.toggleParam_keeps (g := fun w => w.view.targets) (fun _ => rfl) name
  | setMode mode => exact confined_modifyWizard (f := fun w => w.setMode mode) fun _ => rfl
  | setName name => exact confined_modifyWizard (f := fun w => w.setName name) fun _ => rfl
  | submit what =>
    exact Operation.submission_confined (fun _ _ => rfl)
      (fun r c => c.wizard.settle_keeps (g := fun w => w.view.targets) (fun _ _ => rfl) r)
      (fun _ _ _ => rfl) (fun _ _ _ => trivial) (fun _ _ _ => trivial) what

/-- Once an activity waits it leaves the labels alone. -/
def LabelsRest (c : Console) (strand : Strand) : Prop :=
  strand.rest.Still (·.wizard.view.targets) (fun _ => True) c

theorem Relabels.of_begins {m : Moment} (begins : m.reply = none)
    (advances : m.activity.action.Advances m.before m.issues m.rest m.after) :
    Relabels m ∧ LabelsRest m.after ⟨m.activity, m.rest⟩ := by
  cases changes : m.activity.relabels with
  | false =>
    have keeps := (confined_targets _ changes).keeps advances
    exact ⟨.kept (fun _ => changes) keeps.same, keeps.still⟩
  | true =>
    obtain ⟨n, a, reply, before, after, issues, rest⟩ := m
    dsimp only at advances changes begins
    subst begins
    unfold Activity.relabels at changes
    split at changes
    next =>
      have loading : Operation.loadChoices.Confined (·.wizard.view.targets) fun _ _ => True :=
        Operation.loadChoices_confined (fun _ _ _ => trivial) (fun _ _ => rfl) fun _ _ _ => rfl
      have keeps := loading.keeps (advances_openWizard advances)
      exact ⟨.emptied ⟨rfl, rfl⟩ keeps.same, keeps.still⟩
    next text =>
      obtain ⟨rfl, rfl⟩ := advances_updateWizard (f := fun w => w.addTarget text) advances
      refine ⟨?_, .done _⟩
      cases read : readLabel text with
      | ok pair =>
        obtain ⟨key, value⟩ := pair
        have added := Wizard.addTarget_of_ok (w := before.wizard) read
        refine .added text key value ?_ read ?_ ?_
        · simp only [Moment.Returns, added]
        · rw [added]
          exact before.wizard.view.targets.adds_add key value
        · rw [added]
      | error e =>
        have refused := Wizard.addTarget_of_error (w := before.wizard) read
        refine .rejected text e ?_ read ?_
        · simp only [Moment.Returns, refused]
        · simp only [refused]
    next key value =>
      have advances := advances
      simp only [Activity.action, WizardActivity.action, onWizard, Action.modify, onPart,
        advances_get, advances_set, advances_done] at advances
      obtain ⟨-, rfl, rfl⟩ := advances
      exact ⟨.removed key value rfl (before.wizard.view.targets.removes_remove key value) rfl,
        .done _⟩
    next => cases changes

variable {start : Console} {h : List Moment} {m : Moment} {w : World}

theorem Run.relabels (run : Run start h w) : ∀ m ∈ h, Relabels m := by
  refine (run.each LabelsRest Still.mono (fun m begins => Relabels.of_begins begins) ?_).1
  intro m x reply answered still takes
  have keeps := Still.keeps still takes
  refine ⟨.kept (fun begins => ?_) keeps.same, keeps.still⟩
  rw [Moment.begins, answered] at begins
  cases begins

theorem Relabels.tidy (relabels : Relabels m) (tidy : m.before.wizard.view.targets.Tidy) :
    m.after.wizard.view.targets.Tidy := by
  cases relabels with
  | emptied _ none =>
    rw [none]
    exact tidy_empty
  | added text key value _ read _ after =>
    obtain ⟨named, trimmed, clean⟩ := tidy_of_readLabel read
    rw [after]
    exact tidy.add named trimmed clean
  | rejected _ _ _ _ same =>
    rw [same]
    exact tidy
  | removed key value _ _ after =>
    rw [after]
    exact tidy.remove key value
  | kept _ same =>
    rw [same]
    exact tidy

theorem Run.tidy (run : Run start h w) (tidy : start.wizard.view.targets.Tidy) :
    w.console.wizard.view.targets.Tidy := by
  have relabels := run.relabels
  induction run with
  | start => exact tidy
  | @next h m v w run step ih =>
    have older := ih fun m' mem => relabels m' (List.mem_cons_of_mem m mem)
    rw [← step.before_eq] at older
    rw [← step.after_eq]
    exact (relabels m List.mem_cons_self).tidy older

/-! ## What holds in every run -/

structure LabelsKept (w : Wizard) : Prop where
  tidy : w.view.targets.Tidy
  rejected : ∀ text e w', w.addTarget text = (.error e, w') → w' = w
  present : ∀ text key value, readLabel text = .ok (key, value) →
    value ∈ w.view.targets.valuesOf key → w.addTarget text = (.ok (), w)
  restored : ∀ text key value, readLabel text = .ok (key, value) →
    value ∉ w.view.targets.valuesOf key →
    ∃ w', w.addTarget text = (.ok (), w') ∧ value ∈ w'.view.targets.valuesOf key ∧
      w'.removeTarget key value = w
  /-- A label can be added as the catalogue shows it. -/
  catalogued : ∀ key value, ':' ∉ key.toList → key ≠ "" → Text.Trimmed key → Text.Trimmed value →
    ∃ targets, w.addTarget (labelText key value) = (.ok (), w.withTargets targets) ∧
      w.view.targets.Adds key value targets
  requested : ∀ scope request, w.request scope = .ok request →
    (∀ targets, request.targets = some targets ↔ targets = w.view.targets ∧ targets ≠ ∅) ∧
    ∀ mode, request.mode = some mode ↔ mode = w.view.mode ∧ request.targets.isSome = true

theorem Wizard.targets?_eq_some_iff {w : Wizard} {targets : TargetLabels} :
    w.targets? = some targets ↔ targets = w.view.targets ∧ targets ≠ ∅ := by
  unfold targets?
  by_cases none : w.view.targets = ∅
  · rw [if_pos (KeyMap.isEmpty_iff.mpr none)]
    simp [none]
  · rw [if_neg fun empty => none (KeyMap.isEmpty_iff.mp empty), Option.some.injEq]
    constructor
    · rintro rfl
      exact ⟨rfl, none⟩
    · rintro ⟨rfl, -⟩
      rfl

theorem Wizard.targets_of_request {w : Wizard} {scope : Scope} {request : DeployRequest}
    (fills : w.request scope = .ok request) :
    request.targets = w.targets? ∧ request.mode = w.targets?.map fun _ => w.view.mode := by
  obtain ⟨-, template, -, rfl⟩ := Wizard.request_eq_ok_iff.mp fills
  exact ⟨rfl, rfl⟩

theorem TargetLabels.Tidy.labelsKept {w : Wizard} (tidy : w.view.targets.Tidy) :
    LabelsKept w where
  tidy
  rejected text e w' added := by
    cases read : readLabel text with
    | ok pair =>
      rw [Wizard.addTarget_of_ok read] at added
      cases added
    | error e' =>
      rw [Wizard.addTarget_of_error read] at added
      cases added
      rfl
  present text key value read present := by
    rw [Wizard.addTarget_of_ok read, tidy.add_of_mem present]
    rfl
  restored text key value read new := by
    obtain ⟨named, trimmed, clean⟩ := tidy_of_readLabel read
    refine ⟨_, Wizard.addTarget_of_ok read, ?_, ?_⟩
    · have here := (w.view.targets.adds_add key value).here
      rw [if_neg new] at here
      change value ∈ (w.view.targets.add key value).valuesOf key
      simp [here]
    · change w.withTargets ((w.view.targets.add key value).remove key value) = w
      rw [tidy.remove_add named trimmed clean new]
      rfl
  catalogued key value free named trimmed clean := by
    have read := readLabel_labelText free (by rwa [Text.trim_eq_self_iff.mpr trimmed])
      value
    rw [Text.trim_eq_self_iff.mpr trimmed, Text.trim_eq_self_iff.mpr clean] at read
    exact ⟨_, Wizard.addTarget_of_ok read, w.view.targets.adds_add key value⟩
  requested scope request fills := by
    obtain ⟨targets, mode⟩ := Wizard.targets_of_request fills
    rw [targets, mode]
    refine ⟨fun _ => Wizard.targets?_eq_some_iff, fun m => ?_⟩
    cases w.targets? with
    | none => simp
    | some targets => simp [eq_comm]

/-- Whatever has been done with the wizard, its labels are tidy, change one at a time and go into
the request as they are. -/
theorem target_labels (run : Run start h w) (fresh : start.wizard = {}) :
    LabelsKept w.console.wizard ∧ ∀ m ∈ h, Relabels m := by
  refine ⟨(run.tidy ?_).labelsKept, run.relabels⟩
  rw [fresh]
  exact tidy_empty

/-- A label with blanks around it is added, and added once more as the catalogue shows it. -/
theorem target_labels_added_twice :
    ∃ h w, Run {} h w ∧ h.length = 2 ∧ w.console.wizard.view.targets.get? "url" = some ["http://x"] ∧
      (LabelsKept w.console.wizard ∧ ∀ m ∈ h, Relabels m) := by
  have first := Run.next (@Run.start {})
    (.begin (.wizard (.addTarget " url :http://x ")) (.get (.get (.set (.done _ _)))))
  have second := first.next
    (.begin (.wizard (.addTarget "url: http://x")) (.get (.get (.set (.done _ _)))))
  exact ⟨_, _, second, rfl, by decide, target_labels second rfl⟩

end PoolConsole
