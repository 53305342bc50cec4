import Mathlib.Data.List.Nodup
import PoolConsole.Proofs.FormEdits
import PoolConsole.Proofs.ParamDerivation
import PoolConsole.Proofs.Run.DeployTranscripts
import PoolConsole.Proofs.TargetLabels

/-!
What the arguments of the command that deploys a job say, and what they fill in.

* `TargetLabels.Consists`: labels are exactly some pairs; `TargetLabels.consists_addAll`: they are
  if just those have been added.
* `Cli.readTarget?`: the label that a target is read as.
* `DeployArguments.valueFor`: what a parameter is set to by the last of the arguments for it.
* `DeployArguments.Fits`: all of the arguments can be filled in for a template, each by itself.
* `DeployArguments.fillIn_eq_ok_iff`: the wizard is filled in if they all can, whatever their order.
  `DeployArguments.values_filled`: what its parameters are then set to.
-/

namespace PoolConsole

open Cli

/-- A fold that fails with its first step that does succeeds if each step can be taken by itself. -/
theorem foldlM_eq_ok_iff {σ τ α ε : Type} {f : σ → τ → Except ε σ} {read : τ → Option α}
    {good : α → Prop} {act : σ → α → σ} (holds : σ → Prop)
    (step : ∀ s t s', holds s → (f s t = .ok s' ↔ ∃ a, read t = some a ∧ good a ∧ s' = act s a))
    (keeps : ∀ {s} a, holds s → holds (act s a)) {ts : List τ} {s s' : σ} (start : holds s) :
    ts.foldlM f s = .ok s' ↔
      (∀ t ∈ ts, ∃ a, read t = some a ∧ good a) ∧ s' = (ts.filterMap read).foldl act s := by
  induction ts generalizing s with
  | nil => simp [pure, Except.pure, eq_comm]
  | cons t ts ih =>
    rw [List.foldlM_cons, bind_eq_ok]
    constructor
    · rintro ⟨_, first, rest⟩
      obtain ⟨a, can, fine, rfl⟩ := (step _ _ _ start).mp first
      obtain ⟨all, rfl⟩ := (ih (keeps a start)).mp rest
      refine ⟨List.forall_mem_cons.mpr ⟨⟨a, can, fine⟩, all⟩, ?_⟩
      rw [List.filterMap_cons_some can, List.foldl_cons]
    · rintro ⟨all, rfl⟩
      obtain ⟨⟨a, can, fine⟩, all⟩ := List.forall_mem_cons.mp all
      refine ⟨_, (step _ _ _ start).mpr ⟨a, can, fine, rfl⟩, (ih (keeps a start)).mpr ⟨all, ?_⟩⟩
      rw [List.filterMap_cons_some can, List.foldl_cons]

/-! ## Values of parameters -/

/-- What a parameter holds after some texts have been typed for parameters. -/
def Param.typed (p : Param) (old : ParamValue) (inputs : List (String × String)) : ParamValue :=
  inputs.foldl (fun v i => if i.1 = p.name then (p.readInput i.2).toOption.getD v else v) old

/-- The last text typed for a parameter counts. -/
theorem Param.typed_eq {p : Param} {inputs : List (String × String)} (old : ParamValue)
    (reads : ∀ raw, (p.name, raw) ∈ inputs → ∃ value, p.readInput raw = .ok value) :
    p.typed old inputs =
      ((inputs.reverse.lookup p.name).bind fun raw => (p.readInput raw).toOption).getD old := by
  -- The induction is on the last text, which decides if it is for this parameter.
  induction inputs using List.reverseRec with
  | nil => rfl
  | append_singleton inputs i ih =>
    obtain ⟨name, raw⟩ := i
    have earlier := ih fun raw mem => reads raw (List.mem_append_left _ mem)
    rw [typed, List.foldl_append, List.reverse_append]
    change (if name = p.name then _ else p.typed old inputs) =
      ((((name, raw) :: inputs.reverse).lookup p.name).bind _).getD old
    by_cases here : name = p.name
    · subst here
      obtain ⟨value, read⟩ := reads raw (List.mem_append_right _ List.mem_cons_self)
      simp [read, Except.toOption]
    · rw [if_neg here, List.lookup_cons, beq_eq_false_iff_ne.mpr (Ne.symm here), earlier]

namespace ParameterForm

def typed (form : ParameterForm) (inputs : List (String × String)) : ParameterForm where
  fields := form.fields.map fun f => { f with value := f.param.typed f.value inputs }

theorem typed_nil (form : ParameterForm) : form.typed [] = form := by
  simp [typed, Param.typed]

theorem typed_cons (form : ParameterForm) (i : String × String) (inputs : List (String × String)) :
    form.typed (i :: inputs) = (form.typed [i]).typed inputs := by
  simp [typed, Param.typed, Function.comp_def]

theorem params_typed (form : ParameterForm) (inputs : List (String × String)) :
    (form.typed inputs).params = form.params := by
  simp [typed, params, Function.comp_def]

/-- A parameter takes a text: it is one of the form, and can read the text. -/
def Takes (params : List Param) (name raw : String) : Prop :=
  ∃ p ∈ params, p.name = name ∧ ∃ value, p.readInput raw = .ok value

theorem setInput_eq_ok_iff {form next : ParameterForm} {name raw : String}
    (distinct : (form.params.map (·.name)).Nodup) :
    form.setInput name raw = .ok next ↔
      Takes form.params name raw ∧ next = form.typed [(name, raw)] := by
  have puts {f : FormField} {value : ParamValue} (mem : f.param ∈ form.params)
      (named : f.param.name = name) (read : f.param.readInput raw = .ok value) :
      form.put name value = form.typed [(name, raw)] := by
    unfold put typed
    congr 1
    apply List.map_congr_left
    intro g there
    by_cases here : g.param.name = name
    · have same : g.param = f.param :=
        List.inj_on_of_nodup_map distinct (List.mem_map_of_mem there) mem (here.trans named.symm)
      simp [Param.typed, same, named, read, Except.toOption]
    · have other : name ≠ g.param.name := fun same => here same.symm
      simp [Param.typed, here, other]
  constructor
  · intro accepted
    obtain ⟨f, value, found, read, rfl⟩ := setInput_eq_ok accepted
    have mem := mem_params_of_field? found
    have named := name_of_field? found
    exact ⟨⟨f.param, mem, named, value, read⟩, puts mem named read⟩
  · rintro ⟨⟨p, mem, named, value, read⟩, rfl⟩
    have known : form.field? name ≠ none := by
      rw [Ne, field?_eq_none, not_not]
      exact List.mem_map.mpr ⟨p, mem, named⟩
    obtain ⟨f, found⟩ := Option.ne_none_iff_exists'.mp known
    have mem' := mem_params_of_field? found
    have named' := name_of_field? found
    have same : f.param = p :=
      List.inj_on_of_nodup_map distinct mem' mem (named'.trans named.symm)
    rw [← same] at read
    rw [setInput, found, ← puts mem' named' read]
    simp [read, Except.map]

end ParameterForm

/-! ## Labels -/

namespace TargetLabels

/-- Lets some values do for their keys. -/
def addAll (labels : TargetLabels) (pairs : List (String × String)) : TargetLabels :=
  pairs.foldl (fun labels pair => labels.add pair.1 pair.2) labels

/-- The values that are given for a key, each once and in the order in which they first are. -/
def valuesGiven (pairs : List (String × String)) (key : String) : List String :=
  ((pairs.filter (·.1 = key)).map (·.2)).eraseDups

/-- The labels consist of exactly some pairs of a key and a value. -/
def Consists (labels : TargetLabels) (pairs : List (String × String)) : Prop :=
  ∀ key, labels.get? key =
    if key ∈ pairs.map (·.1) then some (valuesGiven pairs key) else none

variable {labels : TargetLabels} {pairs : List (String × String)}

theorem valuesGiven_concat (pairs : List (String × String)) (pair : String × String)
    (key : String) :
    valuesGiven (pairs ++ [pair]) key =
      if pair.1 = key ∧ pair.2 ∉ valuesGiven pairs key then valuesGiven pairs key ++ [pair.2]
      else valuesGiven pairs key := by
  unfold valuesGiven
  rw [List.filter_append, List.map_append, List.eraseDups_append]
  by_cases here : pair.1 = key
  · by_cases known : (key, pair.2) ∈ pairs
    · simp [here, known, List.removeAll]
    · simp [here, known, List.removeAll, List.eraseDups_cons]
  · simp [here]

theorem valuesGiven_of_not_mem {key : String} (other : key ∉ pairs.map (·.1)) :
    valuesGiven pairs key = [] := by
  have none : pairs.filter (·.1 = key) = [] := by
    rw [List.filter_eq_nil_iff]
    intro pair mem same
    exact other (List.mem_map.mpr ⟨pair, mem, of_decide_eq_true same⟩)
  rw [valuesGiven, none]
  rfl

theorem Consists.valuesOf (consists : labels.Consists pairs) (key : String) :
    labels.valuesOf key = valuesGiven pairs key := by
  rw [TargetLabels.valuesOf, consists key]
  by_cases given : key ∈ pairs.map (·.1)
  · rw [if_pos given, Option.getD_some]
  · rw [if_neg given, Option.getD_none, valuesGiven_of_not_mem given]

theorem consists_addAll (pairs : List (String × String)) : (addAll ∅ pairs).Consists pairs := by
  induction pairs using List.reverseRec with
  | nil => exact fun key => rfl
  | append_singleton pairs pair ih =>
    intro key
    rw [addAll, List.foldl_append]
    change ((addAll ∅ pairs).add pair.1 pair.2).get? key = _
    rw [get?_add, valuesGiven_concat, ih.valuesOf]
    by_cases here : key = pair.1
    · subst here
      by_cases known : pair.2 ∈ valuesGiven pairs pair.1
      · simp [known]
      · simp [known]
    · have other : pair.1 ≠ key := Ne.symm here
      have keys : key ∈ (pairs ++ [pair]).map (·.1) ↔ key ∈ pairs.map (·.1) := by simp [here]
      rw [if_neg here, ih key]
      simp only [keys, other, false_and, if_false]

theorem Consists.eq_empty_iff (consists : labels.Consists pairs) : labels = ∅ ↔ pairs = [] := by
  constructor
  · rintro rfl
    cases pairs with
    | nil => rfl
    | cons pair pairs =>
      have found := consists pair.1
      rw [if_pos (List.mem_map_of_mem List.mem_cons_self)] at found
      cases found
  · rintro rfl
    apply KeyMap.ext_get?
    exact consists

end TargetLabels

/-! ## Arguments -/

/-- The label that a target is read as. -/
def Cli.readTarget? (text : String) : Option (String × String) :=
  (Text.splitFirst? '=' text).bind fun sides =>
    (TargetLabels.readLabel (labelText sides.1 sides.2)).toOption

namespace Cli.DeployArguments

def labels (args : DeployArguments) : List (String × String) :=
  args.targets.filterMap readTarget?

/-- The names and texts that are typed for parameters. -/
def inputs (args : DeployArguments) : List (String × String) :=
  args.params.filterMap (Text.splitFirst? '=')

/-- What a parameter is set to: what it reads from the last text typed for it, or else its
default. -/
def valueFor (args : DeployArguments) (p : Param) : ParamValue :=
  ((args.inputs.reverse.lookup p.name).bind fun raw => (p.readInput raw).toOption).getD
    (.ofDefault p.kind p.default)

structure Fits (args : DeployArguments) (d : TemplateDefinition) : Prop where
  targets : ∀ text ∈ args.targets, ∃ label, readTarget? text = some label
  mode : ∀ word, args.mode = some word → ∃ mode, LabelMode.parse word = .ok mode
  params : ∀ text ∈ args.params, ∃ input, Text.splitFirst? '=' text = some input ∧
    ParameterForm.Takes d.params input.1 input.2

end Cli.DeployArguments

namespace Wizard

variable {w w' : Wizard} {text : String}

theorem typeTarget_eq_ok_iff :
    w.typeTarget text = .ok w' ↔ ∃ label, readTarget? text = some label ∧
      w' = w.withTargets (w.view.targets.add label.1 label.2) := by
  unfold typeTarget readTarget?
  cases Text.splitFirst? '=' text with
  | none => simp
  | some sides =>
    dsimp only [Option.bind_some]
    cases read : TargetLabels.readLabel (labelText sides.1 sides.2) with
    | ok label =>
      obtain ⟨key, value⟩ := label
      rw [addTarget_of_ok read, bind_eq_ok]
      simp [Except.mapError, Except.toOption, eq_comm]
    | error e =>
      rw [addTarget_of_error read, bind_eq_ok]
      simp [Except.mapError, Except.toOption]

theorem foldl_withTargets (w : Wizard) (pairs : List (String × String)) :
    pairs.foldl (fun w pair => w.withTargets (w.view.targets.add pair.1 pair.2)) w =
      w.withTargets (w.view.targets.addAll pairs) := by
  induction pairs generalizing w with
  | nil => rfl
  | cons pair pairs ih => exact ih _

theorem foldlM_typeTarget_eq_ok_iff {texts : List String} :
    texts.foldlM typeTarget w = .ok w' ↔
      (∀ text ∈ texts, ∃ label, readTarget? text = some label) ∧
        w' = w.withTargets (w.view.targets.addAll (texts.filterMap readTarget?)) := by
  have step (v : Wizard) (text : String) (v' : Wizard) (_ : True) : v.typeTarget text = .ok v' ↔
      ∃ label, readTarget? text = some label ∧ True ∧
        v' = v.withTargets (v.view.targets.add label.1 label.2) := by
    simpa only [true_and] using typeTarget_eq_ok_iff
  rw [foldlM_eq_ok_iff (fun _ => True) step (fun _ _ => trivial) trivial, foldl_withTargets]
  simp only [and_true]

/-- The wizard with the mode that a word stands for. -/
def withMode (w : Wizard) (word : Option String) : Wizard :=
  w.edit fun v =>
    { v with mode := (word.bind fun word => (LabelMode.parse word).toOption).getD v.mode }

theorem typeMode_eq_ok_iff {mode : Option String} :
    w.typeMode mode = .ok w' ↔ (∀ word, mode = some word → ∃ m, LabelMode.parse word = .ok m) ∧
      w' = w.withMode mode := by
  cases mode with
  | none =>
    have same : w.withMode none = w := rfl
    simp [typeMode, same, eq_comm]
  | some word =>
    unfold typeMode withMode
    dsimp only
    cases parsed : LabelMode.parse word with
    | ok m =>
      have same : w.setMode m = w.edit fun v => { v with mode := m } := rfl
      simp [parsed, same, Except.toOption, eq_comm]
    | error e => simp [parsed]

/-- The wizard with a text typed for a parameter, or for some of them. -/
def withInputs (w : Wizard) (inputs : List (String × String)) : Wizard :=
  w.edit fun v => { v with form := v.form.typed inputs }

theorem withInputs_nil (w : Wizard) : w.withInputs [] = w := by
  rw [withInputs, edit, ParameterForm.typed_nil]

theorem withInputs_cons (w : Wizard) (i : String × String) (inputs : List (String × String)) :
    w.withInputs (i :: inputs) = (w.withInputs [i]).withInputs inputs :=
  congrArg (fun form => w.edit fun v => { v with form }) (w.view.form.typed_cons i inputs)

theorem typeParam_eq_ok_iff (distinct : (w.view.form.params.map (·.name)).Nodup) :
    w.typeParam text = .ok w' ↔ ∃ name raw, Text.splitFirst? '=' text = some (name, raw) ∧
      ParameterForm.Takes w.view.form.params name raw ∧ w' = w.withInputs [(name, raw)] := by
  unfold typeParam
  cases Text.splitFirst? '=' text with
  | none => simp
  | some sides =>
    obtain ⟨name, raw⟩ := sides
    have accepts (form : ParameterForm) :
        w.view.form.setInput name raw = .ok form ↔
          ParameterForm.Takes w.view.form.params name raw ∧
            form = w.view.form.typed [(name, raw)] :=
      ParameterForm.setInput_eq_ok_iff distinct
    dsimp only
    unfold setParam
    cases set : w.view.form.setInput name raw with
    | ok form =>
      obtain ⟨takes, rfl⟩ := (accepts form).mp set
      rw [bind_eq_ok]
      have typed : (w.edit fun v => { v with form := w.view.form.typed [(name, raw)] }) =
          w.withInputs [(name, raw)] := rfl
      simp [Except.mapError, takes, typed, eq_comm]
    | error e =>
      have refuses : ¬ ParameterForm.Takes w.view.form.params name raw := fun takes => by
        rw [(accepts _).mpr ⟨takes, rfl⟩] at set
        cases set
      rw [bind_eq_ok]
      simp [Except.mapError, refuses]

theorem foldl_withInputs (w : Wizard) (inputs : List (String × String)) :
    inputs.foldl (fun w i => w.withInputs [i]) w = w.withInputs inputs := by
  induction inputs generalizing w with
  | nil => exact w.withInputs_nil.symm
  | cons i inputs ih => rw [List.foldl_cons, ih, ← withInputs_cons]

theorem foldlM_typeParam_eq_ok_iff {texts : List String}
    (distinct : (w.view.form.params.map (·.name)).Nodup) :
    texts.foldlM typeParam w = .ok w' ↔
      (∀ text ∈ texts, ∃ i, Text.splitFirst? '=' text = some i ∧
        ParameterForm.Takes w.view.form.params i.1 i.2) ∧
      w' = w.withInputs (texts.filterMap (Text.splitFirst? '=')) := by
  -- What is typed for a parameter leaves it to the form which parameters there are.
  have params (v : Wizard) (i : String × String) :
      (v.withInputs [i]).view.form.params = v.view.form.params := v.view.form.params_typed [i]
  have step (v : Wizard) (text : String) (v' : Wizard)
      (same : v.view.form.params = w.view.form.params) :
      v.typeParam text = .ok v' ↔ ∃ i, Text.splitFirst? '=' text = some i ∧
        ParameterForm.Takes w.view.form.params i.1 i.2 ∧ v' = v.withInputs [i] := by
    rw [← same] at distinct ⊢
    rw [typeParam_eq_ok_iff distinct, Prod.exists]
  rw [foldlM_eq_ok_iff (·.view.form.params = w.view.form.params) step
    (fun i same => (params _ i).trans same) rfl, foldl_withInputs]

end Wizard

namespace Cli.DeployArguments

variable {args : DeployArguments} {d : TemplateDefinition} {w w' : Wizard}

/-- The wizard once all the arguments have been filled in. -/
def filled (args : DeployArguments) (w : Wizard) : Wizard :=
  (((w.withTargets (w.view.targets.addAll args.labels)).withMode args.mode).withInputs
    args.inputs).setName args.name

/-- The arguments are filled in if each of them can be. -/
theorem fillIn_eq_ok_iff (form : w.view.form = .ofParams d.params) :
    args.fillIn w = .ok w' ↔ args.Fits d ∧ w' = args.filled w := by
  have params (targets : TargetLabels) :
      ((w.withTargets targets).withMode args.mode).view.form.params = d.params :=
    (congrArg ParameterForm.params form).trans (ParameterForm.params_ofParams d.params)
  have distinct (targets : TargetLabels) :
      (((w.withTargets targets).withMode args.mode).view.form.params.map (·.name)).Nodup := by
    rw [params]
    exact d.nodup_names
  simp only [fillIn, bind_eq_ok, Wizard.foldlM_typeTarget_eq_ok_iff, Wizard.typeMode_eq_ok_iff]
  constructor
  · rintro ⟨_, ⟨targets, rfl⟩, _, ⟨mode, rfl⟩, v, typed, named⟩
    obtain ⟨takes, rfl⟩ := (Wizard.foldlM_typeParam_eq_ok_iff (distinct _)).mp typed
    rw [params] at takes
    cases named
    exact ⟨⟨targets, mode, takes⟩, rfl⟩
  · rintro ⟨⟨targets, mode, takes⟩, rfl⟩
    refine ⟨_, ⟨targets, rfl⟩, _, ⟨mode, rfl⟩, _, ?_, rfl⟩
    rw [Wizard.foldlM_typeParam_eq_ok_iff (distinct _), params]
    exact ⟨takes, rfl⟩

/-- Each parameter holds what the last argument for it sets, or else its default. -/
theorem values_filled (form : w.view.form = .ofParams d.params) (fits : args.Fits d) :
    (args.filled w).view.form.toValues.entries =
      d.params.map fun p => (p.name, (args.valueFor p).toJson) := by
  have shown : (args.filled w).view.form = (ParameterForm.ofParams d.params).typed args.inputs :=
    congrArg (·.typed args.inputs) form
  have distinct : ((args.filled w).view.form.params.map (·.name)).Nodup := by
    rw [shown, ParameterForm.params_typed, ParameterForm.params_ofParams]
    exact d.nodup_names
  rw [ParameterForm.entries_toValues distinct, shown]
  simp only [ParameterForm.typed, ParameterForm.ofParams, List.map_map]
  refine List.map_congr_left fun p there => ?_
  simp only [Function.comp_apply, valueFor]
  rw [Param.typed_eq]
  intro raw mem
  obtain ⟨text, given, split⟩ := List.mem_filterMap.mp mem
  obtain ⟨_, split', q, known, named, reads⟩ := fits.params text given
  cases split.symm.trans split'
  have same : q = p := List.inj_on_of_nodup_map d.nodup_names known there named
  exact same ▸ reads

end Cli.DeployArguments

end PoolConsole
