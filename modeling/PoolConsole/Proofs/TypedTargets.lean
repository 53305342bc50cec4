import PoolConsole.Proofs.DeployCommand

/-!
How the targets that are typed for a job constrain where it may run.

A target is typed as `key=value`, written again as a label and then read at the first colon of that,
so that it is read as it has been typed only if there is no colon in its key.

* `Cli.typedTarget?`: the key and the value that are typed.
* `Cli.readTarget?_of_plain`, `Cli.readTarget?_of_colon`: what they are read as.
* `typed_targets`: what a deployment is constrained by, and when that is what has been typed.
-/

namespace PoolConsole

open Operation Cli

namespace Cli

def typedTarget? (text : String) : Option (String × String) :=
  (Text.splitFirst? '=' text).map fun sides => (Text.trim sides.1, Text.trim sides.2)

/-- No colon comes before the first equals sign. -/
def PlainTarget (text : String) : Prop :=
  ∀ key value, Text.splitFirst? '=' text = some (key, value) → ':' ∉ key.toList

def DeployArguments.typed (args : DeployArguments) : List (String × String) :=
  args.targets.filterMap typedTarget?

variable {text key value a b : String} {label : String × String}

theorem readTarget?_eq_some_iff :
    readTarget? text = some label ↔ ∃ key value, Text.splitFirst? '=' text = some (key, value) ∧
      TargetLabels.readLabel (labelText key value) = .ok label := by
  unfold readTarget?
  cases Text.splitFirst? '=' text with
  | none => simp
  | some sides =>
    obtain ⟨key, value⟩ := sides
    cases read : TargetLabels.readLabel (labelText key value) with
    | ok label => simp [read, Except.toOption]
    | error e => simp [read, Except.toOption]

/-- Without a colon in its key a target is read as it has been typed. -/
theorem readTarget?_of_plain (plain : PlainTarget text) (read : readTarget? text = some label) :
    typedTarget? text = some label := by
  obtain ⟨key, value, split, read⟩ := readTarget?_eq_some_iff.mp read
  obtain ⟨-, a, b, cut, same⟩ := TargetLabels.readLabel_eq_ok_iff.mp read
  have whole := TargetLabels.splitFirst?_labelText (plain key value split) value
  cases whole.symm.trans cut
  rw [typedTarget?, split, Option.map_some, Option.some.injEq, Prod.ext_iff]
  exact ⟨same.1.symm, (Text.trim_space_append value).symm.trans same.2.symm⟩

/-- With a colon in its key a target is read as if its value began there. -/
theorem readTarget?_of_colon (split : Text.splitFirst? '=' text = some (key, value))
    (colon : Text.splitFirst? ':' key = some (a, b)) (read : readTarget? text = some label) :
    label = (Text.trim a, Text.trim (labelText b value)) := by
  obtain ⟨_, _, split', read⟩ := readTarget?_eq_some_iff.mp read
  cases split.symm.trans split'
  obtain ⟨-, a', b', cut, same⟩ := TargetLabels.readLabel_eq_ok_iff.mp read
  cases (TargetLabels.splitFirst?_labelText_of_colon colon value).symm.trans cut
  exact Prod.ext same.1 same.2

/-- No colon is read into a key. -/
theorem colon_not_mem_of_readTarget? (read : readTarget? text = some label) :
    ':' ∉ label.1.toList := by
  obtain ⟨key, value, -, read⟩ := readTarget?_eq_some_iff.mp read
  exact TargetLabels.colon_not_mem_key read

namespace DeployArguments

variable {args : DeployArguments}

theorem labels_eq_typed
    (accepted : ∀ text ∈ args.targets, ∃ label, readTarget? text = some label)
    (plain : ∀ text ∈ args.targets, PlainTarget text) : args.labels = args.typed := by
  refine List.filterMap_congr fun text mem => ?_
  obtain ⟨label, read⟩ := accepted text mem
  rw [read, readTarget?_of_plain (plain text mem) read]

/-- A key that is typed with a colon is none of those that are read. -/
theorem plain_of_consists {labels : TargetLabels} (read : labels.Consists args.labels)
    (typed : labels.Consists args.typed) : ∀ text ∈ args.targets, PlainTarget text := by
  intro text mem key value split colon
  have given : Text.trim key ∈ args.typed.map (·.1) := by
    refine List.mem_map.mpr ⟨(Text.trim key, Text.trim value), ?_, rfl⟩
    refine List.mem_filterMap.mpr ⟨text, mem, ?_⟩
    rw [typedTarget?, split]
    rfl
  have held := (read (Text.trim key)).symm.trans (typed (Text.trim key))
  rw [if_pos given] at held
  by_cases known : Text.trim key ∈ args.labels.map (·.1)
  · obtain ⟨label, mem, same⟩ := List.mem_map.mp known
    obtain ⟨text', -, read'⟩ := List.mem_filterMap.mp mem
    apply colon_not_mem_of_readTarget? read'
    rw [same]
    exact Text.mem_trim colon (by decide)
  · rw [if_neg known] at held
    cases held

end DeployArguments

end Cli

structure TypedTargets (args : DeployArguments) (request : DeployRequest) : Prop where
  accepted : ∀ text ∈ args.targets, ∃ label, readTarget? text = some label
  constrained : request.Constrains args.labels
  plain : ∀ text ∈ args.targets, PlainTarget text → readTarget? text = typedTarget? text
  /-- The key ends at its first colon, and the value begins there. -/
  cut : ∀ text ∈ args.targets, ∀ key value a b, Text.splitFirst? '=' text = some (key, value) →
    Text.splitFirst? ':' key = some (a, b) →
    readTarget? text = some (Text.trim a, Text.trim (labelText b value))
  typed : request.Constrains args.typed ↔ ∀ text ∈ args.targets, PlainTarget text

theorem typedTargets_of_describes {args : DeployArguments} {d : TemplateDefinition}
    {space : Option String} {request : DeployRequest} (fits : args.Fits d)
    (describes : request.Describes args d space) : TypedTargets args request := by
  have constrained := describes.targets
  constructor
  case accepted => exact fits.targets
  case constrained => exact constrained
  case plain =>
    intro text mem plain
    obtain ⟨label, read⟩ := fits.targets text mem
    rw [read, readTarget?_of_plain plain read]
  case cut =>
    intro text mem key value a b split colon
    obtain ⟨label, read⟩ := fits.targets text mem
    rw [read, readTarget?_of_colon split colon read]
  case typed =>
    constructor
    · intro typed
      exact DeployArguments.plain_of_consists constrained.consists typed.consists
    · intro plain
      rw [← DeployArguments.labels_eq_typed fits.targets plain]
      exact constrained

/-- A job that the command deploys is constrained by its targets as they are read, and by what has
been typed only if there is no colon in a key. -/
theorem typed_targets {κ : Type} (h : Handler (StateM κ)) (args : DeployArguments) (now : Instant)
    (key : String) (ui : UiConfig) (store : PreferenceStore) (k : κ) :
    let ran := h.transcript ((Command.deploy args).guarded now key).run
      { console := .fresh ui store } k
    ∀ request, .deploy request ∈ ran.calls → TypedTargets args request := by
  intro ran request mem
  obtain ⟨d, valid, describes⟩ := (h.deploy_course args now key ui store k).run.describes_of_mem mem
  exact typedTargets_of_describes valid.toFits describes

def Cli.DeployArguments.targeting (targets : List String) : DeployArguments where
  template := "a"
  name := "j"
  params := []
  targets
  mode := none
  space := none

theorem deployed_targeting {targets : List String}
    (accepted : ∀ text ∈ targets, ∃ label, readTarget? text = some label) :
    let ran := (Handler.offering "a" .sized []).transcript
      ((Command.deploy (.targeting targets)).guarded ⟨0, 0⟩ "").run { console := .fresh {} {} } ()
    ∃ request, .deploy request ∈ ran.calls ∧
      request.Constrains (DeployArguments.targeting targets).labels := by
  intro ran
  have course : DeployCourse (.targeting targets) true ran :=
    (Handler.offering "a" .sized []).deploy_course (.targeting targets) ⟨0, 0⟩ "" {} {} ()
  have run := course.run
  have named : Text.isBlankText "j" = false := by decide
  have valid : (DeployArguments.targeting targets).Valid .sized :=
    ⟨⟨accepted, nofun, nofun⟩, named⟩
  obtain ⟨request, writes, describes⟩ := run.deployed _ run.fetched_offering valid
  have sent : .deploy request ∈ ran.writes := by
    rw [writes]
    exact List.mem_singleton_self _
  exact ⟨request, (List.mem_filter.mp sent).1, describes.targets⟩

/-- The key of the first of two targets is cut short, and the other one is read as it is typed. -/
theorem key_cut_at_colon :
    let args : DeployArguments := .targeting ["a:b=c", "gpu = a100"]
    let ran := (Handler.offering "a" .sized []).transcript
      ((Command.deploy args).guarded ⟨0, 0⟩ "").run { console := .fresh {} {} } ()
    ∃ request, .deploy request ∈ ran.calls ∧
      (request.targets.getD ∅).get? "a" = some ["b: c"] ∧
      (request.targets.getD ∅).get? "gpu" = some ["a100"] ∧
      ¬ request.Constrains [("a:b", "c"), ("gpu", "a100")] := by
  intro args ran
  have accepted : ∀ text ∈ ["a:b=c", "gpu = a100"], ∃ label, readTarget? text = some label := by
    rw [List.forall_mem_cons, List.forall_mem_singleton]
    exact ⟨⟨("a", "b: c"), by decide⟩, ⟨("gpu", "a100"), by decide⟩⟩
  obtain ⟨request, mem, -⟩ := deployed_targeting accepted
  have targets := typed_targets (.offering "a" .sized []) args ⟨0, 0⟩ "" {} {} () request mem
  refine ⟨request, mem, (targets.constrained.consists "a").trans (by decide),
    (targets.constrained.consists "gpu").trans (by decide), fun constrains => ?_⟩
  exact targets.typed.mp constrains "a:b=c" (.head _) "a:b" "c" (by decide) (by decide)

/-- A job is constrained by a key that has not been typed. -/
theorem not_constrains_typed :
    ¬ ∀ (h : Handler (StateM Unit)) (args : DeployArguments) (now : Instant) (key : String)
      (ui : UiConfig) (store : PreferenceStore) (request : DeployRequest),
      .deploy request ∈ (h.transcript ((Command.deploy args).guarded now key).run
        { console := .fresh ui store } ()).calls → request.Constrains args.typed := by
  intro constrains
  have accepted : ∀ text ∈ ["a:b=c"], ∃ label, readTarget? text = some label := by
    rw [List.forall_mem_singleton]
    exact ⟨("a", "b: c"), by decide⟩
  obtain ⟨request, mem, read⟩ := deployed_targeting accepted
  have typed := constrains _ _ _ _ _ _ request mem
  have held := (read.consists "a:b").symm.trans (typed.consists "a:b")
  exact absurd held (by decide)

end PoolConsole
