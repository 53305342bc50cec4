import Mathlib.Data.List.Induction
import Mathlib.Data.List.Nodup
import PoolConsole.Proofs.FormDefaults
import PoolConsole.Proofs.FormEdits

namespace PoolConsole

/-- What an edit is read as by a parameter that is filled in with texts. -/
def FormEdit.readBy? (e : FormEdit) (p : Param) : Option ParamValue :=
  match e with
  | .input name raw => if name = p.name then (p.readInput raw).toOption else none
  | .toggle _ => none

namespace Param

/-- The texts that are entered for the parameter and that it can read, in order. -/
def texts (p : Param) (edits : List FormEdit) : List String :=
  edits.filterMap fun
    | .input name raw =>
      if name = p.name ∧ (p.readInput raw).toOption.isSome then some raw else none
    | .toggle _ => none

/-- The text that the parameter has accepted last. -/
def lastText? (p : Param) (edits : List FormEdit) : Option String :=
  (p.texts edits).getLast?

/-- The error for a text that the parameter cannot read, which expects something else. -/
def refusal (p : Param) (expectation raw : String) : PoolError :=
  .validation ("'" ++ p.name ++ "' " ++ expectation ++ ", got '" ++ raw ++ "'")

/-- What the parameter holds after some edits. -/
def held (p : Param) (edits : List FormEdit) : ParamValue :=
  ((p.lastText? edits).bind fun raw => (p.readInput raw).toOption).getD (.ofDefault p.kind p.default)

variable {p : Param} {edits : List FormEdit} {raw : String} {value : ParamValue}

theorem mem_texts (mem : raw ∈ p.texts edits) : ∃ value, p.readInput raw = .ok value := by
  obtain ⟨e, -, made⟩ := List.mem_filterMap.mp mem
  cases e with
  | toggle name => cases made
  | input name text =>
    dsimp only at made
    split at made
    next accepted =>
      cases made
      cases read : p.readInput raw with
      | ok value => exact ⟨value, rfl⟩
      | error e => simp [read, Except.toOption] at accepted
    next => cases made

/-- The last text has been accepted. -/
theorem readInput_of_lastText? (last : p.lastText? edits = some raw) :
    ∃ value, p.readInput raw = .ok value :=
  mem_texts (List.mem_of_getLast? last)

theorem held_of_lastText? (last : p.lastText? edits = some raw)
    (read : p.readInput raw = .ok value) : p.held edits = value := by
  rw [held, last, Option.bind_some, read]
  rfl

theorem held_of_no_text (none : p.lastText? edits = none) :
    p.held edits = .ofDefault p.kind p.default := by
  rw [held, none]
  rfl

/-- A text that is accepted is the last one. -/
theorem lastText?_input (read : p.readInput raw = .ok value) (edits : List FormEdit) :
    p.lastText? (edits ++ [.input p.name raw]) = some raw := by
  have one : p.texts [.input p.name raw] = [raw] := by simp [texts, read, Except.toOption]
  rw [lastText?, texts, List.filterMap_append]
  change (p.texts edits ++ p.texts [.input p.name raw]).getLast? = some raw
  rw [one, List.getLast?_concat]

theorem held_append (p : Param) (edits : List FormEdit) (e : FormEdit) :
    p.held (edits ++ [e]) = (e.readBy? p).getD (p.held edits) := by
  have same (none : p.texts [e] = []) : p.held (edits ++ [e]) = p.held edits := by
    have unmoved : p.texts (edits ++ [e]) = p.texts edits := by
      rw [texts, List.filterMap_append]
      change p.texts edits ++ p.texts [e] = p.texts edits
      rw [none, List.append_nil]
    rw [held, lastText?, unmoved]
    rfl
  cases e with
  | toggle name => exact same rfl
  | input name raw =>
    rw [FormEdit.readBy?]
    by_cases here : name = p.name
    · subst here
      rw [if_pos rfl]
      cases read : p.readInput raw with
      | ok value => exact held_of_lastText? (lastText?_input read edits) read
      | error e => exact same (by simp [texts, read, Except.toOption])
    · rw [if_neg here]
      exact same (by simp [texts, here])

end Param

namespace TemplateDefinition

variable {d : TemplateDefinition} {p : Param} {raw : String} {value : ParamValue} {err : PoolError}
  {next : ParameterForm}

theorem field?_form (mem : p ∈ d.params) (edits : List FormEdit) :
    ∃ f, (d.form edits).field? p.name = some f ∧ f.param = p := by
  have known : p ∈ (d.form edits).params := by rwa [d.params_form]
  cases found : (d.form edits).field? p.name with
  | none =>
    have absent := ParameterForm.field?_eq_none.mp found
    exact absurd (List.mem_map_of_mem known) absent
  | some f =>
    have there : f.param ∈ d.params := by
      rw [← d.params_form edits]
      exact ParameterForm.mem_params_of_field? found
    have named := ParameterForm.name_of_field? found
    exact ⟨f, rfl, List.inj_on_of_nodup_map d.nodup_names there mem named⟩

/-- An edit of a parameter stores what the parameter reads. -/
theorem stores?_form (mem : p ∈ d.params) (text : p.kind ≠ .boolean) (edits : List FormEdit)
    {e : FormEdit} (named : e.name = p.name) : (d.form edits).stores? e = e.readBy? p := by
  obtain ⟨f, found, rfl⟩ := field?_form mem edits
  rw [ParameterForm.stores?, named, found, Option.bind_some]
  cases e with
  | input name raw =>
    have here : name = f.param.name := named
    rw [FormEdit.readBy?, if_pos here]
    rfl
  | toggle name =>
    rw [FormEdit.makes, if_neg text]
    rfl

/-- The form accepts a text for a parameter if the parameter reads it. -/
theorem setInput_form (mem : p ∈ d.params) (edits : List FormEdit) (raw : String) :
    (d.form edits).setInput p.name raw =
      (p.readInput raw).map fun _ => d.form (edits ++ [.input p.name raw]) := by
  obtain ⟨f, found, rfl⟩ := field?_form mem edits
  rw [ParameterForm.setInput, found, form_append]
  dsimp only
  cases read : f.param.readInput raw with
  | error e => rfl
  | ok value =>
    have stores : (d.form edits).stores? (.input f.param.name raw) = some value := by
      rw [ParameterForm.stores?, FormEdit.name, found, Option.bind_some, FormEdit.makes, read]
      rfl
    have after : (d.form edits).after [.input f.param.name raw] =
        (d.form edits).put f.param.name value := ParameterForm.next_of_stores stores
    rw [after]
    rfl

/-- A text that the parameter cannot read changes nothing. -/
theorem form_refused (mem : p ∈ d.params) (edits : List FormEdit)
    (refused : p.readInput raw = .error err) :
    d.form (edits ++ [.input p.name raw]) = d.form edits := by
  obtain ⟨f, found, rfl⟩ := field?_form mem edits
  rw [form_append]
  apply ParameterForm.next_of_not_stores
  rw [ParameterForm.stores?, FormEdit.name, found, Option.bind_some, FormEdit.makes, refused]
  rfl

/-- A parameter holds what its last text is read as, or else its default. -/
theorem value?_form (mem : p ∈ d.params) (text : p.kind ≠ .boolean) (edits : List FormEdit) :
    (d.form edits).value? p.name = some (p.held edits) := by
  -- The induction is on the last edit, which counts if the parameter reads it.
  induction edits using List.reverseRec with
  | nil =>
    obtain ⟨f, found, rfl⟩ := field?_form mem []
    obtain ⟨q, -, rfl⟩ := List.mem_map.mp (List.mem_of_find?_eq_some found)
    rw [ParameterForm.value?, found]
    rfl
  | append_singleton edits e ih =>
    rw [form_append]
    change ((d.form edits).next e).value? p.name = _
    rw [ParameterForm.value?_next, ih, Option.map_some, Param.held_append, Option.some.injEq]
    by_cases here : p.name = e.name
    · rw [if_pos here, stores?_form mem text edits here.symm]
    · have other : e.readBy? p = none := by
        cases e with
        | toggle name => rfl
        | input name raw => exact if_neg fun same => here same.symm
      rw [if_neg here, other, Option.getD_none]

/-- A parameter is submitted as what it holds. -/
theorem submitted_form (mem : p ∈ d.params) (text : p.kind ≠ .boolean) (edits : List FormEdit) :
    (d.form edits).toValues.get? p.name = some (p.held edits).toJson := by
  have holds := value?_form mem text edits
  obtain ⟨f, found, rfl⟩ := field?_form mem edits
  rw [ParameterForm.value?, found, Option.map_some, Option.some.injEq] at holds
  have distinct : ((d.form edits).params.map (·.name)).Nodup := by
    rw [d.params_form]
    exact d.nodup_names
  rw [ParameterForm.get?_toValues distinct (List.mem_of_find?_eq_some found), holds]

theorem setInput_form_eq_ok_iff (mem : p ∈ d.params) (edits : List FormEdit) (raw : String) :
    (d.form edits).setInput p.name raw = .ok next ↔
      (∃ value, p.readInput raw = .ok value) ∧ next = d.form (edits ++ [.input p.name raw]) := by
  rw [setInput_form mem]
  cases read : p.readInput raw with
  | ok value =>
    constructor
    · intro accepted
      cases accepted
      exact ⟨⟨value, rfl⟩, rfl⟩
    · rintro ⟨-, rfl⟩
      rfl
  | error err =>
    constructor
    · intro accepted
      cases accepted
    · rintro ⟨⟨value, accepted⟩, -⟩
      cases accepted

theorem setInput_form_eq_error_iff (mem : p ∈ d.params) (edits : List FormEdit) (raw : String) :
    (d.form edits).setInput p.name raw = .error err ↔ p.readInput raw = .error err := by
  rw [setInput_form mem]
  cases p.readInput raw with
  | ok value => exact iff_of_false nofun nofun
  | error e => simp [Except.map]

/-- A text that the parameter reads is accepted, and is what the parameter then holds and submits. -/
theorem entered (mem : p ∈ d.params) (text : p.kind ≠ .boolean) (edits : List FormEdit)
    (read : p.readInput raw = .ok value) :
    (d.form edits).setInput p.name raw = .ok (d.form (edits ++ [.input p.name raw])) ∧
      (d.form (edits ++ [.input p.name raw])).value? p.name = some value ∧
      (d.form (edits ++ [.input p.name raw])).toValues.get? p.name = some value.toJson := by
  have holds := Param.held_of_lastText? (Param.lastText?_input read edits) read
  refine ⟨(setInput_form_eq_ok_iff mem edits raw).mpr ⟨⟨value, read⟩, rfl⟩, ?_, ?_⟩
  · rw [value?_form mem text, holds]
  · rw [submitted_form mem text, holds]

end TemplateDefinition

end PoolConsole
