import PoolConsole.Template.Form

/-!
What the form of a template holds after any edits.

* `ParameterForm.after`: the form that edits lead to; one that is refused leaves it as it was.
* `ParameterForm.stored`: what the accepted edits have stored, the latest first.
* `Param.fits_of_readInput`: what a parameter reads from a text is of its kind.
* `value?_after`: a parameter has what the last accepted edit of it stored, or else its default.
* `form_follows_edits`: all that can be said of a form after any edits, and of one edit more.
-/

namespace PoolConsole

inductive FormEdit where
  | input (name raw : String)
  | toggle (name : String)

def FormEdit.name : FormEdit → String
  | input name _ | toggle name => name

/-- The value is one that the parameter can be set to. -/
def ParamValue.Fits (p : Param) (value : ParamValue) : Prop :=
  match p.kind with
  | .string => ∃ s, value = .text s
  | .integer => value = .unset ∨ ∃ i, value = .integer i
  | .number => value = .unset ∨ ∃ x, value = .number x
  | .boolean => ∃ b, value = .boolean b
  | .choice => ∃ s ∈ p.options.getD [], value = .text s

/-- What an edit makes of the value of a field: an input what the parameter reads, a toggle the other
truth value. -/
def FormEdit.makes (e : FormEdit) (f : FormField) : Outcome ParamValue :=
  match e with
  | .input _ raw => f.param.readInput raw
  | .toggle name =>
    if f.param.kind = .boolean then .ok (.boolean (f.value ≠ .boolean true))
    else .error (.validation ("'" ++ name ++ "' is not a boolean"))

namespace ParameterForm

def edit (form : ParameterForm) : FormEdit → Outcome ParameterForm
  | .input name raw => form.setInput name raw
  | .toggle name => (form.toggle name).map (·.2)

/-- The form after an edit, which leaves it as it was if it is refused. -/
def next (form : ParameterForm) (e : FormEdit) : ParameterForm :=
  match form.edit e with
  | .ok changed => changed
  | .error _ => form

def after (form : ParameterForm) (edits : List FormEdit) : ParameterForm :=
  edits.foldl next form

/-- What an edit stores, if it is accepted. -/
def stores? (form : ParameterForm) (e : FormEdit) : Option ParamValue :=
  (form.field? e.name).bind fun f => (e.makes f).toOption

/-- What the accepted ones of some edits store, the latest first, by name of the parameter. -/
def stored (form : ParameterForm) : List FormEdit → List (String × ParamValue)
  | [] => []
  | e :: later => (form.next e).stored later ++ ((form.stores? e).map (e.name, ·)).toList

end ParameterForm

/-! ## What is read -/

theorem Param.fits_of_readInput {p : Param} {raw : String} {value : ParamValue}
    (read : p.readInput raw = .ok value) : value.Fits p := by
  unfold readInput at read
  unfold ParamValue.Fits
  cases kind : p.kind <;> rw [kind] at read <;> dsimp only at read ⊢
  case string =>
    cases read
    exact ⟨raw, rfl⟩
  case integer =>
    split at read
    next =>
      cases read
      exact .inl rfl
    next =>
      split at read
      next i _ =>
        cases read
        exact .inr ⟨i, rfl⟩
      next => cases read
  case number =>
    split at read
    next =>
      cases read
      exact .inl rfl
    next =>
      split at read
      next x _ =>
        cases read
        exact .inr ⟨x, rfl⟩
      next => cases read
  case boolean =>
    split at read
    next b _ =>
      cases read
      exact ⟨b, rfl⟩
    next => cases read
  case choice =>
    split at read
    next listed =>
      cases read
      exact ⟨raw, List.contains_iff_mem.mp listed, rfl⟩
    next => cases read

theorem Param.readInput_refuses {p : Param} {raw : String} {err : PoolError}
    (read : p.readInput raw = .error err) : ∃ text, err = .validation text := by
  unfold readInput at read
  cases kind : p.kind <;> rw [kind] at read <;> dsimp only at read
  case string => cases read
  case integer | number =>
    split at read
    next => cases read
    next =>
      split at read
      next => cases read
      next =>
        cases read
        exact ⟨_, rfl⟩
  case boolean | choice =>
    split at read
    next => cases read
    next =>
      cases read
      exact ⟨_, rfl⟩

theorem FormEdit.fits_of_makes {e : FormEdit} {f : FormField} {value : ParamValue}
    (made : e.makes f = .ok value) : value.Fits f.param := by
  cases e with
  | input name raw => exact Param.fits_of_readInput made
  | toggle name =>
    rw [makes] at made
    split at made
    next boolean =>
      cases made
      rw [ParamValue.Fits, boolean]
      exact ⟨_, rfl⟩
    next => cases made

theorem FormEdit.makes_refuses {e : FormEdit} {f : FormField} {err : PoolError}
    (refused : e.makes f = .error err) : ∃ text, err = .validation text := by
  cases e with
  | input name raw => exact Param.readInput_refuses refused
  | toggle name =>
    rw [makes] at refused
    split at refused
    next => cases refused
    next =>
      cases refused
      exact ⟨_, rfl⟩

namespace ParameterForm

variable {form changed : ParameterForm} {e : FormEdit} {n : String} {value : ParamValue}

/-! ## What one edit does -/

/-- An edit is an edit of the field with its name. -/
theorem edit_eq (form : ParameterForm) (e : FormEdit) :
    form.edit e =
      match form.field? e.name with
      | none => .error (unknown e.name)
      | some f => (e.makes f).map (form.put e.name) := by
  cases e with
  | input name raw => rfl
  | toggle name =>
    rw [edit, toggle, FormEdit.name]
    cases form.field? name with
    | none => rfl
    | some f =>
      dsimp only [FormEdit.makes]
      split <;> rfl

theorem name_of_field? {f : FormField} (found : form.field? n = some f) : f.param.name = n := by
  simpa using List.find?_some found

theorem mem_params_of_field? {f : FormField} (found : form.field? n = some f) :
    f.param ∈ form.params :=
  List.mem_map_of_mem (List.mem_of_find?_eq_some found)

theorem field?_eq_none : form.field? n = none ↔ n ∉ form.params.map (·.name) := by
  simp [field?, params]

/-- An accepted edit sets its parameter to a value of its kind. -/
theorem edit_eq_ok (accepted : form.edit e = .ok changed) :
    ∃ p ∈ form.params, ∃ value, p.name = e.name ∧ value.Fits p ∧ form.stores? e = some value ∧
      changed = form.put e.name value := by
  rw [edit_eq] at accepted
  rw [stores?]
  cases found : form.field? e.name with
  | none =>
    rw [found] at accepted
    cases accepted
  | some f =>
    rw [found] at accepted
    dsimp only at accepted
    cases made : e.makes f with
    | error err =>
      rw [made] at accepted
      cases accepted
    | ok value =>
      rw [made] at accepted
      cases accepted
      refine ⟨f.param, mem_params_of_field? found, value, name_of_field? found,
        FormEdit.fits_of_makes made, ?_, rfl⟩
      rw [Option.bind_some, made]
      rfl

/-- An edit is refused because there is no such parameter, or because it does not fit it. -/
theorem edit_eq_error {err : PoolError} (refused : form.edit e = .error err) :
    form.stores? e = none ∧
      if e.name ∈ form.params.map (·.name) then ∃ text, err = .validation text
      else err = unknown e.name := by
  rw [edit_eq] at refused
  rw [stores?]
  cases found : form.field? e.name with
  | none =>
    rw [found] at refused
    cases refused
    rw [if_neg (field?_eq_none.mp found)]
    exact ⟨rfl, rfl⟩
  | some f =>
    rw [found] at refused
    dsimp only at refused
    have known : e.name ∈ form.params.map (·.name) :=
      List.mem_map.mpr ⟨f.param, mem_params_of_field? found, name_of_field? found⟩
    cases made : e.makes f with
    | ok value =>
      rw [made] at refused
      cases refused
    | error other =>
      rw [made] at refused
      cases refused
      rw [if_pos known, Option.bind_some, made]
      exact ⟨rfl, FormEdit.makes_refuses made⟩

theorem next_of_stores (stores : form.stores? e = some value) :
    form.next e = form.put e.name value := by
  rw [next]
  split
  next changed accepted =>
    obtain ⟨-, -, other, -, -, same, rfl⟩ := edit_eq_ok accepted
    rw [stores, Option.some.injEq] at same
    rw [same]
  next err refused =>
    rw [(edit_eq_error refused).1] at stores
    cases stores

theorem next_of_not_stores (refused : form.stores? e = none) : form.next e = form := by
  rw [next]
  split
  next changed accepted =>
    obtain ⟨-, -, other, -, -, same, -⟩ := edit_eq_ok accepted
    rw [refused] at same
    cases same
  next => rfl

theorem field?_put (form : ParameterForm) (name n : String) (value : ParamValue) :
    (form.put name value).field? n =
      (form.field? n).map fun f => if n = name then { f with value } else f := by
  obtain ⟨fields⟩ := form
  unfold put field?
  dsimp only
  induction fields with
  | nil => rfl
  | cons f rest ih =>
    rw [List.map_cons, List.find?_cons, List.find?_cons]
    by_cases named : f.param.name = n
    · subst named
      by_cases same : f.param.name = name <;> simp [same]
    · have other : (if f.param.name = name then { f with value } else f).param.name ≠ n := by
        split <;> exact named
      simp only [named, other, decide_false]
      exact ih

theorem value?_put (form : ParameterForm) (name n : String) (value : ParamValue) :
    (form.put name value).value? n =
      (form.value? n).map fun old => if n = name then value else old := by
  rw [value?, value?, field?_put]
  cases form.field? n with
  | none => rfl
  | some f => by_cases same : n = name <;> simp [same]

theorem value?_next (form : ParameterForm) (e : FormEdit) (n : String) :
    (form.next e).value? n =
      (form.value? n).map fun old => if n = e.name then (form.stores? e).getD old else old := by
  cases stores : form.stores? e with
  | some value =>
    rw [next_of_stores stores, value?_put]
    rfl
  | none =>
    rw [next_of_not_stores stores]
    cases form.value? n <;> simp

theorem value?_of_stores (stores : form.stores? e = some value) :
    (form.put e.name value).value? e.name = some value := by
  obtain ⟨f, found, -⟩ := Option.bind_eq_some_iff.mp stores
  rw [value?_put, value?, found]
  simp

/-! ## What any edits do -/

theorem params_after (form : ParameterForm) (edits : List FormEdit) :
    (form.after edits).params = form.params := by
  induction edits generalizing form with
  | nil => rfl
  | cons e later ih =>
    have first : (form.next e).params = form.params := by
      cases stores : form.stores? e with
      | some value => rw [next_of_stores stores, params_put]
      | none => rw [next_of_not_stores stores]
    exact (ih (form.next e)).trans first

/-- A parameter has what the last accepted edit of it stored, or else what it had before. -/
theorem value?_after (form : ParameterForm) (edits : List FormEdit) (n : String) :
    (form.after edits).value? n =
      (form.value? n).map fun old => ((form.stored edits).lookup n).getD old := by
  induction edits generalizing form with
  | nil => exact (Option.map_id' ..).symm
  | cons e later ih =>
    change ((form.next e).after later).value? n = _
    rw [ih, value?_next, stored, List.lookup_append]
    cases form.value? n with
    | none => rfl
    | some old =>
      cases (form.next e).stored later |>.lookup n with
      | some latest => rfl
      | none =>
        cases form.stores? e with
        | none => simp
        | some value =>
          by_cases same : n = e.name
          · simp [same]
          · simp [same, List.lookup_cons, beq_eq_false_iff_ne.mpr same]

theorem value?_ofParams (params : List Param) (n : String) :
    (ofParams params).value? n =
      (params.find? (·.name = n)).map fun p => .ofDefault p.kind p.default := by
  rw [value?, field?, ofParams, List.find?_map, Option.map_map]
  rfl

theorem stores?_toggle {f : FormField} {b : Bool} (found : form.field? n = some f)
    (held : f.value = .boolean b) :
    form.stores? (.toggle n) =
      if f.param.kind = .boolean then some (.boolean !b) else none := by
  rw [stores?, FormEdit.name, found, Option.bind_some, FormEdit.makes, held]
  split
  · cases b <;> rfl
  · rfl

/-- A truth value that is turned over twice is what it was. -/
theorem value?_toggled_twice {b : Bool} (held : form.value? n = some (.boolean b)) :
    (form.after [.toggle n, .toggle n]).value? n = some (.boolean b) := by
  obtain ⟨f, found, value⟩ := Option.map_eq_some_iff.mp held
  have first := stores?_toggle found value
  change ((form.next (.toggle n)).next (.toggle n)).value? n = _
  by_cases boolean : f.param.kind = .boolean
  · rw [if_pos boolean] at first
    have turned : (form.put n (.boolean !b)).field? n = some { f with value := .boolean !b } := by
      rw [field?_put, found, Option.map_some, if_pos rfl]
    have second := stores?_toggle turned rfl
    rw [if_pos boolean, Bool.not_not] at second
    rw [next_of_stores first, FormEdit.name, next_of_stores second, FormEdit.name, value?_put,
      value?_put, held]
    simp
  · rw [if_neg boolean] at first
    rw [next_of_not_stores first, next_of_not_stores first, held]

end ParameterForm

/-! ## The form of a template -/

namespace TemplateDefinition

def form (d : TemplateDefinition) (edits : List FormEdit) : ParameterForm :=
  (ParameterForm.ofParams d.params).after edits

theorem params_form (d : TemplateDefinition) (edits : List FormEdit) :
    (d.form edits).params = d.params := by
  rw [form, ParameterForm.params_after, ParameterForm.params_ofParams]

theorem form_append (d : TemplateDefinition) (edits more : List FormEdit) :
    d.form (edits ++ more) = (d.form edits).after more := by
  rw [form, ParameterForm.after, List.foldl_append]
  rfl

structure FormFollows (d : TemplateDefinition) (edits : List FormEdit) : Prop where
  keys : (d.form edits).toValues.keys = d.names
  /-- A parameter has what the last accepted edit of it stored, or else its default. -/
  value : ∀ n, (d.form edits).value? n = (d.params.find? (·.name = n)).map fun p =>
    (((d.form []).stored edits).lookup n).getD (.ofDefault p.kind p.default)
  /-- What is accepted sets one parameter, to a value of its kind, and no other. -/
  accepted : ∀ e changed, (d.form edits).edit e = .ok changed →
    ∃ p ∈ d.params, ∃ v, p.name = e.name ∧ v.Fits p ∧ (d.form edits).stores? e = some v ∧
      changed.value? e.name = some v ∧
      ∀ n, n ≠ e.name → changed.value? n = (d.form edits).value? n
  /-- What is refused stores nothing and changes nothing. -/
  refused : ∀ e err, (d.form edits).edit e = .error err →
    (d.form edits).stores? e = none ∧ d.form (edits ++ [e]) = d.form edits ∧
      if e.name ∈ d.names then ∃ text, err = .validation text
      else err = ParameterForm.unknown e.name
  /-- A truth value that is turned over twice is what it was. -/
  twice : ∀ n b, (d.form edits).value? n = some (.boolean b) →
    (d.form (edits ++ [.toggle n, .toggle n])).value? n = some (.boolean b)

theorem form_follows_edits (d : TemplateDefinition) (edits : List FormEdit) :
    FormFollows d edits := by
  have params := d.params_form edits
  constructor
  case keys =>
    rw [ParameterForm.keys_toValues, params]
    · rfl
    · rw [params]
      exact d.nodup_names
  case value =>
    intro n
    rw [form, ParameterForm.value?_after, ParameterForm.value?_ofParams, Option.map_map]
    rfl
  case accepted =>
    intro e changed accepted
    obtain ⟨p, mem, v, named, fits, stores, rfl⟩ := ParameterForm.edit_eq_ok accepted
    refine ⟨p, params ▸ mem, v, named, fits, stores, ParameterForm.value?_of_stores stores, ?_⟩
    intro n other
    rw [ParameterForm.value?_put]
    simp [other]
  case refused =>
    intro e err refused
    obtain ⟨none, why⟩ := ParameterForm.edit_eq_error refused
    rw [params] at why
    refine ⟨none, ?_, why⟩
    rw [form_append]
    exact ParameterForm.next_of_not_stores none
  case twice =>
    intro n b held
    rw [form_append]
    exact ParameterForm.value?_toggled_twice held

end TemplateDefinition

end PoolConsole
