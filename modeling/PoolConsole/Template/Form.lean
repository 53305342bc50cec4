import PoolConsole.Decimal.Reader
import PoolConsole.Error
import PoolConsole.Template.Param

namespace PoolConsole

structure FormField where
  param : Param
  value : ParamValue

namespace Param

/-- The words that stand for a truth value, in ASCII letters of either case. -/
def readBool? (raw : String) : Option Bool :=
  let word := String.ofList ((Text.trimChars raw.toList).map Char.toLower)
  if ["true", "yes", "on", "1"].contains word then some true
  else if ["false", "no", "off", "0"].contains word then some false
  else none

/-- The value that an input sets the parameter to. A blank input unsets a number. -/
def readInput (p : Param) (raw : String) : Outcome ParamValue :=
  let refuse (what : String) : Outcome ParamValue :=
    .error (.validation ("'" ++ p.name ++ "' " ++ what ++ ", got '" ++ raw ++ "'"))
  let trimmed := Text.trimChars raw.toList
  match p.kind with
  | .string => .ok (.text raw)
  | .integer =>
    if trimmed.isEmpty then .ok .unset
    else match Text.signed? trimmed with
      | some i => .ok (.integer i)
      | none => refuse "expects an integer"
  | .number =>
    if trimmed.isEmpty then .ok .unset
    else match Decimal.float? trimmed with
      | some x => .ok (.number x)
      | none => refuse "expects a number"
  | .boolean =>
    match readBool? raw with
    | some b => .ok (.boolean b)
    | none => refuse "expects true or false"
  | .choice =>
    let options := p.options.getD []
    if options.contains raw then .ok (.text raw)
    else refuse ("must be one of [" ++ ", ".intercalate options ++ "]")

end Param

structure ParameterForm where
  fields : List FormField := []
  deriving Inhabited

namespace ParameterForm

/-- The form in which every parameter has its default. -/
def ofParams (params : List Param) : ParameterForm where
  fields := params.map fun p => ⟨p, .ofDefault p.kind p.default⟩

def params (form : ParameterForm) : List Param :=
  form.fields.map (·.param)

def field? (form : ParameterForm) (name : String) : Option FormField :=
  form.fields.find? fun f => f.param.name = name

def value? (form : ParameterForm) (name : String) : Option ParamValue :=
  (form.field? name).map (·.value)

/-- Sets the parameter of a name. -/
def put (form : ParameterForm) (name : String) (value : ParamValue) : ParameterForm where
  fields := form.fields.map fun f => if f.param.name = name then { f with value } else f

def unknown (name : String) : PoolError :=
  .notFound ("parameter '" ++ name ++ "'")

/-- Sets a parameter to what the operator entered. -/
def setInput (form : ParameterForm) (name raw : String) : Outcome ParameterForm :=
  match form.field? name with
  | none => .error (unknown name)
  | some f => (f.param.readInput raw).map (form.put name)

/-- Turns a truth value over; one that is not true becomes true. -/
def toggle (form : ParameterForm) (name : String) : Outcome (Bool × ParameterForm) :=
  match form.field? name with
  | none => .error (unknown name)
  | some f =>
    if f.param.kind = .boolean then
      let next := f.value ≠ .boolean true
      .ok (next, form.put name (.boolean next))
    else .error (.validation ("'" ++ name ++ "' is not a boolean"))

/-- The values as they are submitted, in the template's order. -/
def toValues (form : ParameterForm) : Members :=
  .ofList (form.fields.map fun f => (f.param.name, f.value.toJson))

/-- A form submits one value for each parameter, in order. -/
theorem entries_toValues {form : ParameterForm} (distinct : (form.params.map (·.name)).Nodup) :
    form.toValues.entries = form.fields.map fun f => (f.param.name, f.value.toJson) := by
  refine Members.entries_ofList ?_
  rw [List.map_map]
  rwa [params, List.map_map] at distinct

/-- A form has one value for each parameter, under its name. -/
theorem keys_toValues {form : ParameterForm}
    (distinct : (form.params.map (·.name)).Nodup) :
    form.toValues.keys = form.params.map (·.name) := by
  rw [Members.keys, entries_toValues distinct, List.map_map, params, List.map_map]
  rfl

theorem get?_toValues {form : ParameterForm} (distinct : (form.params.map (·.name)).Nodup)
    {f : FormField} (mem : f ∈ form.fields) :
    form.toValues.get? f.param.name = some f.value.toJson := by
  have entry : (f.param.name, f.value.toJson) ∈ form.toValues.entries := by
    rw [entries_toValues distinct]
    exact List.mem_map_of_mem mem
  exact Members.get?_of_mem entry

/-! ## What is changed -/

/-- An input that is accepted sets its parameter to what it reads as. -/
theorem setInput_eq_ok {form next : ParameterForm} {name raw : String}
    (accepted : form.setInput name raw = .ok next) :
    ∃ f value, form.field? name = some f ∧ f.param.readInput raw = .ok value ∧
      next = form.put name value := by
  unfold setInput at accepted
  split at accepted
  next => cases accepted
  next f found =>
    cases read : f.param.readInput raw with
    | error e => rw [read] at accepted; cases accepted
    | ok value =>
      rw [read] at accepted
      cases accepted
      exact ⟨f, value, found, read, rfl⟩

theorem toggle_eq_ok {form next : ParameterForm} {name : String} {b : Bool}
    (accepted : form.toggle name = .ok (b, next)) :
    ∃ f, form.field? name = some f ∧ f.param.kind = .boolean ∧
      b = decide (f.value ≠ .boolean true) ∧ next = form.put name (.boolean b) := by
  unfold toggle at accepted
  split at accepted
  next => cases accepted
  next f found =>
    split at accepted
    next boolean =>
      cases accepted
      exact ⟨f, found, boolean, rfl, rfl⟩
    next => cases accepted

theorem params_put (form : ParameterForm) (name : String) (value : ParamValue) :
    (form.put name value).params = form.params := by
  unfold put params
  rw [List.map_map]
  apply List.map_congr_left
  intro f _
  simp only [Function.comp_apply]
  split <;> rfl

theorem params_setInput {form next : ParameterForm} {name raw : String}
    (h : form.setInput name raw = .ok next) : next.params = form.params := by
  obtain ⟨f, value, -, -, rfl⟩ := setInput_eq_ok h
  exact params_put form name value

theorem params_toggle {form next : ParameterForm} {name : String} {b : Bool}
    (h : form.toggle name = .ok (b, next)) : next.params = form.params := by
  obtain ⟨f, -, -, -, rfl⟩ := toggle_eq_ok h
  exact params_put form name _

theorem params_ofParams (params : List Param) : (ofParams params).params = params := by
  simp [ofParams, ParameterForm.params, Function.comp_def]

end ParameterForm

end PoolConsole
