import PoolConsole.Proofs.EnteredTexts
import PoolConsole.Proofs.ParamDerivation

namespace PoolConsole

namespace Param

variable {p : Param} {raw : String} {value : ParamValue} {items : List Json}

/-- A choice reads the texts of the enumerated values, as texts. -/
theorem readInput_choice_eq_ok_iff (choice : p.kind = .choice)
    (options : p.options = some (items.map Json.plainText)) :
    p.readInput raw = .ok value ↔ (∃ v ∈ items, v.plainText = raw) ∧ value = .text raw := by
  have listed : (items.map Json.plainText).contains raw = true ↔ ∃ v ∈ items, v.plainText = raw := by
    rw [List.contains_iff_mem, List.mem_map]
  unfold readInput
  rw [choice, options]
  dsimp only [Option.getD_some]
  rw [← listed]
  by_cases known : (items.map Json.plainText).contains raw = true
  · rw [if_pos known]
    constructor
    · intro read
      cases read
      exact ⟨known, rfl⟩
    · rintro ⟨-, rfl⟩
      rfl
  · rw [if_neg known]
    exact iff_of_false nofun fun read => known read.1

end Param

structure ChoicesSubmitted (d : TemplateDefinition) (p : Param) (items : List Json)
    (edits : List FormEdit) : Prop where
  /-- The texts of the enumerated values can be chosen, and no others. -/
  accepted : ∀ raw, (∃ next, (d.form edits).setInput p.name raw = .ok next) ↔
    ∃ v ∈ items, v.plainText = raw
  /-- What is chosen is submitted as a text. -/
  submitted : ∀ raw next, (d.form edits).setInput p.name raw = .ok next →
    next.toValues.get? p.name = some (.string raw)
  /-- So it is one of the enumerated values if it stands for one that is a text. -/
  enumerated : ∀ raw next value, (d.form edits).setInput p.name raw = .ok next →
    next.toValues.get? p.name = some value →
    (value ∈ items ↔ ∃ v ∈ items, v.plainText = raw ∧ ∃ s, v = .string s)
  /-- The text that stands for an enumerated value submits that value if it is a text. -/
  chosen : ∀ v ∈ items, ∃ next, (d.form edits).setInput p.name v.plainText = .ok next ∧
    (next.toValues.get? p.name = some v ↔ ∃ s, v = .string s)
  /-- The last choice is what is submitted. -/
  kept : ∀ raw, p.lastText? edits = some raw →
    (d.form edits).toValues.get? p.name = some (.string raw)

variable {d : TemplateDefinition} {p : Param} {items : List Json}

theorem choicesSubmitted (mem : p ∈ d.params) (choice : p.kind = .choice)
    (options : p.options = some (items.map Json.plainText)) (edits : List FormEdit) :
    ChoicesSubmitted d p items edits := by
  have text : p.kind ≠ .boolean := by
    rw [choice]
    decide
  have reads (raw : String) (listed : ∃ v ∈ items, v.plainText = raw) :
      p.readInput raw = .ok (.text raw) :=
    (Param.readInput_choice_eq_ok_iff choice options).mpr ⟨listed, rfl⟩
  have submitted : ∀ raw next, (d.form edits).setInput p.name raw = .ok next →
      next.toValues.get? p.name = some (.string raw) := by
    intro raw next accepted
    obtain ⟨⟨value, read⟩, rfl⟩ :=
      (TemplateDefinition.setInput_form_eq_ok_iff mem edits raw).mp accepted
    obtain ⟨-, rfl⟩ := (Param.readInput_choice_eq_ok_iff choice options).mp read
    exact (d.entered mem text edits read).2.2
  constructor
  case accepted =>
    intro raw
    constructor
    · rintro ⟨next, accepted⟩
      obtain ⟨⟨value, read⟩, -⟩ :=
        (TemplateDefinition.setInput_form_eq_ok_iff mem edits raw).mp accepted
      exact ((Param.readInput_choice_eq_ok_iff choice options).mp read).1
    · intro listed
      exact ⟨_, (d.entered mem text edits (reads raw listed)).1⟩
  case submitted => exact submitted
  case enumerated =>
    intro raw next value accepted submits
    rw [submitted raw next accepted, Option.some.injEq] at submits
    subst submits
    constructor
    · intro listed
      exact ⟨_, listed, rfl, raw, rfl⟩
    · rintro ⟨v, listed, rfl, s, rfl⟩
      exact listed
  case chosen =>
    intro v listed
    have accepted := (d.entered mem text edits (reads v.plainText ⟨v, listed, rfl⟩)).1
    refine ⟨_, accepted, ?_⟩
    rw [submitted _ _ accepted, Option.some.injEq]
    constructor
    · intro same
      exact ⟨_, same.symm⟩
    · rintro ⟨s, rfl⟩
      rfl
  case kept =>
    intro raw last
    obtain ⟨value, read⟩ := Param.readInput_of_lastText? last
    have holds := Param.held_of_lastText? last read
    obtain ⟨-, rfl⟩ := (Param.readInput_choice_eq_ok_iff choice options).mp read
    rw [TemplateDefinition.submitted_form mem text, holds]
    rfl

/-- A choice among the values that the schema enumerates is submitted as the text that stands for the
value, which is one of them if it is a text there. -/
theorem choices_submitted (mem : p ∈ d.params) (choice : p.kind = .choice)
    (edits : List FormEdit) :
    ∃ property items, d.schema.properties.get? p.name = some property ∧
      property.get? "enum" = some (.array items) ∧ ChoicesSubmitted d p items edits := by
  obtain ⟨name, value, held, made⟩ := TemplateDefinition.mem_params_iff.mp mem
  obtain ⟨property, taken⟩ := Param.takenFrom_of_ofDefault? held made
  obtain ⟨items, array⟩ := taken.choice.mp choice
  exact ⟨property, items, taken.described, array,
    choicesSubmitted mem choice (taken.texts items array) edits⟩

def sized : TemplateDefinition where
  values := ⟨[("size", .number (.unsigned 1))], by simp⟩
  schema := { properties := ⟨[("size", .object [("type", .string "integer"),
    ("enum", .array [.number (.unsigned 1), .number (.unsigned 2)])])], by simp⟩ }

theorem mem_params_sized :
    (⟨"size", .choice, .number (.unsigned 1), "", false, some ["1", "2"]⟩ : Param) ∈ sized.params :=
  List.mem_singleton.mpr rfl

/-- The text of the second integer is submitted in its place. -/
theorem size_submitted_as_text : ∃ next, (sized.form []).setInput "size" "2" = .ok next ∧
    next.toValues.get? "size" = some (.string "2") := by
  obtain ⟨property, items, described, array, choices⟩ := choices_submitted mem_params_sized rfl []
  cases described
  cases array
  obtain ⟨next, accepted⟩ := (choices.accepted "2").mpr ⟨.number (.unsigned 2), by simp, rfl⟩
  exact ⟨next, accepted, choices.submitted "2" next accepted⟩

/-- Not every accepted text is submitted as one of the enumerated values. -/
theorem not_choicesEnumerated : ¬ ∀ d : TemplateDefinition, ∀ p ∈ d.params, p.kind = .choice →
    ∀ edits raw next property items, (d.form edits).setInput p.name raw = .ok next →
      d.schema.properties.get? p.name = some property →
      property.get? "enum" = some (.array items) →
      ∃ v ∈ items, next.toValues.get? p.name = some v := by
  intro all
  have choices : ChoicesSubmitted sized _ [.number (.unsigned 1), .number (.unsigned 2)] [] :=
    choicesSubmitted mem_params_sized rfl rfl []
  obtain ⟨next, accepted⟩ := (choices.accepted "2").mpr ⟨.number (.unsigned 2), by simp, rfl⟩
  obtain ⟨v, listed, submits⟩ :=
    all sized _ mem_params_sized rfl [] "2" next _ _ accepted rfl rfl
  rw [choices.submitted "2" next accepted, Option.some.injEq] at submits
  subst submits
  simp at listed

end PoolConsole
