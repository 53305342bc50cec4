import PoolConsole.Proofs.FloatRange
import PoolConsole.Template.Form

namespace PoolConsole

/-- Whether the value is a whole number beyond the integers of 64 bits with a sign. -/
def Json.isWide : Json → Bool
  | .number (.unsigned n) => 9223372036854775808 ≤ n.toNat
  | _ => false

theorem Json.exists_of_isWide {j : Json} (wide : j.isWide = true) :
    ∃ n, j = .number (.unsigned n) ∧ 9223372036854775808 ≤ n.toNat := by
  unfold isWide at wide
  split at wide
  next n => exact ⟨n, rfl, of_decide_eq_true wide⟩
  next => cases wide

theorem Number.ofInt64_toInt64 {n : UInt64} (small : n.toNat < 9223372036854775808) :
    ofInt64 n.toInt64 = .unsigned n := by
  have value : n.toInt64.toInt = n.toNat := BitVec.toInt_eq_toNat_of_lt (by simpa using by omega)
  have positive : ¬ n.toInt64 < 0 := by
    rw [Int64.lt_iff_toInt_lt, value]
    simp
  rw [ofInt64, dif_neg positive]
  rfl

namespace ParamValue

variable {kind : ParamKind}

theorem toJson_number {x : Float} (finite : x.isFinite = true) :
    (number x).toJson = .number (.float x finite) := by
  simp [toJson, Number.ofFloat?, finite]

/-- A default is submitted as it is. -/
theorem toJson_ofDefault {j : Json} (other : kind ≠ .number) (flat : ¬ j.isNested)
    (narrow : ¬ j.isWide) : (ofDefault kind j).toJson = j := by
  cases j with
  | null | bool | string => rfl
  | array | object => exact absurd rfl flat
  | number n =>
    cases n with
    | unsigned n =>
      have small : n.toNat < 9223372036854775808 := by simpa [Json.isWide] using narrow
      simp only [ofDefault, Number.toInt64?]
      rw [if_pos small]
      dsimp only
      rw [if_neg other, toJson, Number.ofInt64_toInt64 small]
    | negative n neg =>
      simp only [ofDefault, Number.toInt64?]
      rw [if_neg other, toJson, Number.ofInt64, dif_pos neg]
    | float x finite => exact toJson_number finite

/-- A whole number beyond the integers with a sign is submitted as a float. -/
theorem toJson_ofDefault_of_wide {n : UInt64} (large : 9223372036854775808 ≤ n.toNat) :
    (ofDefault kind (.number (.unsigned n))).toJson =
      .number (.float n.toFloat (isFinite_toFloat n)) := by
  simp only [ofDefault, Number.toInt64?]
  rw [if_neg (Nat.not_lt.mpr large)]
  exact toJson_number (isFinite_toFloat n)

end ParamValue

variable {d : TemplateDefinition} {p : Param}

theorem get?_fresh (mem : p ∈ d.params) :
    (ParameterForm.ofParams d.params).toValues.get? p.name =
      some (ParamValue.ofDefault p.kind p.default).toJson := by
  have distinct : ((ParameterForm.ofParams d.params).params.map (·.name)).Nodup := by
    rw [ParameterForm.params_ofParams]
    exact d.nodup_names
  have field : (⟨p, .ofDefault p.kind p.default⟩ : FormField) ∈
      (ParameterForm.ofParams d.params).fields :=
    List.mem_map.mpr ⟨p, mem, rfl⟩
  exact ParameterForm.get?_toValues distinct field

/-- A form in which nothing has been edited submits, for a parameter that is no number, the value
that the template has under its name, just as it is there. Only for a whole number beyond the
integers of 64 bits with a sign it submits a float. -/
theorem default_submitted (mem : p ∈ d.params) (other : p.kind ≠ .number) :
    d.values.get? p.name = some p.default ∧
    ((ParameterForm.ofParams d.params).toValues.get? p.name = some p.default ↔
      ¬ p.default.isWide) ∧
    ∀ n, p.default = .number (.unsigned n) → 9223372036854775808 ≤ n.toNat → ∃ finite,
      (ParameterForm.ofParams d.params).toValues.get? p.name =
        some (.number (.float n.toFloat finite)) := by
  obtain ⟨held, flat⟩ := TemplateDefinition.default_of_mem mem
  rw [get?_fresh mem]
  refine ⟨held, ⟨fun same wide => ?_, fun narrow => ?_⟩, ?_⟩
  · obtain ⟨n, is, large⟩ := Json.exists_of_isWide wide
    rw [is, ParamValue.toJson_ofDefault_of_wide large] at same
    cases same
  · rw [ParamValue.toJson_ofDefault other flat narrow]
  · rintro n is large
    exact ⟨_, by rw [is, ParamValue.toJson_ofDefault_of_wide large]⟩

def seeded : TemplateDefinition where
  values := ⟨[("seed", .number (.unsigned 18446744073709551615))], by simp⟩
  schema := { properties := ⟨[("seed", .object [("type", .string "integer")])], by simp⟩ }

theorem mem_params_seeded :
    (⟨"seed", .integer, .number (.unsigned 18446744073709551615), "", false, none⟩ : Param) ∈
      seeded.params :=
  List.mem_singleton.mpr rfl

theorem seed_submitted_as_float :
    seeded.values.get? "seed" = some (.number (.unsigned 18446744073709551615)) ∧ ∃ finite,
      (ParameterForm.ofParams seeded.params).toValues.get? "seed" =
        some (.number (.float (18446744073709551615 : UInt64).toFloat finite)) :=
  have ⟨held, _, wide⟩ := default_submitted mem_params_seeded (by decide)
  ⟨held, wide 18446744073709551615 rfl (by decide)⟩

/-- Not every default is submitted as it is. -/
theorem not_defaults_submitted : ¬ ∀ d : TemplateDefinition, ∀ p ∈ d.params, p.kind ≠ .number →
    (ParameterForm.ofParams d.params).toValues.get? p.name = d.values.get? p.name := by
  intro all
  have same := all seeded _ mem_params_seeded (by decide)
  rw [get?_fresh mem_params_seeded, (TemplateDefinition.default_of_mem mem_params_seeded).1,
    ParamValue.toJson_ofDefault_of_wide (by decide)] at same
  cases same

end PoolConsole
