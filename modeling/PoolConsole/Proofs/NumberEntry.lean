import PoolConsole.Proofs.FloatRange
import PoolConsole.Proofs.IntegerEntry

namespace PoolConsole

theorem Number.isFinite_toFloat (n : Number) : n.toFloat.isFinite = true := by
  cases n with
  | unsigned n => exact PoolConsole.isFinite_toFloat n
  | negative n _ =>
    change (-(UInt64.ofNat n.toInt.natAbs).toFloat).isFinite = true
    rw [isFinite_neg]
    exact PoolConsole.isFinite_toFloat _
  | float x finite => exact finite

/-- No default but null is submitted as null. -/
theorem ParamValue.toJson_ofDefault_eq_null_iff (kind : ParamKind) (j : Json) :
    (ofDefault kind j).toJson = .null ↔ j = .null := by
  cases j with
  | null => exact Iff.rfl
  | bool | string | array | object => exact iff_of_false nofun nofun
  | number n =>
    refine iff_of_false ?_ nofun
    have float : (ParamValue.number n.toFloat).toJson ≠ .null := by
      rw [toJson_number n.isFinite_toFloat]
      nofun
    unfold ofDefault
    dsimp only
    split
    next i _ =>
      split
      · exact float
      · nofun
    next => exact float

namespace Decimal

theorem not_nonFinite_nil : ¬ NonFinite [] := by
  intro nonFinite
  cases nonFinite with
  | word word => exact absurd word (by decide)
  | numeral numeral _ =>
    generalize none : ([] : List Char) = cs at numeral
    cases numeral with
    | whole run _ => exact run.1 (List.append_eq_nil_iff.mp none.symm).1
    | pointed run _ => simp at none

end Decimal

namespace Param

variable {p : Param} {raw : String} {value : ParamValue}

/-- The text stands for a float that is not finite. -/
def Exceeds (p : Param) (raw : String) : Prop :=
  p.kind = .number ∧ Decimal.NonFinite (Decimal.afterSign (Text.trim raw).toList)

def IsNumeric (p : Param) : Prop :=
  p.kind = .integer ∨ p.kind = .number

/-- What an accepted text is submitted as. -/
theorem toJson_of_read (numeric : p.IsNumeric) (read : p.readInput raw = .ok value) :
    (Text.trim raw = "" ∨ p.Exceeds raw) ∧ value.toJson = .null ∨
      ¬ (Text.trim raw = "" ∨ p.Exceeds raw) ∧ ∃ n, value.toJson = .number n := by
  rcases numeric with integer | number
  · have other : ¬ p.Exceeds raw := by
      rintro ⟨number, -⟩
      rw [integer] at number
      cases number
    rcases (readInput_integer_eq_ok_iff integer).mp read with ⟨blank, rfl⟩ | ⟨i, written, rfl⟩
    · exact .inl ⟨.inl blank, rfl⟩
    · refine .inr ⟨?_, _, rfl⟩
      rintro (blank | exceeds)
      · exact written.ne_nil (by rw [blank]; rfl)
      · exact other exceeds
  · rw [readInput_number number, readNumber_eq_ok_iff] at read
    rcases read with ⟨blank, rfl⟩ | ⟨some, read⟩
    · exact .inl ⟨.inl blank, rfl⟩
    · obtain ⟨x, found, rfl⟩ := Option.map_eq_some_iff.mp read
      by_cases finite : x.isFinite = true
      · refine .inr ⟨?_, _, ParamValue.toJson_number finite⟩
        rintro (blank | ⟨-, nonFinite⟩)
        · exact some blank
        · rw [(Decimal.isFinite_float? found).mpr nonFinite] at finite
          cases finite
      · have nonFinite := (Decimal.isFinite_float? found).mp (Bool.eq_false_iff.mpr finite)
        exact .inl ⟨.inr ⟨number, nonFinite⟩, by simp [ParamValue.toJson, Number.ofFloat?, finite]⟩

/-- A text that exceeds is accepted, and is submitted as null. -/
theorem read_of_exceeds (exceeds : p.Exceeds raw) :
    ∃ value, p.readInput raw = .ok value ∧ value.toJson = .null := by
  obtain ⟨number, nonFinite⟩ := exceeds
  have some : Text.trim raw ≠ "" := by
    intro blank
    rw [blank] at nonFinite
    exact Decimal.not_nonFinite_nil nonFinite
  obtain ⟨f, found, infinite⟩ := Decimal.exists_float?_of_nonFinite nonFinite
  refine ⟨.number f, ?_, by simp [ParamValue.toJson, Number.ofFloat?, infinite]⟩
  rw [readInput_number number, readNumber_eq_ok_iff, found]
  exact .inr ⟨some, rfl⟩

end Param

structure NumbersSubmitted (d : TemplateDefinition) (p : Param) (edits : List FormEdit) : Prop where
  /-- A text that is accepted and is not blank is submitted as a number, unless it exceeds. -/
  accepted : ∀ raw next, Text.trim raw ≠ "" → (d.form edits).setInput p.name raw = .ok next →
    ((∃ n, next.toValues.get? p.name = some (.number n)) ↔ ¬ p.Exceeds raw)
  /-- A text that exceeds is accepted all the same, and is submitted as null. -/
  exceeding : ∀ raw, p.Exceeds raw → ∃ next, (d.form edits).setInput p.name raw = .ok next ∧
    next.toValues.get? p.name = some .null
  unedited : p.lastText? edits = none →
    ((d.form edits).toValues.get? p.name = some .null ↔ p.default = .null)
  /-- After a text has been accepted, null is submitted if the last one is blank or exceeds. -/
  edited : ∀ raw, p.lastText? edits = some raw →
    ((d.form edits).toValues.get? p.name = some .null ↔ Text.trim raw = "" ∨ p.Exceeds raw)

variable {d : TemplateDefinition} {p : Param}

theorem Param.IsNumeric.text (numeric : p.IsNumeric) : p.kind ≠ .boolean := by
  intro boolean
  rcases numeric with integer | number
  · rw [boolean] at integer
    cases integer
  · rw [boolean] at number
    cases number

/-- A number or an integer is submitted as a number, or else as null if its default is null and has
not been edited, or its last text is blank or stands for no finite float. -/
theorem numbers_submitted (mem : p ∈ d.params) (numeric : p.IsNumeric) (edits : List FormEdit) :
    NumbersSubmitted d p edits := by
  constructor
  case accepted =>
    intro raw next some accepted
    obtain ⟨⟨value, read⟩, rfl⟩ :=
      (TemplateDefinition.setInput_form_eq_ok_iff mem edits raw).mp accepted
    rw [(d.entered mem numeric.text edits read).2.2]
    rcases Param.toJson_of_read numeric read with ⟨lost, null⟩ | ⟨kept, n, number⟩
    · have exceeds := lost.resolve_left some
      rw [null]
      exact iff_of_false nofun (not_not_intro exceeds)
    · exact iff_of_true ⟨n, by rw [number]⟩ fun exceeds => kept (.inr exceeds)
  case exceeding =>
    intro raw exceeds
    obtain ⟨value, read, null⟩ := Param.read_of_exceeds exceeds
    obtain ⟨accepted, -, submits⟩ := d.entered mem numeric.text edits read
    exact ⟨_, accepted, by rw [submits, null]⟩
  case unedited =>
    intro none
    rw [TemplateDefinition.submitted_form mem numeric.text, Param.held_of_no_text none,
      Option.some.injEq]
    exact ParamValue.toJson_ofDefault_eq_null_iff p.kind p.default
  case edited =>
    intro raw last
    obtain ⟨value, read⟩ := Param.readInput_of_lastText? last
    rw [TemplateDefinition.submitted_form mem numeric.text, Param.held_of_lastText? last read,
      Option.some.injEq]
    rcases Param.toJson_of_read numeric read with ⟨lost, null⟩ | ⟨kept, n, number⟩
    · exact iff_of_true null lost
    · rw [number]
      exact iff_of_false nofun kept

def rated : TemplateDefinition where
  values := ⟨[("ratio", .number (.unsigned 1))], by simp⟩
  schema := { properties := ⟨[("ratio", .object [("type", .string "number")])], by simp⟩ }

theorem mem_params_rated :
    (⟨"ratio", .number, .number (.unsigned 1), "", false, none⟩ : Param) ∈ rated.params :=
  List.mem_singleton.mpr rfl

theorem exceeds_infinity :
    Param.Exceeds ⟨"ratio", .number, .number (.unsigned 1), "", false, none⟩ "inf" :=
  ⟨rfl, .word (by decide)⟩

/-- An infinity is accepted and then lost, and only the default is a number again. -/
theorem infinity_submitted_as_null :
    (∃ next, (rated.form []).setInput "ratio" "inf" = .ok next ∧
      next.toValues.get? "ratio" = some .null) ∧
    (rated.form []).toValues.get? "ratio" ≠ some .null :=
  have submitted := numbers_submitted mem_params_rated (.inr rfl) []
  ⟨submitted.exceeding "inf" exceeds_infinity, mt (submitted.unedited rfl).mp nofun⟩

/-- Not every text that is accepted and is not blank is submitted as a number. -/
theorem not_numbersSubmitted : ¬ ∀ d : TemplateDefinition, ∀ p ∈ d.params, p.IsNumeric →
    ∀ edits raw next, Text.trim raw ≠ "" → (d.form edits).setInput p.name raw = .ok next →
      ∃ n, next.toValues.get? p.name = some (.number n) := by
  intro all
  obtain ⟨value, read, null⟩ := Param.read_of_exceeds exceeds_infinity
  obtain ⟨accepted, -, submits⟩ := rated.entered mem_params_rated (by decide) [] read
  obtain ⟨n, number⟩ := all rated _ mem_params_rated (.inr rfl) [] "inf" _ (by decide) accepted
  rw [submits, null] at number
  cases number

end PoolConsole
