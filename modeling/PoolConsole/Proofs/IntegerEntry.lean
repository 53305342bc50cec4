import PoolConsole.Proofs.DecimalText
import PoolConsole.Proofs.EnteredTexts
import PoolConsole.Proofs.LabelText

namespace PoolConsole

namespace Text

theorem isBlank_of_isDigit {c : Char} (digit : c.isDigit = true) : isBlank c = false := by
  simp [Char.isDigit, UInt32.le_iff_toNat_le] at digit
  simp [isBlank]
  omega

theorem SignedDigits.not_blank {cs : List Char} {v : Int} (written : SignedDigits cs v) :
    ∀ c ∈ cs, isBlank c = false := by
  intro c mem
  cases written with
  | unmarked run => exact isBlank_of_isDigit (run.2 c mem)
  | plus run | minus run =>
    rcases List.mem_cons.mp mem with rfl | digit
    · decide
    · exact isBlank_of_isDigit (run.2 c digit)

/-- The text of an integer has no blanks at its ends. -/
theorem trim_integer (v : Int) : trim (integer v) = integer v := by
  have word := (signedDigits_integer v).not_blank
  apply trim_eq_self_iff.mpr
  constructor
  · intro c first
    exact word c (List.mem_of_head? first)
  · intro c last
    exact word c (List.mem_of_getLast? last)

theorem SignedDigits.ne_nil {cs : List Char} {v : Int} (written : SignedDigits cs v) : cs ≠ [] := by
  cases written with
  | unmarked run => exact run.1
  | plus | minus => exact List.cons_ne_nil _ _

end Text

namespace Param

variable {p : Param} {raw : String}

theorem isEmpty_trimChars (raw : String) :
    (Text.trimChars raw.toList).isEmpty = true ↔ Text.trim raw = "" := by
  rw [List.isEmpty_iff, ← String.toList_eq_nil_iff, Text.trim, String.toList_ofList]

/-- How a parameter reads a number: a blank text unsets it, and a text that is no number is refused
with what the parameter expects. -/
def readNumber (p : Param) (read? : List Char → Option ParamValue) (expectation raw : String) :
    Outcome ParamValue :=
  if Text.trim raw = "" then .ok .unset
  else match read? (Text.trim raw).toList with
    | some value => .ok value
    | none => .error (p.refusal expectation raw)

section

variable {read? : List Char → Option ParamValue} {expectation : String} {value : ParamValue}

theorem readNumber_eq_ok_iff :
    p.readNumber read? expectation raw = .ok value ↔
      Text.trim raw = "" ∧ value = .unset ∨
        Text.trim raw ≠ "" ∧ read? (Text.trim raw).toList = some value := by
  unfold readNumber
  by_cases blank : Text.trim raw = ""
  · simp [blank, eq_comm]
  · rw [if_neg blank]
    cases read? (Text.trim raw).toList <;> simp [blank]

theorem readNumber_error {err : PoolError}
    (refused : p.readNumber read? expectation raw = .error err) :
    err = p.refusal expectation raw := by
  unfold readNumber at refused
  split at refused
  next => cases refused
  next =>
    split at refused
    next => cases refused
    next =>
      cases refused
      rfl

/-- The reader works on the characters of the text without its blanks. -/
theorem readNumber_eq (p : Param) (read? : List Char → Option ParamValue)
    (expectation raw : String) :
    p.readNumber read? expectation raw =
      if (Text.trimChars raw.toList).isEmpty then .ok .unset
      else match read? (Text.trimChars raw.toList) with
        | some value => .ok value
        | none => .error (p.refusal expectation raw) := by
  have chars : (Text.trim raw).toList = Text.trimChars raw.toList := String.toList_ofList
  unfold readNumber
  rw [chars]
  by_cases blank : Text.trim raw = ""
  · rw [if_pos blank, if_pos ((isEmpty_trimChars raw).mpr blank)]
  · rw [if_neg blank, if_neg (mt (isEmpty_trimChars raw).mp blank)]

end

theorem readInput_integer (integer : p.kind = .integer) (raw : String) :
    p.readInput raw =
      p.readNumber (fun cs => (Text.signed? cs).map .integer) "expects an integer" raw := by
  rw [readNumber_eq]
  unfold readInput
  rw [integer]
  dsimp only
  cases Text.signed? (Text.trimChars raw.toList) <;> rfl

theorem readInput_number (number : p.kind = .number) (raw : String) :
    p.readInput raw =
      p.readNumber (fun cs => (Decimal.float? cs).map .number) "expects a number" raw := by
  rw [readNumber_eq]
  unfold readInput
  rw [number]
  dsimp only
  cases Decimal.float? (Text.trimChars raw.toList) <;> rfl

/-- A blank text unsets an integer, a whole number of 64 bits sets it to what it stands for, and an
integer reads nothing else. -/
theorem readInput_integer_eq_ok_iff {value : ParamValue} (integer : p.kind = .integer) :
    p.readInput raw = .ok value ↔
      Text.trim raw = "" ∧ value = .unset ∨
        ∃ i, Text.SignedDigits (Text.trim raw).toList i.toInt ∧ value = .integer i := by
  have written {i : Int64} (digits : Text.SignedDigits (Text.trim raw).toList i.toInt) :
      Text.trim raw ≠ "" := by
    intro blank
    exact digits.ne_nil (by rw [blank]; rfl)
  rw [readInput_integer integer, readNumber_eq_ok_iff]
  simp only [Option.map_eq_some_iff, Text.signed?_eq_some_iff]
  constructor
  · rintro (blank | ⟨-, i, digits, rfl⟩)
    · exact .inl blank
    · exact .inr ⟨i, digits, rfl⟩
  · rintro (blank | ⟨i, digits, rfl⟩)
    · exact .inl blank
    · exact .inr ⟨written digits, i, digits, rfl⟩

end Param

structure IntegerEntered (d : TemplateDefinition) (p : Param) (edits : List FormEdit)
    (raw : String) : Prop where
  /-- A text is accepted if it is blank or a whole number of 64 bits, which one sign may precede. -/
  accepted : (∃ next, (d.form edits).setInput p.name raw = .ok next) ↔
    Text.trim raw = "" ∨ ∃ v, Text.SignedDigits (Text.trim raw).toList v ∧
      -9223372036854775808 ≤ v ∧ v ≤ 9223372036854775807
  blank : Text.trim raw = "" → ∀ next, (d.form edits).setInput p.name raw = .ok next →
    next.value? p.name = some .unset
  number : ∀ v, Text.SignedDigits (Text.trim raw).toList v → ∀ next,
    (d.form edits).setInput p.name raw = .ok next →
    ∃ i : Int64, i.toInt = v ∧ next.value? p.name = some (.integer i)
  refused : ∀ err, (d.form edits).setInput p.name raw = .error err →
    err = p.refusal "expects an integer" raw ∧
    d.form (edits ++ [.input p.name raw]) = d.form edits

variable {d : TemplateDefinition} {p : Param}

theorem text_of_integer (integer : p.kind = .integer) : p.kind ≠ .boolean := by
  rw [integer]
  decide

theorem integerEntered (mem : p ∈ d.params) (integer : p.kind = .integer) (edits : List FormEdit)
    (raw : String) : IntegerEntered d p edits raw := by
  have text := text_of_integer integer
  have unsets (blank : Text.trim raw = "") : p.readInput raw = .ok .unset :=
    (Param.readInput_integer_eq_ok_iff integer).mpr (.inl ⟨blank, rfl⟩)
  have sets {i : Int64} (written : Text.SignedDigits (Text.trim raw).toList i.toInt) :
      p.readInput raw = .ok (.integer i) :=
    (Param.readInput_integer_eq_ok_iff integer).mpr (.inr ⟨i, written, rfl⟩)
  constructor
  case accepted =>
    rw [← Text.exists_signed?_iff]
    constructor
    · rintro ⟨next, accepted⟩
      obtain ⟨⟨value, read⟩, -⟩ :=
        (TemplateDefinition.setInput_form_eq_ok_iff mem edits raw).mp accepted
      rcases (Param.readInput_integer_eq_ok_iff integer).mp read with ⟨blank, -⟩ | ⟨i, written, -⟩
      · exact .inl blank
      · exact .inr ⟨i, Text.signed?_eq_some_iff.mpr written⟩
    · rintro (blank | ⟨i, found⟩)
      · exact ⟨_, (d.entered mem text edits (unsets blank)).1⟩
      · exact ⟨_, (d.entered mem text edits (sets (Text.signed?_eq_some_iff.mp found))).1⟩
  case blank =>
    intro blank next accepted
    obtain ⟨-, rfl⟩ := (TemplateDefinition.setInput_form_eq_ok_iff mem edits raw).mp accepted
    exact (d.entered mem text edits (unsets blank)).2.1
  case number =>
    intro v written next accepted
    obtain ⟨⟨value, read⟩, rfl⟩ :=
      (TemplateDefinition.setInput_form_eq_ok_iff mem edits raw).mp accepted
    rcases (Param.readInput_integer_eq_ok_iff integer).mp read with ⟨blank, -⟩ | ⟨i, digits, rfl⟩
    · exact absurd (by rw [blank]; rfl) written.ne_nil
    · exact ⟨i, digits.unique written, (d.entered mem text edits read).2.1⟩
  case refused =>
    intro err refused
    rw [TemplateDefinition.setInput_form_eq_error_iff mem] at refused
    refine ⟨?_, TemplateDefinition.form_refused mem edits refused⟩
    rw [Param.readInput_integer integer] at refused
    exact Param.readNumber_error refused

/-- An integer accepts blank texts and the whole numbers of 64 bits, and becomes what they stand for;
every other text is refused and changes nothing. The text of every integer of 64 bits is shown as it
was entered and is submitted as that integer. -/
theorem integers_entered (mem : p ∈ d.params) (integer : p.kind = .integer)
    (edits : List FormEdit) :
    (∀ raw, IntegerEntered d p edits raw) ∧
    ∀ n : Int64, ∃ next, (d.form edits).setInput p.name (Text.integer n.toInt) = .ok next ∧
      (next.value? p.name).map ParamValue.display = some (Text.integer n.toInt) ∧
      next.toValues.get? p.name = some (.number (.ofInt64 n)) := by
  refine ⟨integerEntered mem integer edits, ?_⟩
  intro n
  have written : Text.SignedDigits (Text.trim (Text.integer n.toInt)).toList n.toInt := by
    rw [Text.trim_integer]
    exact Text.signedDigits_integer n.toInt
  have read : p.readInput (Text.integer n.toInt) = .ok (.integer n) :=
    (Param.readInput_integer_eq_ok_iff integer).mpr (.inr ⟨n, written, rfl⟩)
  obtain ⟨accepted, holds, submits⟩ := d.entered mem (text_of_integer integer) edits read
  refine ⟨_, accepted, ?_, submits⟩
  rw [holds]
  rfl

/-- The least integer of 64 bits, which has one unit more than the greatest one. -/
theorem least_integer_entered :
    (∃ next, (seeded.form []).setInput "seed" "-9223372036854775808" = .ok next ∧
      (next.value? "seed").map ParamValue.display = some "-9223372036854775808" ∧
      next.toValues.get? "seed" = some (.number (.ofInt64 Int64.minValue))) ∧
    ∀ next, (seeded.form []).setInput "seed" " " = .ok next → next.value? "seed" = some .unset :=
  have entered := integers_entered mem_params_seeded rfl []
  ⟨entered.2 Int64.minValue, (entered.1 " ").blank (by decide)⟩

end PoolConsole
