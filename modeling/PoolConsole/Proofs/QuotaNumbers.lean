import PoolConsole.Proofs.IntegerEntry
import PoolConsole.Proofs.WholeParts

/-!
What the numbers of a quota are reduced from.

* `Text.DigitsAmong`, `Text.LeadingDigits`: all digits of a text, and those that it starts with.
* `Text.foldlM_pushDigit?`: digits can be read one by one within 64 bits if their value fits.
* `Quantity.Counts`: what a value counts for. `Quantity.digitsOnly_eq_iff`,
  `Quantity.leading_eq_iff`: the two reductions. `Text.DigitsFirst.leading_eq`: where they agree.
* `Quota.StatedBy`: the numbers that an entry of a listing states.
* `quotas_reduced`: all that can be said of the reductions and of the quota of a listing.
-/

namespace PoolConsole

namespace Text

variable {cs digits : List Char}

/-! ## Digits in a text -/

/-- The decimal digits among some characters, in their order. -/
inductive DigitsAmong : List Char → List Char → Prop
  | nil : DigitsAmong [] []
  | digit {c : Char} {cs digits : List Char} : c.isDigit = true → DigitsAmong cs digits →
      DigitsAmong (c :: cs) (c :: digits)
  | other {c : Char} {cs digits : List Char} : c.isDigit = false → DigitsAmong cs digits →
      DigitsAmong (c :: cs) digits

/-- The digits that some characters start with, up to the first other one, blanks in front apart. -/
inductive LeadingDigits : List Char → List Char → Prop
  | intro {blanks digits rest : List Char} :
      (∀ c ∈ blanks, isBlank c = true) → (∀ c ∈ digits, c.isDigit = true) →
      (∀ c ∈ (digits ++ rest).head?, isBlank c = false) →
      (∀ c ∈ rest.head?, c.isDigit = false) →
      LeadingDigits (blanks ++ (digits ++ rest)) digits

inductive DigitsFirst : List Char → Prop
  | intro {blanks digits rest : List Char} :
      (∀ c ∈ blanks, isBlank c = true) → (∀ c ∈ digits, c.isDigit = true) →
      (∀ c ∈ rest, c.isDigit = false) → DigitsFirst (blanks ++ (digits ++ rest))

theorem not_isDigit_of_isBlank {c : Char} (blank : isBlank c = true) : c.isDigit = false := by
  by_contra digit
  rw [isBlank_of_isDigit (Bool.eq_true_of_not_eq_false digit)] at blank
  cases blank

theorem digitsAmong_iff : DigitsAmong cs digits ↔ cs.filter Char.isDigit = digits := by
  constructor
  · intro among
    induction among with
    | nil => rfl
    | digit digit _ ih => rw [List.filter_cons_of_pos digit, ih]
    | other other _ ih => rw [List.filter_cons_of_neg (Bool.eq_false_iff.mp other), ih]
  · rintro rfl
    induction cs with
    | nil => exact .nil
    | cons c cs ih =>
      by_cases digit : c.isDigit = true
      · rw [List.filter_cons_of_pos digit]
        exact .digit digit ih
      · rw [List.filter_cons_of_neg digit]
        exact .other (Bool.eq_false_iff.mpr digit) ih

theorem leadingDigits_iff :
    LeadingDigits cs digits ↔ (cs.dropWhile isBlank).takeWhile Char.isDigit = digits := by
  constructor
  · rintro ⟨blanks, run, word, stop⟩
    rw [(takeWhile_dropWhile_append blanks word).2, (takeWhile_dropWhile_append run stop).1]
  · rintro rfl
    have word : ∀ c ∈ ((cs.dropWhile isBlank).takeWhile Char.isDigit ++
        (cs.dropWhile isBlank).dropWhile Char.isDigit).head?, isBlank c = false := by
      rw [List.takeWhile_append_dropWhile]
      exact not_of_head?_dropWhile _ _
    have leads := LeadingDigits.intro (fun c => List.mem_takeWhile_imp (l := cs))
      (fun c => List.mem_takeWhile_imp) word (not_of_head?_dropWhile _ _)
    rwa [List.takeWhile_append_dropWhile, List.takeWhile_append_dropWhile] at leads

/-- What follows a run of characters from its end on does not belong to it. -/
theorem takeWhile_append_of_stop {p : Char → Bool} {rest : List Char} (front : List Char)
    (stop : ∀ c ∈ rest.head?, p c = false) : (front ++ rest).takeWhile p = front.takeWhile p := by
  induction front with
  | nil =>
    cases rest with
    | nil => rfl
    | cons c rest => simp [stop c rfl]
  | cons c front ih => rw [List.cons_append, List.takeWhile_cons, List.takeWhile_cons, ih]

/-- Blanks at the end do not belong to the digits at the start. -/
theorem takeWhile_trimEndChars (cs : List Char) :
    (trimEndChars cs).takeWhile Char.isDigit = cs.takeWhile Char.isDigit := by
  have whole : trimEndChars cs ++ cs.rtakeWhile isBlank = cs := List.rdropWhile_append_rtakeWhile
  conv_rhs => rw [← whole]
  refine (takeWhile_append_of_stop _ fun c first => ?_).symm
  exact not_isDigit_of_isBlank (List.mem_rtakeWhile_imp (List.mem_of_head? first))

theorem DigitsFirst.takeWhile_eq_filter (first : DigitsFirst cs) :
    (cs.dropWhile isBlank).takeWhile Char.isDigit = cs.filter Char.isDigit := by
  cases first with
  | @intro blanks digits rest blank run other =>
    have none {cs : List Char} (other : ∀ c ∈ cs, c.isDigit = false) :
        cs.filter Char.isDigit = [] :=
      List.filter_eq_nil_iff.mpr fun c mem => Bool.eq_false_iff.mp (other c mem)
    have front := none fun c mem => not_isDigit_of_isBlank (blank c mem)
    rw [List.filter_append, List.filter_append, front, none other, List.filter_eq_self.mpr run,
      List.dropWhile_append_of_pos blank]
    cases digits with
    | nil =>
      -- Without digits the blanks may go on in what follows.
      refine takeWhile_append_of_stop [] fun c mem => other c ?_
      exact (List.dropWhile_suffix isBlank).subset (List.mem_of_head? mem)
    | cons c digits =>
      have word : isBlank c = false := isBlank_of_isDigit (run c List.mem_cons_self)
      rw [List.cons_append, List.dropWhile_cons_of_neg (Bool.eq_false_iff.mp word),
        ← List.cons_append, List.nil_append, List.append_nil]
      exact (takeWhile_dropWhile_append run fun c mem => other c (List.mem_of_head? mem)).1

/-! ## Reading digits within 64 bits -/

/-- A number of 64 bits with one digit more, if it still fits. -/
def pushDigit? (n : UInt64) (c : Char) : Option UInt64 :=
  let digit := UInt64.ofNat (c.toNat - '0'.toNat)
  if 10 * n.toNat + digit.toNat < UInt64.size then some (10 * n + digit) else none

theorem pushDigit?_eq {c : Char} (digit : c.isDigit = true) (n : UInt64) :
    pushDigit? n c = if 10 * n.toNat + (c.toNat - '0'.toNat) < UInt64.size
      then some (UInt64.ofNat (10 * n.toNat + (c.toNat - '0'.toNat))) else none := by
  have value : (UInt64.ofNat (c.toNat - '0'.toNat)).toNat = c.toNat - '0'.toNat := by
    have high := (Char.isDigit_iff_toNat.mp digit).2
    exact UInt64.toNat_ofNat_of_lt' (Nat.lt_of_le_of_lt (Nat.sub_le _ _)
      (Nat.lt_of_le_of_lt high (by decide)))
  rw [pushDigit?, value, UInt64.ofNat_add, UInt64.ofNat_mul, UInt64.ofNat_toNat]
  rfl

theorem le_ofDigitChars (cs : List Char) (n : Nat) : n ≤ Nat.ofDigitChars 10 cs n := by
  rw [Nat.ofDigitChars_eq_ofDigitChars_zero]
  have one : 1 ≤ 10 ^ cs.length := Nat.one_le_pow' _ _
  exact Nat.le_add_right_of_le (Nat.le_mul_of_pos_left n one)

/-- No digit makes a number smaller, so that the digits fit one by one if all of them do. -/
theorem foldlM_pushDigit? (run : ∀ c ∈ cs, c.isDigit = true) (n : UInt64) :
    cs.foldlM pushDigit? n = if Nat.ofDigitChars 10 cs n.toNat < UInt64.size
      then some (UInt64.ofNat (Nat.ofDigitChars 10 cs n.toNat)) else none := by
  induction cs generalizing n with
  | nil =>
    rw [Nat.ofDigitChars_nil, if_pos n.toNat_lt, UInt64.ofNat_toNat]
    rfl
  | cons c cs ih =>
    obtain ⟨digit, run⟩ := List.forall_mem_cons.mp run
    rw [List.foldlM_cons, Nat.ofDigitChars_cons, pushDigit?_eq digit]
    generalize 10 * n.toNat + (c.toNat - '0'.toNat) = next
    by_cases fits : next < UInt64.size
    · rw [if_pos fits, Option.bind_eq_bind, Option.bind_some, ih run,
        UInt64.toNat_ofNat_of_lt' fits]
    · -- A number that is too great already stays so.
      have more := le_ofDigitChars cs next
      rw [if_neg fits, if_neg (by omega)]
      rfl

/-- Digits are read if there are any and their value fits. -/
theorem unsigned?_of_digits (run : ∀ c ∈ cs, c.isDigit = true) :
    unsigned? cs = if cs ≠ [] ∧ digitsValue cs < UInt64.size
      then some (UInt64.ofNat (digitsValue cs)) else none := by
  unfold unsigned?
  split
  next rest => exact absurd (run '+' List.mem_cons_self) (by decide)
  next =>
    by_cases none : cs = []
    · subst none
      rfl
    · dsimp only
      rw [digitRun?_eq_some_iff.mpr ⟨⟨none, run⟩, rfl⟩, Option.bind_some]
      simp only [ne_eq, none, not_false_eq_true, true_and]

end Text

namespace Quantity

open Text

variable {digits : List Char} {found : Option Json} {n : UInt64}

/-! ## What counts -/

structure ValueOf (digits : List Char) (n : UInt64) : Prop where
  none : digits = [] → n = 0
  fits : digits ≠ [] → digitsValue digits < 2 ^ 64 → n.toNat = digitsValue digits
  tooGreat : 2 ^ 64 ≤ digitsValue digits → n = 0
  /-- Reading digit by digit in 64 bits either gives the number or stops where it would overflow. -/
  stepwise : n = (digits.foldlM pushDigit? 0).getD 0

theorem boundedDigits_eq (run : ∀ c ∈ digits, c.isDigit = true) :
    boundedDigits digits =
      if digitsValue digits < UInt64.size then UInt64.ofNat (digitsValue digits) else 0 := by
  rw [boundedDigits, unsigned?_of_digits run]
  by_cases none : digits = []
  · subst none
    rfl
  · by_cases fits : digitsValue digits < UInt64.size
    · rw [if_pos ⟨none, fits⟩, if_pos fits, Option.getD_some]
    · rw [if_neg fun both => fits both.2, if_neg fits, Option.getD_none]

theorem valueOf_iff (run : ∀ c ∈ digits, c.isDigit = true) :
    ValueOf digits n ↔ boundedDigits digits = n := by
  have read : boundedDigits digits = (digits.foldlM pushDigit? 0).getD 0 := by
    rw [boundedDigits_eq run, foldlM_pushDigit? run]
    change _ = (if digitsValue digits < UInt64.size
      then some (UInt64.ofNat (digitsValue digits)) else none).getD 0
    split <;> rfl
  constructor
  · intro value
    rw [read, value.stepwise]
  · rintro rfl
    constructor
    case none =>
      rintro rfl
      rfl
    case fits =>
      intro _ (fits : digitsValue digits < UInt64.size)
      rw [boundedDigits_eq run, if_pos fits, UInt64.toNat_ofNat_of_lt' fits]
    case tooGreat =>
      intro (tooGreat : UInt64.size ≤ digitsValue digits)
      rw [boundedDigits_eq run, if_neg (Nat.not_lt.mpr tooGreat)]
    case stepwise => exact read

/-- What a value counts for, where `finds` says which digits of a text count. -/
inductive Counts (finds : List Char → List Char → Prop) : Option Json → UInt64 → Prop
  | absent : Counts finds none 0
  | text {s : String} {digits : List Char} {n : UInt64} : finds s.toList digits →
      ValueOf digits n → Counts finds (some (.string s)) n
  | number {x : Number} {n : UInt64} : n.toNat = min ⌊x.value⌋₊ (2 ^ 64 - 1) →
      Counts finds (some (.number x)) n
  | other {j : Json} : (∀ s, j ≠ .string s) → (∀ x, j ≠ .number x) → Counts finds (some j) 0

/-- The reduction of a value by the digits that are picked from a text. -/
def reduced (pick : List Char → List Char) : Option Json → UInt64
  | some (.number x) => floor x
  | some (.string s) => boundedDigits (pick s.toList)
  | _ => 0

theorem reduced_eq_iff {finds : List Char → List Char → Prop} {pick : List Char → List Char}
    (picks : ∀ cs digits, finds cs digits ↔ pick cs = digits)
    (run : ∀ cs, ∀ c ∈ pick cs, c.isDigit = true) :
    reduced pick found = n ↔ Counts finds found n := by
  constructor
  · rintro rfl
    cases found with
    | none => exact .absent
    | some j =>
      cases j with
      | string s => exact .text ((picks _ _).mpr rfl) ((valueOf_iff (run _)).mpr rfl)
      | number x => exact .number (toNat_floor x)
      | null | bool | array | object => exact .other nofun nofun
  · intro counts
    cases counts with
    | absent => rfl
    | @text s _ _ digits value =>
      obtain rfl := (picks _ _).mp digits
      exact (valueOf_iff (run _)).mp value
    | number value => exact UInt64.toNat_inj.mp ((toNat_floor _).trans value.symm)
    | @other j text number =>
      cases j with
      | string s => exact absurd rfl (text s)
      | number x => exact absurd rfl (number x)
      | null | bool | array | object => rfl

theorem digitsOnly_eq (found : Option Json) :
    digitsOnly found = reduced (List.filter Char.isDigit) found := by
  cases found with
  | none => rfl
  | some j => cases j <;> rfl

theorem leading_eq (found : Option Json) :
    leading found = reduced (fun cs => (cs.dropWhile isBlank).takeWhile Char.isDigit) found := by
  cases found with
  | none => rfl
  | some j =>
    cases j with
    | string s =>
      change boundedDigits ((trimChars s.toList).takeWhile Char.isDigit) = _
      rw [trimChars, takeWhile_trimEndChars]
      rfl
    | null | bool | number | array | object => rfl

/-- All digits of a text count. -/
theorem digitsOnly_eq_iff : digitsOnly found = n ↔ Counts DigitsAmong found n := by
  rw [digitsOnly_eq]
  exact reduced_eq_iff (fun _ _ => digitsAmong_iff) fun _ _ mem => (List.mem_filter.mp mem).2

/-- The digits that a text starts with count. -/
theorem leading_eq_iff : leading found = n ↔ Counts LeadingDigits found n := by
  rw [leading_eq]
  exact reduced_eq_iff (fun _ _ => leadingDigits_iff) fun _ _ => List.mem_takeWhile_imp

theorem leading_eq_digitsOnly {s : String} (first : DigitsFirst s.toList) :
    leading (some (.string s)) = digitsOnly (some (.string s)) := by
  rw [leading_eq, digitsOnly_eq]
  exact congrArg boundedDigits first.takeWhile_eq_filter

end Quantity

/-! ## Listings -/

namespace Quota

open Text

variable {side key : String} {entry value : Json}

inductive Holds (side key : String) : Json → Json → Prop
  | intro {entry status amounts : List (String × Json)} {value : Json} :
      entry.lookup "status" = some (.object status) →
      status.lookup side = some (.object amounts) →
      amounts.lookup key = some value → Holds side key (.object entry) value

structure NumberOf (finds : List Char → List Char → Prop) (side key : String) (entry : Json)
    (n : UInt64) : Prop where
  held : ∀ value, Holds side key entry value → Quantity.Counts finds (some value) n
  missing : (∀ value, ¬ Holds side key entry value) → n = 0

structure MeterOf (finds : List Char → List Char → Prop) (key : String) (entry : Json)
    (m : QuotaMeter) : Prop where
  used : NumberOf finds "used" key entry m.used
  max : NumberOf finds "hard" key entry m.max

structure StatedBy (q : Quota) (entry : Json) : Prop where
  cpu : MeterOf LeadingDigits "limits.cpu" entry q.cpu
  gpu : MeterOf LeadingDigits "limits.nvidia.com/gpu" entry q.gpu
  memory : MeterOf DigitsAmong "limits.memory" entry q.memory

/-- What an entry has under a key on a side of its status. -/
def held? (side key : String) (entry : Json) : Option Json :=
  ((entry.get? "status").bind (Json.get? side)).bind (Json.get? key)

theorem held?_eq_some_iff : held? side key entry = some value ↔ Holds side key entry value := by
  simp only [held?, Option.bind_eq_some_iff, Json.get?_eq_some_iff]
  constructor
  · rintro ⟨_, ⟨_, ⟨_, rfl, status⟩, _, rfl, amounts⟩, _, rfl, told⟩
    exact .intro status amounts told
  · rintro ⟨status, amounts, told⟩
    exact ⟨_, ⟨_, ⟨_, rfl, status⟩, _, rfl, amounts⟩, _, rfl, told⟩

theorem numberOf_reduced {finds : List Char → List Char → Prop} {reduce : Option Json → UInt64}
    (counts : ∀ {found n}, reduce found = n ↔ Quantity.Counts finds found n)
    (side key : String) (entry : Json) :
    NumberOf finds side key entry (reduce (held? side key entry)) := by
  constructor
  · intro value holds
    rw [held?_eq_some_iff.mpr holds]
    exact counts.mp rfl
  · intro missing
    have none : held? side key entry = none :=
      Option.eq_none_iff_forall_ne_some.mpr fun value told => missing value (held?_eq_some_iff.mp told)
    rw [none]
    exact counts.mpr .absent

theorem ofListing?_eq_none_iff {j : Json} :
    ofListing? j = none ↔ ∀ entry rest, j ≠ .array (entry :: rest) := by
  unfold ofListing?
  split
  next entry rest => exact iff_of_false nofun fun other => other entry rest rfl
  next other => exact iff_of_true rfl other

theorem exists_ofListing? (entry : Json) (rest : List Json) :
    ∃ q, ofListing? (.array (entry :: rest)) = some q ∧ q.StatedBy entry := by
  have leads := numberOf_reduced Quantity.leading_eq_iff
  have digits := numberOf_reduced Quantity.digitsOnly_eq_iff
  exact ⟨_, rfl, ⟨leads _ _ _, leads _ _ _⟩, ⟨leads _ _ _, leads _ _ _⟩,
    ⟨digits _ _ _, digits _ _ _⟩⟩

end Quota

open Quantity

/-- The digits that count in a text are all of them, or those that it starts with. They count for
their value in decimal, or for zero if there are none or the value does not fit 64 bits: nothing
overflows. Where all digits stand at the start, both count the same. A listing states a quota if it
has an entry. Then each number is what the member of the first entry that it is about counts for,
and zero if the member, or an object above it, is not there. -/
theorem quotas_reduced :
    (∀ found n, digitsOnly found = n ↔ Counts Text.DigitsAmong found n) ∧
    (∀ found n, leading found = n ↔ Counts Text.LeadingDigits found n) ∧
    (∀ s : String, Text.DigitsFirst s.toList →
      leading (some (.string s)) = digitsOnly (some (.string s))) ∧
    (∀ j, Quota.ofListing? j = none ↔ ∀ entry rest, j ≠ .array (entry :: rest)) ∧
    ∀ entry rest, ∃ q, Quota.ofListing? (.array (entry :: rest)) = some q ∧ q.StatedBy entry :=
  ⟨fun _ _ => digitsOnly_eq_iff, fun _ _ => leading_eq_iff, fun _ => leading_eq_digitsOnly,
    fun _ => Quota.ofListing?_eq_none_iff, Quota.exists_ofListing?⟩

/-- An entry with the greatest number of 64 bits, and with one more. -/
def entryAtLimit : Json :=
  .object [("status", .object [
    ("used", .object [("limits.cpu", .string " 18446744073709551615 of 2"),
      ("limits.memory", .string "1 8446744073709551616 Ki")]),
    ("hard", .object [("limits.cpu", .number (.negative (-8) (by decide))),
      ("limits.nvidia.com/gpu", .null)])])]

theorem reduced_at_limit :
    Text.DigitsFirst "\u200342 Gi".toList ∧
    leading (some (.string "\u200342 Gi")) = digitsOnly (some (.string "\u200342 Gi")) ∧
    ∃ q, Quota.ofListing? (.array [entryAtLimit]) = some q ∧
      q.cpu.used.toNat = 18446744073709551615 ∧ q.cpu.max = 0 ∧ q.memory.used = 0 ∧
      q.gpu.used = 0 ∧ q.gpu.max = 0 := by
  obtain ⟨digits, leads, agree, -, listed⟩ := quotas_reduced
  obtain ⟨q, read, cpu, gpu, memory⟩ := listed entryAtLimit []
  have first : Text.DigitsFirst "\u200342 Gi".toList :=
    @Text.DigitsFirst.intro ['\u2003'] ['4', '2'] [' ', 'G', 'i']
      (List.forall_iff_forall_mem.mp rfl) (List.forall_iff_forall_mem.mp ⟨rfl, rfl⟩)
      (List.forall_iff_forall_mem.mp ⟨rfl, rfl, rfl⟩)
  refine ⟨first, agree _ first, q, read, ?_, ?_, ?_, ?_, ?_⟩
  · rw [← (leads _ _).mpr (cpu.used.held _ (.intro rfl rfl rfl))]
    decide
  · rw [← (leads _ _).mpr (cpu.max.held _ (.intro rfl rfl rfl))]
    decide
  · rw [← (digits _ _).mpr (memory.used.held _ (.intro rfl rfl rfl))]
    decide
  · refine gpu.used.missing ?_
    rintro _ ⟨⟨⟩, ⟨⟩, ⟨⟩⟩
  · exact ((leads _ _).mpr (gpu.max.held _ (.intro rfl rfl rfl))).symm

end PoolConsole
