import PoolConsole.Decimal.Reader

namespace PoolConsole

namespace Text

def DigitRun (cs : List Char) : Prop :=
  cs ≠ [] ∧ ∀ c ∈ cs, c.isDigit = true

inductive SignedDigits : List Char → Int → Prop
  | unmarked {digits : List Char} : DigitRun digits → SignedDigits digits (digitsValue digits)
  | plus {digits : List Char} : DigitRun digits → SignedDigits ('+' :: digits) (digitsValue digits)
  | minus {digits : List Char} : DigitRun digits → SignedDigits ('-' :: digits) (-digitsValue digits)

variable {cs : List Char} {n : Nat} {v : Int} {i : Int64}

/-- A run of characters of one kind ends where the first character of another kind follows. -/
theorem takeWhile_dropWhile_append {p : Char → Bool} {front rest : List Char}
    (all : ∀ c ∈ front, p c = true) (stop : ∀ c ∈ rest.head?, p c = false) :
    (front ++ rest).takeWhile p = front ∧ (front ++ rest).dropWhile p = rest := by
  rw [List.takeWhile_append_of_pos all, List.dropWhile_append_of_pos all]
  cases rest with
  | nil => simp
  | cons c rest => simp [stop c rfl]

theorem digitRun?_eq_some_iff : digitRun? cs = some n ↔ DigitRun cs ∧ digitsValue cs = n := by
  have run : (cs ≠ [] ∧ cs.all Char.isDigit = true) ↔ DigitRun cs := by
    rw [DigitRun, List.all_eq_true]
  unfold digitRun?
  split
  next digits => simp [run.mp digits]
  next other => simp [mt run.mpr other]

/-- Digits do not start with a sign. -/
theorem DigitRun.head_ne {c : Char} {rest : List Char} (run : DigitRun (c :: rest)) :
    c ≠ '+' ∧ c ≠ '-' := by
  have digit := run.2 c List.mem_cons_self
  constructor <;> rintro rfl <;> exact absurd digit (by decide)

theorem exponent?_eq_some_iff : Decimal.exponent? cs = some v ↔ SignedDigits cs v := by
  unfold Decimal.exponent?
  constructor
  · intro read
    split at read
    all_goals
      simp only [Option.map_eq_some_iff, Option.bind_eq_bind, Option.bind_eq_some_iff,
        Option.pure_def, Option.some.injEq, digitRun?_eq_some_iff] at read
    · obtain ⟨_, ⟨_, ⟨run, rfl⟩, rfl⟩, rfl⟩ := read
      exact .minus run
    · obtain ⟨_, ⟨run, rfl⟩, rfl⟩ := read
      exact .plus run
    · obtain ⟨_, ⟨run, rfl⟩, rfl⟩ := read
      exact .unmarked run
  · intro written
    cases written with
    | plus run => simp [digitRun?_eq_some_iff.mpr ⟨run, rfl⟩]
    | minus run => simp [digitRun?_eq_some_iff.mpr ⟨run, rfl⟩]
    | unmarked run =>
      split
      next => exact absurd rfl run.head_ne.2
      next => exact absurd rfl run.head_ne.1
      next => simp [digitRun?_eq_some_iff.mpr ⟨run, rfl⟩]

/-- A text stands for one whole number at most. -/
theorem SignedDigits.unique {w : Int} (written : SignedDigits cs v) (other : SignedDigits cs w) :
    v = w := by
  have read := exponent?_eq_some_iff.mpr written
  rw [exponent?_eq_some_iff.mpr other] at read
  exact (Option.some.inj read).symm

theorem int64?_eq_some_iff : int64? v = some i ↔ i.toInt = v := by
  unfold int64?
  constructor
  · intro fits
    split at fits
    next range =>
      cases fits
      exact Int64.toInt_ofInt_of_le range.1 range.2
    next => cases fits
  · rintro rfl
    have low := i.le_toInt
    have high := i.toInt_lt
    rw [if_pos ⟨low, high⟩, Int64.ofInt_toInt]

/-- An integer of 64 bits is read from what it is written as, and from nothing else. -/
theorem signed?_eq_some_iff : signed? cs = some i ↔ SignedDigits cs i.toInt := by
  unfold signed?
  constructor
  · intro read
    split at read
    all_goals
      simp only [Option.bind_eq_some_iff, digitRun?_eq_some_iff, int64?_eq_some_iff] at read
      obtain ⟨_, ⟨run, rfl⟩, is⟩ := read
      rw [is]
    · rw [Int.neg_one_mul]
      exact .minus run
    · rw [Int.one_mul]
      exact .plus run
    · rw [Int.one_mul]
      exact .unmarked run
  · intro written
    have reads (sign : Int) {digits : List Char} (run : DigitRun digits)
        (is : i.toInt = sign * digitsValue digits) :
        ((digitRun? digits).bind fun n => int64? (sign * n)) = some i :=
      Option.bind_eq_some_iff.mpr
        ⟨_, digitRun?_eq_some_iff.mpr ⟨run, rfl⟩, int64?_eq_some_iff.mpr is⟩
    generalize is : i.toInt = v at written
    cases written with
    | plus run => exact reads 1 run (by omega)
    | minus run => exact reads (-1) run (by omega)
    | unmarked run =>
      split
      next => exact absurd rfl run.head_ne.2
      next => exact absurd rfl run.head_ne.1
      next => exact reads 1 run (by omega)

/-- A text is read as an integer of 64 bits if it is written as one and fits. -/
theorem exists_signed?_iff :
    (∃ i, signed? cs = some i) ↔
      ∃ v, SignedDigits cs v ∧ -9223372036854775808 ≤ v ∧ v ≤ 9223372036854775807 := by
  simp only [signed?_eq_some_iff]
  constructor
  · rintro ⟨i, written⟩
    exact ⟨_, written, i.le_toInt, Int.le_of_lt_add_one i.toInt_lt⟩
  · rintro ⟨v, written, low, high⟩
    refine ⟨Int64.ofInt v, ?_⟩
    rwa [Int64.toInt_ofInt_of_le low (Int.lt_add_one_of_le high)]

theorem digitRun_toDigits (n : Nat) : DigitRun (Nat.toDigits 10 n) :=
  ⟨Nat.toDigits_ne_nil, fun _ mem => Nat.isDigit_of_mem_toDigits (by decide) (by decide) mem⟩

theorem signedDigits_integer (v : Int) : SignedDigits (integer v).toList v := by
  have run := digitRun_toDigits v.natAbs
  have value : digitsValue (Nat.toDigits 10 v.natAbs) = v.natAbs := Nat.ofDigitChars_ten_toDigits
  unfold integer natural
  by_cases negative : v < 0
  · have is : v = -(digitsValue (Nat.toDigits 10 v.natAbs) : Int) := by omega
    have text : ("-" ++ String.ofList (Nat.toDigits 10 v.natAbs)).toList =
        '-' :: Nat.toDigits 10 v.natAbs := by
      simp
    rw [if_pos negative, text]
    conv => rhs; rw [is]
    exact .minus run
  · have is : v = digitsValue (Nat.toDigits 10 v.natAbs) := by omega
    rw [if_neg negative, String.toList_ofList]
    conv => rhs; rw [is]
    exact .unmarked run

end Text

namespace Decimal

open Text

inductive Scale : List Char → Int → Prop
  | absent : Scale [] 0
  | given {mark : Char} {rest : List Char} {x : Int} :
      mark = 'e' ∨ mark = 'E' → SignedDigits rest x → Scale (mark :: rest) x

/-- A numeral that stands for `n · 10 ^ x`: digits with at most one point, then an exponent. -/
inductive Numeral : List Char → Nat → Int → Prop
  | whole {digits scale : List Char} {x : Int} :
      DigitRun digits → Scale scale x → Numeral (digits ++ scale) (digitsValue digits) x
  | pointed {before after scale : List Char} {x : Int} :
      DigitRun (before ++ after) → Scale scale x →
      Numeral (before ++ '.' :: (after ++ scale)) (digitsValue (before ++ after)) (x - after.length)

variable {cs : List Char} {n : Nat} {x : Int} {f : Float}

def scale? : List Char → Option Int
  | [] => some 0
  | c :: tail => if c = 'e' ∨ c = 'E' then exponent? tail else none

theorem scale?_eq_some_iff : scale? cs = some x ↔ Scale cs x := by
  constructor
  · intro read
    unfold scale? at read
    split at read
    next =>
      cases read
      exact .absent
    next mark rest =>
      split at read
      next marked => exact .given marked (exponent?_eq_some_iff.mp read)
      next => cases read
  · intro written
    cases written with
    | absent => rfl
    | given marked digits =>
      rw [scale?, if_pos marked]
      exact exponent?_eq_some_iff.mpr digits

theorem Scale.head_ne {c : Char} {rest : List Char} (scale : Scale (c :: rest) x) :
    c.isDigit = false ∧ c ≠ '.' := by
  cases scale with
  | given marked _ => rcases marked with rfl | rfl <;> decide

theorem Scale.not_digit (scale : Scale cs x) : ∀ c ∈ cs.head?, c.isDigit = false := by
  cases cs with
  | nil => simp
  | cons c rest => simp [scale.head_ne.1]

/-- The float of some digits of which so many are behind the point, and of what follows them. -/
def scaled? (digits : List Char) (places : Nat) (rest : List Char) : Option Float :=
  if digits = [] then none
  else (scale? rest).map fun x => nearestFloat (digitsValue digits) (x - places)

theorem scaled?_eq_some_iff {digits : List Char} {places : Nat} : scaled? digits places cs = some f ↔
    digits ≠ [] ∧ ∃ x, Scale cs x ∧ nearestFloat (digitsValue digits) (x - places) = f := by
  unfold scaled?
  split
  next none => simp [none]
  next some => simp [some, scale?_eq_some_iff]

/-- What is left of the reader of a magnitude once the text is taken apart. -/
theorem scaled?_eq (digits : List Char) (places : Nat) (rest : List Char) :
    (match digits, scale? rest with
      | [], _ => none
      | _, none => none
      | _, some x => some (nearestFloat (digitsValue digits) (x - places))) =
      scaled? digits places rest := by
  cases digits with
  | nil => rfl
  | cons c digits => cases found : scale? rest <;> simp [scaled?, found]

def fraction (cs : List Char) : List Char × List Char :=
  match cs with
  | '.' :: tail => (tail.takeWhile Char.isDigit, tail.dropWhile Char.isDigit)
  | _ => ([], cs)

theorem fraction_of_ne (none : ∀ tail, cs ≠ '.' :: tail) : fraction cs = ([], cs) := by
  unfold fraction
  split
  next tail => exact absurd rfl (none tail)
  next => rfl

theorem magnitude?_eq (cs : List Char) : magnitude? cs =
    scaled? (cs.takeWhile Char.isDigit ++ (fraction (cs.dropWhile Char.isDigit)).1)
      (fraction (cs.dropWhile Char.isDigit)).1.length (fraction (cs.dropWhile Char.isDigit)).2 :=
  scaled?_eq _ _ _

/-- If a point comes after the leading digits, more digits are behind it. -/
theorem magnitude?_of_point {tail : List Char} (point : cs.dropWhile Char.isDigit = '.' :: tail) :
    magnitude? cs = scaled? (cs.takeWhile Char.isDigit ++ tail.takeWhile Char.isDigit)
      (tail.takeWhile Char.isDigit).length (tail.dropWhile Char.isDigit) := by
  rw [magnitude?_eq, point]
  rfl

theorem magnitude?_of_no_point (none : ∀ tail, cs.dropWhile Char.isDigit ≠ '.' :: tail) :
    magnitude? cs = scaled? (cs.takeWhile Char.isDigit) 0 (cs.dropWhile Char.isDigit) := by
  rw [magnitude?_eq, fraction_of_ne none, List.append_nil]
  rfl

/-- A numeral is read as the float that is nearest to it, and nothing else is read as a number. -/
theorem magnitude?_eq_some_iff :
    magnitude? cs = some f ↔ ∃ n x, Numeral cs n x ∧ nearestFloat n x = f := by
  have digits (cs : List Char) : ∀ c ∈ cs.takeWhile Char.isDigit, c.isDigit = true :=
    List.all_eq_true.mp List.all_takeWhile
  constructor
  · intro read
    by_cases pointed : ∃ tail, cs.dropWhile Char.isDigit = '.' :: tail
    · obtain ⟨tail, point⟩ := pointed
      rw [magnitude?_of_point point, scaled?_eq_some_iff] at read
      obtain ⟨some, x, scale, rfl⟩ := read
      have numeral := Numeral.pointed ⟨some, fun c mem =>
        (List.mem_append.mp mem).elim (digits cs c) (digits tail c)⟩ scale
      rw [List.takeWhile_append_dropWhile, ← point, List.takeWhile_append_dropWhile] at numeral
      exact ⟨_, _, numeral, rfl⟩
    · have plain := not_exists.mp pointed
      rw [magnitude?_of_no_point plain, scaled?_eq_some_iff] at read
      obtain ⟨some, x, scale, rfl⟩ := read
      have numeral := Numeral.whole ⟨some, digits cs⟩ scale
      rw [List.takeWhile_append_dropWhile] at numeral
      exact ⟨_, _, numeral, by simp⟩
  · rintro ⟨n, x, numeral, rfl⟩
    cases numeral with
    | @whole digits scale _ run scaled =>
      obtain ⟨taken, dropped⟩ := takeWhile_dropWhile_append run.2 scaled.not_digit
      have plain : ∀ tail, (digits ++ scale).dropWhile Char.isDigit ≠ '.' :: tail := by
        rintro tail point
        rw [dropped] at point
        subst point
        exact absurd rfl scaled.head_ne.2
      rw [magnitude?_of_no_point plain, taken, dropped]
      exact scaled?_eq_some_iff.mpr ⟨run.1, x, scaled, by simp⟩
    | @pointed before after scale x run scaled =>
      have stop : ∀ c ∈ ('.' :: (after ++ scale)).head?, c.isDigit = false := by simp
      have first := takeWhile_dropWhile_append
        (fun c mem => run.2 c (List.mem_append_left _ mem)) stop
      have second := takeWhile_dropWhile_append
        (fun c mem => run.2 c (List.mem_append_right _ mem)) scaled.not_digit
      rw [magnitude?_of_point first.2, first.1, second.1, second.2]
      exact scaled?_eq_some_iff.mpr ⟨run.1, x, scaled, rfl⟩

end Decimal

end PoolConsole
