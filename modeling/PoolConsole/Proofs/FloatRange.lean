import PoolConsole.Proofs.DecimalText
import PoolConsole.Proofs.FloatRounding

namespace PoolConsole

section

open Float.Model
open Float.Model.UnpackedFloat hiding unpack pack
open Rounding

/-! ## Operations on floats in range -/

variable {u v : UnpackedFloat} {bound : Int}

/-- The product of two floats in range. -/
theorem below_mul {other : Int} (left : Below bound u) (right : Below other v)
    (subnormal : -1074 ≤ bound + other + 53) :
    Below (bound + other + 54) (UnpackedFloat.mul Format.binary64 u v) := by
  cases left with
  | zero => cases right <;> exact .zero
  | @finite s₁ m₁ e₁ pos₁ bits₁ low₁ =>
    cases right with
    | zero => exact .zero
    | @finite s₂ m₂ e₂ pos₂ bits₂ low₂ =>
      have product : m₁ * m₂ < 2 ^ 53 * 2 ^ 53 := Nat.mul_lt_mul'' bits₁ bits₂
      rw [← Nat.pow_add] at product
      have log := log2_lt_of_lt (by decide) product
      refine (below_roundWithAccuracy _ _ _ _).mono ?_
      unfold target
      omega

/-- The quotient of a float in range and of one that is not close to zero. -/
theorem below_div {s : Sign} {m : Nat} {e : Int} {pos : 0 < m} (left : Below bound u)
    (subnormal : -1074 ≤ bound + 52) (high : -52 ≤ e) :
    Below (bound + 53) (UnpackedFloat.div Format.binary64 u (.finite s m e pos)) := by
  cases left with
  | zero => exact .zero
  | @finite s₁ m₁ e₁ pos₁ bits₁ low₁ =>
    rw [UnpackedFloat.div, divCore]
    dsimp only
    generalize least : min (e₁ - e) _ = x
    have below : x ≤ e₁ - e := by omega
    refine (below_roundWithAccuracy _ _ _ _).mono ?_
    have quotient : m₁ <<< (e₁ - e - x).toNat / m < 2 ^ (53 + (e₁ - e - x).toNat) := by
      rw [Nat.shiftLeft_eq, Nat.pow_add]
      exact Nat.lt_of_le_of_lt (Nat.div_le_self _ _)
        (Nat.mul_lt_mul_of_pos_right bits₁ (Nat.two_pow_pos _))
    have log := log2_lt_of_lt (by omega) quotient
    unfold target
    omega

/-! ## Whole numbers of 64 bits -/

theorem below_ofUInt64 (n : UInt64) : Below 13 (UnpackedFloat.ofUInt64 Format.binary64 n) := by
  have bits := n.toNat_lt
  rw [UnpackedFloat.ofUInt64, UnpackedFloat.ofNat, UnpackedFloat.ofInt, UnpackedFloat.normalize]
  by_cases zero : n.toNat = 0
  · rw [Int.compare_eq_eq.mpr (by omega)]
    exact .zero
  · rw [Int.compare_eq_gt.mpr (by omega), Int.toNat_natCast]
    dsimp only
    rw [UnpackedFloat.round, decreaseExponent, target_eq]
    dsimp only
    generalize shift : (0 - target n.toNat 0).toNat = k
    have shifted : n.toNat <<< k < 2 ^ (n.toNat.log2 + 1 + k) := by
      rw [Nat.shiftLeft_eq, Nat.pow_add]
      exact Nat.mul_lt_mul_of_pos_right Nat.lt_log2_self (Nat.two_pow_pos _)
    have log := log2_lt_of_lt (by decide) bits
    have log' := log2_lt_of_lt (by omega) shifted
    refine (below_roundWithAccuracy _ _ _ _).mono ?_
    unfold target
    omega

/-- Every whole number of 64 bits is finite as a float. -/
theorem isFinite_toFloat (n : UInt64) : n.toFloat.isFinite = true := by
  exact ((below_ofUInt64 n).unpack_pack (by decide) (by decide)).isFinite

/-! ## Decimals that are computed with powers of ten as floats -/

/-- Whether a float is neither great nor close to zero. -/
def isModerate : UnpackedFloat → Bool
  | .finite _ m e _ => m < 9007199254740992 && -52 ≤ e && e ≤ 22
  | _ => false

theorem exists_of_isModerate (moderate : isModerate u = true) :
    ∃ s m e pos, u = .finite s m e pos ∧ m < 2 ^ 53 ∧ -52 ≤ e ∧ e ≤ 22 := by
  cases u with
  | finite s m e pos =>
    simp only [isModerate, Bool.and_eq_true, decide_eq_true_eq] at moderate
    exact ⟨s, m, e, pos, rfl, moderate.1.1, moderate.1.2, moderate.2⟩
  | zero | infinity | notANumber => cases moderate

theorem powersOfTen_moderate :
    (Float.exactlyRepresentablePowersOfTen.all fun f => isModerate f.toModel.unpack) = true := by
  decide +kernel

/-- Both the whole number and the power of ten are moderate, and so is what is computed of them. -/
theorem isFinite_ofScientific_fast {n k : Nat} (s : Bool) (fast : n < 2 ^ 53 ∧ k ≤ 22) :
    (Float.ofScientific n s k).isFinite = true := by
  have size : k < Float.exactlyRepresentablePowersOfTen.size := Nat.lt_succ_of_le fast.2
  have moderate := Array.all_eq_true.mp powersOfTen_moderate k size
  obtain ⟨sign, m, e, pos, is, bits, high, low⟩ := exists_of_isModerate moderate
  have whole := (below_ofUInt64 n.toUInt64).unpack_pack (by decide) (by decide)
  rw [Float.ofScientific, dif_pos fast]
  cases s with
  | true =>
    have below : Below (13 + 53) (UnpackedFloat.div Format.binary64 _ (.finite sign m e pos)) :=
      below_div whole (by decide) high
    rw [← is] at below
    exact (below.unpack_pack (by decide) (by decide)).isFinite
  | false =>
    have power : Below 22 (.finite sign m e pos) := .finite bits low
    rw [← is] at power
    exact ((below_mul whole power (by decide)).unpack_pack (by decide) (by decide)).isFinite

/-! ## The range in decimal -/

theorem pow_lt_limit {k : Int} (low : k ≤ 308) : (10 : Rat) ^ k < limit := by
  have power : (10 : Rat) ^ k ≤ 10 ^ (308 : Int) := zpow_le_zpow_right₀ (by norm_num) low
  have natural : 10 ^ 308 + 2 ^ 970 < 2 ^ 1024 := by decide +kernel
  have gap : (10 : Rat) ^ 308 + 2 ^ 970 < 2 ^ 1024 := by exact_mod_cast natural
  rw [zpow_ofNat] at power
  rw [limit, lt_sub_iff_add_lt]
  exact lt_of_le_of_lt (add_le_add_left power _) gap

theorem limit_le_pow {k : Int} (high : 309 ≤ k) : limit ≤ (10 : Rat) ^ k := by
  have power : (10 : Rat) ^ (309 : Int) ≤ 10 ^ k := zpow_le_zpow_right₀ (by norm_num) high
  have natural : 2 ^ 1024 ≤ 10 ^ 309 := by decide +kernel
  have gap : (2 : Rat) ^ 1024 ≤ 10 ^ 309 := by exact_mod_cast natural
  rw [zpow_ofNat] at power
  rw [limit, sub_le_iff_le_add]
  exact le_trans gap (le_trans power (le_add_of_nonneg_right (pow_nonneg zero_le_two _)))

theorem zero_lt_limit : 0 < limit :=
  lt_trans one_pos (by simpa using pow_lt_limit (k := 0) (by decide))

variable {n : Nat} {x : Int}

/-- A number of so many digits is less than the limit. -/
theorem value_lt_of_lt {k : Nat} (digits : n < 10 ^ k) (low : k + x ≤ 308) :
    (n : Rat) * 10 ^ x < limit := by
  have less : (n : Rat) < 10 ^ (k : Int) := by
    rw [zpow_natCast]
    exact_mod_cast digits
  calc (n : Rat) * 10 ^ x ≤ 10 ^ (k : Int) * 10 ^ x :=
        mul_le_mul_of_nonneg_right less.le (by positivity)
    _ = 10 ^ ((k : Int) + x) := (zpow_add₀ (by norm_num) _ _).symm
    _ < limit := pow_lt_limit low

/-- A number of so many digits is not less than the limit. -/
theorem le_value_of_le {k : Nat} (digits : 10 ^ k ≤ n) (high : 309 ≤ k + x) :
    limit ≤ (n : Rat) * 10 ^ x := by
  have least : (10 : Rat) ^ (k : Int) ≤ n := by
    rw [zpow_natCast]
    exact_mod_cast digits
  calc limit ≤ 10 ^ ((k : Int) + x) := limit_le_pow high
    _ = 10 ^ (k : Int) * 10 ^ x := zpow_add₀ (by norm_num) _ _
    _ ≤ n * 10 ^ x := mul_le_mul_of_nonneg_right least (by positivity)

/-- The product with a power of ten, computed exactly and then rounded. -/
theorem isFinite_scaled (pos : 0 < n) (k : Nat) {m : Nat} {p : 0 < m} {t : Nat} {q : 0 < t}
    (is : m = n <<< 53) (power : t = 10 ^ k) :
    (UnpackedFloat.unpack Format.binary64 (UnpackedFloat.pack Format.binary64
      (UnpackedFloat.mul Format.binary64 (.finite .positive m (-53) p)
        (.finite .positive t 0 q)))).isFinite = true ↔ (n : Rat) * 10 ^ (k : Int) < limit := by
  have great : 2 ^ 53 ≤ m * t := by
    rw [is, power, Nat.shiftLeft_eq]
    have least := Nat.mul_pos pos (Nat.pow_pos (n := k) (show 0 < 10 by decide))
    calc 2 ^ 53 ≤ n * 10 ^ k * 2 ^ 53 := Nat.le_mul_of_pos_left _ least
      _ = n * 2 ^ 53 * 10 ^ k := Nat.mul_right_comm _ _ _
  have log := (Nat.le_log2 (Nat.ne_of_gt (Nat.mul_pos p q))).mpr great
  have aligned : -53 + 0 ≤ target (m * t) (-53 + 0) := by
    unfold target
    omega
  have value : ((m * t : Nat) : Rat) / (1 : Nat) * 2 ^ (-53 + 0 : Int) =
      n * 10 ^ (k : Int) := by
    rw [is, power, Nat.shiftLeft_eq]
    push_cast
    rw [zpow_natCast]
    field_simp
    norm_num
  rw [← value]
  exact isFinite_roundWithAccuracy (stands_exact _) Nat.one_pos aligned

/-- A dividend of enough bits gives a quotient of 53 bits. -/
theorem le_log2_quotient {m t : Nat} (pos : 0 < t) (bits : 2 ^ (53 + t.log2) ≤ m) :
    52 ≤ (m / t).log2 := by
  have least : 2 ^ 52 ≤ m / t := by
    rw [Nat.le_div_iff_mul_le pos]
    calc 2 ^ 52 * t ≤ 2 ^ 52 * 2 ^ (t.log2 + 1) := Nat.mul_le_mul_left _ Nat.lt_log2_self.le
      _ = 2 ^ (53 + t.log2) := by rw [← Nat.pow_add]; congr 1; omega
      _ ≤ m := bits
  exact (Nat.le_log2 (Nat.ne_of_gt (Nat.lt_of_lt_of_le (Nat.two_pow_pos _) least))).mpr least

/-- The quotient by a power of ten, computed with what is left of it and then rounded. -/
theorem isFinite_unscaled (p : 0 < n) (k : Nat) {t : Nat} {q : 0 < t} (power : t = 10 ^ k) :
    (UnpackedFloat.unpack Format.binary64 (UnpackedFloat.pack Format.binary64
      (UnpackedFloat.div Format.binary64 (.finite .positive n 0 p)
        (.finite .positive t 0 q)))).isFinite = true ↔ (n : Rat) * 10 ^ (-k : Int) < limit := by
  have goal : Format.binary64.targetExponent (totalExponent n 0 - totalExponent t 0) =
      max ((n.log2 : Int) + 1 + 0 - (t.log2 + 1 + 0) - 53) (-1074) := rfl
  rw [UnpackedFloat.div, divCore, goal]
  dsimp only
  generalize least : min ((0 : Int) - 0) (max ((n.log2 : Int) + 1 + 0 - (t.log2 + 1 + 0) - 53)
    (-1074)) = e
  generalize shift : ((0 : Int) - 0 - e).toNat = s
  have aligned : e ≤ target (n <<< s / t) e := by
    by_cases subnormal : e ≤ -1074
    · exact Int.le_trans subnormal (Int.le_max_right _ _)
    · have bits : 2 ^ (53 + t.log2) ≤ n <<< s := by
        rw [Nat.shiftLeft_eq]
        calc 2 ^ (53 + t.log2) ≤ 2 ^ (n.log2 + s) :=
              Nat.pow_le_pow_right Nat.two_pos (by omega)
          _ = 2 ^ n.log2 * 2 ^ s := Nat.pow_add _ _ _
          _ ≤ n * 2 ^ s := Nat.mul_le_mul_right _ (Nat.log2_self_le (Nat.ne_of_gt p))
      have log := le_log2_quotient q bits
      unfold target
      omega
  have value : ((n <<< s : Nat) : Rat) / t * 2 ^ e = n * 10 ^ (-k : Int) := by
    have exponent : e = -(s : Int) := by omega
    rw [exponent, power, Nat.shiftLeft_eq]
    push_cast
    rw [zpow_neg, zpow_neg, zpow_natCast, zpow_natCast]
    field_simp
  rw [← value]
  exact isFinite_roundWithAccuracy (stands_quotient q) q aligned

/-- A decimal is read as a finite float if it is less than the limit. -/
theorem isFinite_model (n : Nat) (x : Int) :
    (Float.Model.ofScientific n x).isFinite = true ↔ (n : Rat) * 10 ^ x < limit := by
  change (UnpackedFloat.unpack Format.binary64 (UnpackedFloat.pack Format.binary64
    (UnpackedFloat.ofScientific Format.binary64 n x))).isFinite = true ↔ _
  have zero : (UnpackedFloat.unpack Format.binary64 (UnpackedFloat.pack Format.binary64
      (.zero .positive))).isFinite = true :=
    (Below.zero.unpack_pack (by decide) (Int.le_refl _)).isFinite
  unfold UnpackedFloat.ofScientific
  split
  next none => exact iff_of_true zero (by simp [none, zero_lt_limit])
  next some =>
    have pos := Nat.pos_of_ne_zero some
    split
    next great =>
      have exponent : (2048 : Int) < x := great
      have beyond : limit ≤ (n : Rat) * 10 ^ x := le_value_of_le (k := 0) pos (by omega)
      exact iff_of_false (by decide +kernel) (not_lt.mpr beyond)
    next =>
      split
      next small =>
        have exponent : x < -(2048 + n.log2 : Int) := small
        have digits : n < 10 ^ (n.log2 + 1) :=
          Nat.lt_of_lt_of_le Nat.lt_log2_self (Nat.pow_le_pow_left (by decide) _)
        exact iff_of_true zero (value_lt_of_lt digits (by omega))
      next =>
        split
        next whole =>
          obtain ⟨k, rfl⟩ := Int.eq_ofNat_of_zero_le whole
          exact isFinite_scaled pos k rfl rfl
        next fraction =>
          obtain ⟨k, rfl⟩ : ∃ k : Nat, x = -k := ⟨x.natAbs, by omega⟩
          exact isFinite_unscaled pos k (by rw [Int.neg_neg, Int.toNat_natCast])

/-- A decimal is read as a finite float if it is less than the limit. -/
theorem isFinite_ofScientific (n : Nat) (s : Bool) (k : Nat) :
    (Float.ofScientific n s k).isFinite = true ↔
      (n : Rat) * 10 ^ (if s then -(k : Int) else k) < limit := by
  by_cases fast : n < 2 ^ 53 ∧ k ≤ 22
  · have digits : n < 10 ^ 16 := Nat.lt_trans fast.1 (by decide)
    have low : ((16 : Nat) : Int) + (if s then -(k : Int) else k) ≤ 308 := by
      split <;> omega
    exact iff_of_true (isFinite_ofScientific_fast s fast) (value_lt_of_lt digits low)
  · rw [Float.ofScientific, dif_neg fast]
    have exponent : (if s then Int.negOfNat k else Int.ofNat k) =
        if s then -(k : Int) else k := by
      cases s
      · rfl
      · exact Int.negOfNat_eq
    dsimp only
    rw [exponent]
    exact isFinite_model n _

/-- A number that is written in decimal is read as a finite float if it is less than the limit. -/
theorem Decimal.isFinite_nearestFloat (n : Nat) (x : Int) :
    (nearestFloat n x).isFinite = true ↔ (n : Rat) * 10 ^ x < limit := by
  have length : 0 < (Nat.toDigits 10 n).length := List.length_pos_iff.mpr Nat.toDigits_ne_nil
  have digits : n < 10 ^ (Nat.toDigits 10 n).length :=
    (Nat.length_toDigits_le_iff (by decide) length).mp (Nat.le_refl _)
  unfold nearestFloat
  dsimp only
  split
  next negligible =>
    have zero : (0 : Float).isFinite = true :=
      (isFinite_ofScientific 0 false 0).mpr (by simpa using zero_lt_limit)
    refine iff_of_true zero ?_
    rcases negligible with none | small
    · simpa [none] using zero_lt_limit
    · exact value_lt_of_lt digits (by omega)
  next some =>
    split
    next great =>
      have least : 10 ^ ((Nat.toDigits 10 n).length - 1) ≤ n := by
        by_contra fewer
        by_cases one : (Nat.toDigits 10 n).length = 1
        · simp [one] at fewer
          simp [fewer] at some
        · have shorter := (Nat.length_toDigits_le_iff (by decide) (by omega)).mpr
            (Nat.not_le.mp fewer)
          omega
      have beyond : limit ≤ (n : Rat) * 10 ^ x := le_value_of_le least (by omega)
      exact iff_of_false (by decide +kernel) (not_lt.mpr beyond)
    next =>
      split
      next negative =>
        rw [isFinite_ofScientific, if_pos rfl]
        have exponent : -(x.natAbs : Int) = x := by omega
        rw [exponent]
      next positive =>
        rw [isFinite_ofScientific, if_neg Bool.false_ne_true]
        have exponent : (x.natAbs : Int) = x := by omega
        rw [exponent]

theorem isFinite_neg (x : Float) : (-x).isFinite = x.isFinite := by
  change (UnpackedFloat.unpack Format.binary64 (UnpackedFloat.pack Format.binary64
    (UnpackedFloat.unpack Format.binary64 x.toModel.toBits.toBitVec).neg)).isFinite =
    (UnpackedFloat.unpack Format.binary64 x.toModel.toBits.toBitVec).isFinite
  have below := below_of_isFinite (b := x.toModel.toBits.toBitVec)
  generalize UnpackedFloat.unpack Format.binary64 x.toModel.toBits.toBitVec = u at *
  cases u with
  | zero | finite =>
    have finite := ((below rfl).neg.unpack_pack (by decide) (Int.le_refl _)).isFinite
    rw [finite]
    rfl
  | infinity s => cases s <;> decide +kernel
  | notANumber => decide +kernel

end

/-! ## Texts -/

namespace Decimal

variable {cs : List Char} {f : Float}

/-- A text that stands for no finite float: one of the words, or a numeral beyond the range. -/
inductive NonFinite : List Char → Prop
  | word {cs : List Char} :
      String.ofList (foldCase cs) ∈ ["inf", "infinity", "nan"] → NonFinite cs
  | numeral {cs : List Char} {n : Nat} {x : Int} :
      Numeral cs n x → Rounding.limit ≤ (n : Rat) * 10 ^ x → NonFinite cs

inductive Numeric : List Char → Prop
  | word {cs : List Char} : String.ofList (foldCase cs) ∈ ["inf", "infinity", "nan"] → Numeric cs
  | numeral {cs : List Char} {n : Nat} {x : Int} : Numeral cs n x → Numeric cs

theorem NonFinite.numeric (nonFinite : NonFinite cs) : Numeric cs := by
  cases nonFinite with
  | word word => exact .word word
  | numeral numeral _ => exact .numeral numeral

def afterSign (cs : List Char) : List Char :=
  match cs with
  | '-' :: rest => rest
  | '+' :: rest => rest
  | _ => cs

def unmarked? (cs : List Char) : Option Float :=
  let word := String.ofList (foldCase cs)
  if word = "inf" ∨ word = "infinity" then some (1 / 0)
  else if word = "nan" then some (0 / 0)
  else magnitude? cs

theorem float?_eq (cs : List Char) : ∃ negative : Bool, float? cs =
    (unmarked? (afterSign cs)).map fun x => if negative then -x else x := by
  unfold afterSign
  split
  next => exact ⟨true, rfl⟩
  next => exact ⟨false, rfl⟩
  next minus plus =>
    refine ⟨false, ?_⟩
    unfold float?
    split
    next pair =>
      split at pair
      next rest => exact absurd rfl (minus rest)
      next rest => exact absurd rfl (plus rest)
      next =>
        cases pair
        rfl

theorem exists_unmarked?_iff : (∃ f, unmarked? cs = some f) ↔ Numeric cs := by
  unfold unmarked?
  dsimp only
  split
  next infinite =>
    refine iff_of_true ⟨_, rfl⟩ (.word ?_)
    rcases infinite with is | is <;> simp [is]
  next finite =>
    split
    next none => exact iff_of_true ⟨_, rfl⟩ (.word (by simp [none]))
    next number =>
      constructor
      · rintro ⟨f, read⟩
        obtain ⟨n, x, numeral, -⟩ := magnitude?_eq_some_iff.mp read
        exact .numeral numeral
      · intro numeric
        cases numeric with
        | word word => simp_all
        | numeral numeral => exact ⟨_, magnitude?_eq_some_iff.mpr ⟨_, _, numeral, rfl⟩⟩

theorem isFinite_unmarked? (read : unmarked? cs = some f) :
    f.isFinite = false ↔ NonFinite cs := by
  unfold unmarked? at read
  dsimp only at read
  split at read
  next infinite =>
    cases read
    refine iff_of_true (by decide +kernel) (.word ?_)
    rcases infinite with is | is <;> simp [is]
  next finite =>
    split at read
    next none =>
      cases read
      exact iff_of_true (by decide +kernel) (.word (by simp [none]))
    next number =>
      rw [← Bool.not_eq_true]
      constructor
      · intro beyond
        obtain ⟨n, x, numeral, rfl⟩ := magnitude?_eq_some_iff.mp read
        rw [isFinite_nearestFloat, not_lt] at beyond
        exact .numeral numeral beyond
      · intro nonFinite
        cases nonFinite with
        | word word => simp_all
        | @numeral n x numeral beyond =>
          have same := magnitude?_eq_some_iff.mpr ⟨n, x, numeral, rfl⟩
          rw [read, Option.some.injEq] at same
          rwa [same, isFinite_nearestFloat, not_lt]

/-- A text is read as a float that is not finite if it is one of the words or beyond the range, with
or without a sign. -/
theorem isFinite_float? (read : float? cs = some f) :
    f.isFinite = false ↔ NonFinite (afterSign cs) := by
  obtain ⟨negative, is⟩ := float?_eq cs
  rw [is, Option.map_eq_some_iff] at read
  obtain ⟨x, found, rfl⟩ := read
  rw [← isFinite_unmarked? found]
  cases negative with
  | true => rw [if_pos rfl, isFinite_neg]
  | false => rw [if_neg Bool.false_ne_true]

/-- A word, or a numeral beyond the range, is read as a float all the same. -/
theorem exists_float?_of_nonFinite {cs : List Char} (nonFinite : NonFinite (afterSign cs)) :
    ∃ f, float? cs = some f ∧ f.isFinite = false := by
  obtain ⟨x, found⟩ := exists_unmarked?_iff.mpr nonFinite.numeric
  obtain ⟨negative, is⟩ := float?_eq cs
  have read : float? cs = some (if negative then -x else x) := by rw [is, found]; rfl
  exact ⟨_, read, (isFinite_float? read).mpr nonFinite⟩

/-- A text is not read if it stands for no number, with or without a sign. -/
theorem float?_eq_none_iff : float? cs = none ↔ ¬ Numeric (afterSign cs) := by
  obtain ⟨negative, is⟩ := float?_eq cs
  rw [is, Option.map_eq_none_iff, ← exists_unmarked?_iff, Option.eq_none_iff_forall_ne_some,
    not_exists]

end Decimal

end PoolConsole
