import Mathlib

/-!
How an exact fraction is rounded to a float, and when the float is finite.

* `Stands`: a mantissa and the bit after it are the first bits of a fraction. Shifting keeps that.
* `Below`: a float that is bounded by its exponent. Packing it keeps that.
* `isFinite_roundWithAccuracy`: what is rounded is finite if it is less than the mean of the
  greatest float and the power of two after it.
-/

namespace PoolConsole.Rounding

open Float.Model
open Float.Model.UnpackedFloat hiding unpack pack

/-! ## The bits of a fraction -/

/-- The mantissa and the bit after it are the first bits of the fraction `num / den`. -/
def Stands (em : ExtendedMantissa) (num den : Nat) : Prop :=
  2 * num / den = 2 * em.mantissa + em.roundBit.toNat

variable {em : ExtendedMantissa} {num den : Nat}

theorem stands_exact (m : Nat) : Stands (.ofMantissaAndAccuracy m .exact) m 1 := by
  rw [Stands, Nat.div_one]
  rfl

/-- What is left of a division says what the bit after the quotient is. -/
theorem stands_quotient (pos : 0 < den) :
    Stands (.ofMantissaAndAccuracy (num / den) (accuracyOfFraction (num % den) den)) num den := by
  have split : 2 * num / den = 2 * (num / den) + 2 * (num % den) / den := by
    have parts : 2 * num = 2 * (num % den) + den * (2 * (num / den)) := by
      have whole := Nat.mod_add_div num den
      rw [Nat.mul_left_comm]
      omega
    rw [parts, Nat.add_mul_div_left _ _ pos, Nat.add_comm]
  have rest := Nat.mod_lt num pos
  rw [Stands, split, accuracyOfFraction]
  generalize num % den = left at rest
  by_cases none : left = 0
  · simp [none, ExtendedMantissa.ofMantissaAndAccuracy]
  · rw [if_neg none]
    rcases Nat.lt_trichotomy (2 * left) den with less | same | more
    · rw [Nat.compare_eq_lt.mpr less, Nat.div_eq_of_lt less]
      rfl
    · rw [Nat.compare_eq_eq.mpr same, same, Nat.div_self pos]
      rfl
    · have one : 2 * left / den = 1 := Nat.div_eq_of_lt_le (by omega) (by omega)
      rw [Nat.compare_eq_gt.mpr more, one]
      rfl

theorem Stands.mantissa_eq (stands : Stands em num den) : em.mantissa = num / den := by
  have half : 2 * num / den / 2 = num / den := by
    rw [Nat.div_div_eq_div_mul, Nat.mul_comm den, Nat.mul_div_mul_left _ _ Nat.two_pos]
  rw [← half, stands]
  have bit := em.roundBit.toNat_lt
  omega

theorem Stands.shiftRightOne (stands : Stands em num den) :
    Stands em.shiftRightOne num (den * 2) := by
  have quotient : 2 * num / (den * 2) = em.mantissa := by
    rw [Nat.mul_comm den, Nat.mul_div_mul_left _ _ Nat.two_pos, stands.mantissa_eq]
  rw [Stands, quotient]
  change em.mantissa = 2 * (em.mantissa / 2) + (em.mantissa % 2 != 0).toNat
  rcases Nat.mod_two_eq_zero_or_one em.mantissa with even | odd
  · rw [even]
    simp
    omega
  · rw [odd]
    simp
    omega

theorem Stands.shiftRight (stands : Stands em num den) (k : Nat) :
    Stands (k.repeat ExtendedMantissa.shiftRightOne em) num (den * 2 ^ k) := by
  induction k with
  | zero => simpa [Nat.repeat] using stands
  | succ k ih =>
    rw [Nat.pow_succ, ← Nat.mul_assoc]
    exact ih.shiftRightOne

theorem mantissa_shiftRight (em : ExtendedMantissa) (k : Nat) :
    (k.repeat ExtendedMantissa.shiftRightOne em).mantissa = em.mantissa / 2 ^ k := by
  induction k with
  | zero => simp [Nat.repeat]
  | succ k ih =>
    rw [Nat.pow_succ, ← Nat.div_div_eq_div_mul, ← ih]
    rfl

theorem mantissa_ofMantissaAndAccuracy (m : Nat) (a : Accuracy) :
    (ExtendedMantissa.ofMantissaAndAccuracy m a).mantissa = m := by
  rcases a with _ | side
  · rfl
  · cases side <;> rfl

/-- Rounding adds one at most. -/
theorem roundedMantissa_bounds (em : ExtendedMantissa) :
    em.mantissa ≤ em.roundedMantissa ∧ em.roundedMantissa ≤ em.mantissa + 1 := by
  obtain ⟨m, round, sticky⟩ := em
  have parity := Nat.mod_lt m Nat.two_pos
  cases round <;> cases sticky <;>
    simp only [ExtendedMantissa.roundedMantissa, ExtendedMantissa.accuracy,
      Accuracy.roundToNearestEven] <;> omega

/-- The greatest mantissa is odd, so that a half is rounded up there. -/
theorem Stands.roundedMantissa_lt_iff (stands : Stands em num den) (pos : 0 < den)
    (bits : em.mantissa < 2 ^ 53) :
    em.roundedMantissa < 2 ^ 53 ↔ 2 * num < (2 ^ 54 - 1) * den := by
  rw [← Nat.div_lt_iff_lt_mul pos, stands]
  obtain ⟨m, round, sticky⟩ := em
  cases round <;> cases sticky <;>
    simp only [ExtendedMantissa.roundedMantissa, ExtendedMantissa.accuracy,
      Accuracy.roundToNearestEven, Bool.toNat_true, Bool.toNat_false] at bits ⊢ <;> omega

/-! ## What a float is rounded to -/

/-- The exponent that a mantissa of at most 53 bits gets. -/
def target (m : Nat) (e : Int) : Int :=
  max ((m.log2 : Int) + 1 + e - 53) (-1074)

theorem target_eq (m : Nat) (e : Int) :
    Format.binary64.targetExponent (totalExponent m e) = target m e := rfl

def surplus (m : Nat) (e : Int) : Nat :=
  (target m e - e).toNat

/-- The mantissa and the bits after it once they fit into a float. -/
def fitted (m : Nat) (e : Int) (a : Accuracy) : ExtendedMantissa :=
  (surplus m e).repeat ExtendedMantissa.shiftRightOne (.ofMantissaAndAccuracy m a)

variable {m : Nat} {e : Int} {a : Accuracy} {s : Sign}

theorem log2_lt_of_lt {n k : Nat} (pos : 0 < k) (bits : n < 2 ^ k) : n.log2 < k := by
  by_cases zero : n = 0
  · simpa [zero] using pos
  · exact (Nat.log2_lt zero).mpr bits

theorem log2_lt_surplus (m : Nat) (e : Int) : m.log2 < 53 + surplus m e := by
  unfold surplus target
  omega

theorem mantissa_fitted (m : Nat) (e : Int) (a : Accuracy) :
    (fitted m e a).mantissa = m / 2 ^ surplus m e := by
  rw [fitted, mantissa_shiftRight, mantissa_ofMantissaAndAccuracy]

theorem mantissa_fitted_lt (m : Nat) (e : Int) (a : Accuracy) :
    (fitted m e a).mantissa < 2 ^ 53 := by
  rw [mantissa_fitted, Nat.div_lt_iff_lt_mul (Nat.two_pow_pos _), ← Nat.pow_add]
  by_cases zero : m = 0
  · rw [zero]
    exact Nat.two_pow_pos _
  · exact (Nat.log2_lt zero).mp (log2_lt_surplus m e)

/-- The bits that fit are the first ones of the fraction. -/
theorem stands_fitted (stands : Stands (.ofMantissaAndAccuracy m a) num den) (e : Int) :
    Stands (fitted m e a) num (den * 2 ^ surplus m e) :=
  stands.shiftRight _

def build (s : Sign) (m : Nat) (e : Int) : UnpackedFloat :=
  if pos : 0 < m then .finite s m e pos else .zero s

/-- What is rounded is fitted a second time, as rounding may carry into one bit more. -/
theorem roundWithAccuracy_eq_build (s : Sign) (m : Nat) (e : Int) (a : Accuracy) :
    roundWithAccuracy Format.binary64 s m e a =
      build s (fitted (fitted m e a).roundedMantissa (e + surplus m e) .exact).mantissa
        (e + surplus m e + surplus (fitted m e a).roundedMantissa (e + surplus m e)) := by
  change (if h : (fitted (fitted m e a).roundedMantissa (e + surplus m e) .exact).mantissa = 0
    then UnpackedFloat.zero s else .finite s _
      (e + surplus m e + surplus (fitted m e a).roundedMantissa (e + surplus m e)) _) = _
  by_cases zero : (fitted (fitted m e a).roundedMantissa (e + surplus m e) .exact).mantissa = 0
  · rw [dif_pos zero, build, dif_neg (by omega)]
  · rw [dif_neg zero, build, dif_pos (Nat.pos_of_ne_zero zero)]
    rfl

/-- If rounding carries, the exponent is raised by one. -/
theorem roundWithAccuracy_eq (s : Sign) (m : Nat) (e : Int) (a : Accuracy) :
    roundWithAccuracy Format.binary64 s m e a =
      if (fitted m e a).roundedMantissa < 2 ^ 53
      then build s (fitted m e a).roundedMantissa (e + surplus m e)
      else build s (2 ^ 52) (e + surplus m e + 1) := by
  have low : -1074 ≤ e + surplus m e := by
    unfold surplus target
    omega
  have high : (fitted m e a).roundedMantissa ≤ 2 ^ 53 :=
    Nat.le_trans (roundedMantissa_bounds _).2 (mantissa_fitted_lt m e a)
  rw [roundWithAccuracy_eq_build, mantissa_fitted]
  generalize (fitted m e a).roundedMantissa = r at high
  generalize e + surplus m e = x at low
  by_cases fits : r < 2 ^ 53
  · have log : r.log2 < 53 := by
      by_cases zero : r = 0
      · simp [zero]
      · exact (Nat.log2_lt zero).mpr fits
    have none : surplus r x = 0 := by
      unfold surplus target
      omega
    rw [if_pos fits, none]
    simp
  · obtain rfl : r = 2 ^ 53 := by omega
    have one : surplus (2 ^ 53) x = 1 := by
      unfold surplus target
      rw [Nat.log2_two_pow]
      omega
    rw [if_neg fits, one]
    rfl

/-! ## Packing -/

/-- A float that is zero or has a mantissa of 53 bits and at most the given exponent. -/
inductive Below (bound : Int) : UnpackedFloat → Prop
  | zero {s : Sign} : Below bound (.zero s)
  | finite {s : Sign} {m : Nat} {e : Int} {pos : 0 < m} :
      m < 2 ^ 53 → e ≤ bound → Below bound (.finite s m e pos)

variable {bound : Int} {u : UnpackedFloat}

theorem Below.isFinite (below : Below bound u) : u.isFinite = true := by
  cases below <;> rfl

theorem Below.mono {wider : Int} (below : Below bound u) (le : bound ≤ wider) : Below wider u := by
  cases below with
  | zero => exact .zero
  | finite bits low => exact .finite bits (Int.le_trans low le)

theorem Below.neg (below : Below bound u) : Below bound u.neg := by
  cases below with
  | zero => exact .zero
  | finite bits low => exact .finite bits low

theorem below_build (bits : m < 2 ^ 53) (low : e ≤ bound) : Below bound (build s m e) := by
  unfold build
  split
  · exact .finite bits low
  · exact .zero

theorem below_roundWithAccuracy (s : Sign) (m : Nat) (e : Int) (a : Accuracy) :
    Below (max e (target m e) + 1) (roundWithAccuracy Format.binary64 s m e a) := by
  have exponent : e + surplus m e = max e (target m e) := by
    unfold surplus
    omega
  rw [roundWithAccuracy_eq, exponent]
  split
  next fits => exact below_build fits (by omega)
  next => exact below_build (by decide) (Int.le_refl _)

/-- A float of which the exponent is not that of an infinity. -/
theorem below_unpack (b : BitVec Format.binary64.numBits)
    (finite : (unpackExponent b).toNat < 2047) (subnormal : -1074 ≤ bound)
    (low : ((unpackExponent b).toNat : Int) - 1075 ≤ bound) :
    Below bound (UnpackedFloat.unpack Format.binary64 b) := by
  have ordinary : unpackExponent b ≠ -1#11 := by
    intro same
    rw [same] at finite
    exact absurd finite (by decide)
  have bits := (unpackMantissa b).isLt
  rw [UnpackedFloat.unpack]
  dsimp only
  rw [if_neg ordinary]
  split
  next zero =>
    split
    · exact .zero
    · refine .finite (Nat.lt_trans bits (by decide)) ?_
      rw [zero]
      exact subnormal
  next => exact .finite (BitVec.isLt _) low

theorem below_of_isFinite {b : BitVec Format.binary64.numBits}
    (finite : (UnpackedFloat.unpack Format.binary64 b).isFinite = true) :
    Below 971 (UnpackedFloat.unpack Format.binary64 b) := by
  have bits := (unpackExponent b).isLt
  have ordinary : unpackExponent b ≠ -1#11 := by
    intro same
    rw [UnpackedFloat.unpack] at finite
    dsimp only at finite
    rw [if_pos same] at finite
    split at finite <;> cases finite
  have exponent : (unpackExponent b).toNat ≠ 2047 := by
    intro same
    exact ordinary (BitVec.eq_of_toNat_eq same)
  have least : (unpackExponent b).toNat < 2047 := by
    change (unpackExponent b).toNat < 2048 at bits
    omega
  exact below_unpack b least (by decide) (by omega)

theorem biasedExponent (e : Int) :
    (e + Format.binary64.exponentBias + Format.binary64.mantissaBitsWithoutImplicit).toNat =
      (e + 1075).toNat := by
  rw [Int.add_assoc]
  rfl

/-- Packing keeps a float that is in range. -/
theorem Below.unpack_pack (below : Below bound u) (subnormal : -1074 ≤ bound)
    (range : bound ≤ 971) :
    Below bound (UnpackedFloat.unpack Format.binary64 (UnpackedFloat.pack Format.binary64 u)) := by
  cases below with
  | zero =>
    rw [UnpackedFloat.pack, packedZero]
    refine below_unpack _ ?_ subnormal ?_ <;> rw [unpackExponent_packComponents]
    · decide
    · simp
      omega
  | @finite s m e pos bits low =>
    rw [UnpackedFloat.pack, biasedExponent]
    dsimp only
    rw [if_neg (by omega)]
    split
    · have value : (BitVec.ofNat 11 (e + 1075).toNat).toNat = (e + 1075).toNat := by
        rw [BitVec.toNat_ofNat, Nat.mod_eq_of_lt (by omega)]
      refine below_unpack _ ?_ subnormal ?_ <;> rw [unpackExponent_packComponents] <;> omega
    · refine below_unpack _ ?_ subnormal ?_ <;> rw [unpackExponent_packComponents]
      · decide
      · simp
        omega

/-- A float beyond the greatest exponent is packed as an infinity. -/
theorem isFinite_pack_of_lt {pos : 0 < m} (beyond : 971 < e) :
    (UnpackedFloat.unpack Format.binary64
      (UnpackedFloat.pack Format.binary64 (.finite s m e pos))).isFinite = false := by
  rw [UnpackedFloat.pack, biasedExponent]
  dsimp only
  rw [if_pos (by omega), packedInfinity, UnpackedFloat.unpack]
  simp
  rfl

/-! ## The range -/

/-- The least number that is too great for a float: the mean of the greatest float and the power of
two after it. -/
def limit : Rat :=
  2 ^ 1024 - 2 ^ 970

/-- The value of a fraction is the same after bits have been shifted out. -/
theorem value_shift (num den k : Nat) (e : Int) :
    (num : Rat) / den * 2 ^ e = num / (den * 2 ^ k : Nat) * 2 ^ (e + k) := by
  have two : (2 : Rat) ^ k ≠ 0 := by positivity
  rw [zpow_add₀ two_ne_zero, zpow_natCast]
  push_cast
  field_simp

/-- The limit in units of the exponent before the greatest one. -/
theorem limit_eq : limit = (2 ^ 54 - 1) * 2 ^ (970 : Int) := by
  have power : (2 : Rat) ^ 1024 = 2 ^ 54 * 2 ^ 970 := by rw [← pow_add]
  rw [limit, power, zpow_ofNat]
  generalize (2 : Rat) ^ 970 = unit
  ring

theorem value_lt_limit {x : Int} (bits : num / den < 2 ^ 53) (pos : 0 < den) (low : x ≤ 970) :
    (num : Rat) / den * 2 ^ x < limit := by
  have positive : (0 : Rat) < den := Nat.cast_pos.mpr pos
  have upper : (num : Rat) / den < 2 ^ 53 := by
    rw [div_lt_iff₀ positive]
    exact_mod_cast (Nat.div_lt_iff_lt_mul pos).mp bits
  have ratio : (0 : Rat) ≤ (num : Rat) / den := by positivity
  have power : (2 : Rat) ^ x ≤ 2 ^ (970 : Int) := zpow_le_zpow_right₀ one_le_two low
  calc (num : Rat) / den * 2 ^ x ≤ num / den * 2 ^ (970 : Int) :=
        mul_le_mul_of_nonneg_left power ratio
    _ < 2 ^ 53 * 2 ^ (970 : Int) := mul_lt_mul_of_pos_right upper (zpow_pos two_pos _)
    _ ≤ limit := by
      rw [limit_eq]
      exact mul_le_mul_of_nonneg_right (by norm_num) (zpow_nonneg zero_le_two _)

theorem limit_le_value {x : Int} (bits : 2 ^ 52 ≤ num / den) (pos : 0 < den) (high : 972 ≤ x) :
    limit ≤ (num : Rat) / den * 2 ^ x := by
  have positive : (0 : Rat) < den := Nat.cast_pos.mpr pos
  have lower : (2 : Rat) ^ 52 ≤ num / den := by
    rw [le_div_iff₀ positive]
    exact_mod_cast (Nat.le_div_iff_mul_le pos).mp bits
  have ratio : (0 : Rat) ≤ (num : Rat) / den := by positivity
  have power : (2 : Rat) ^ (972 : Int) ≤ 2 ^ x := zpow_le_zpow_right₀ one_le_two high
  have quarter : (2 : Rat) ^ (972 : Int) = 4 * 2 ^ (970 : Int) := by
    rw [show (972 : Int) = 2 + 970 from rfl, zpow_add₀ two_ne_zero]
    norm_num
  calc limit ≤ 2 ^ 52 * 2 ^ (972 : Int) := by
        rw [limit_eq, quarter, ← mul_assoc]
        exact mul_le_mul_of_nonneg_right (by norm_num) (zpow_nonneg zero_le_two _)
    _ ≤ num / den * 2 ^ (972 : Int) := mul_le_mul_of_nonneg_right lower (zpow_nonneg zero_le_two _)
    _ ≤ num / den * 2 ^ x := mul_le_mul_of_nonneg_left power ratio

/-- With the greatest exponent, the limit is half a unit behind the greatest mantissa. -/
theorem value_lt_limit_iff (pos : 0 < den) :
    (num : Rat) / den * 2 ^ (971 : Int) < limit ↔ 2 * num < (2 ^ 54 - 1) * den := by
  have positive : (0 : Rat) < den := Nat.cast_pos.mpr pos
  have half : limit = (2 ^ 54 - 1) / 2 * 2 ^ (971 : Int) := by
    rw [limit_eq, show (971 : Int) = 1 + 970 from rfl, zpow_add₀ two_ne_zero]
    ring
  rw [half, mul_lt_mul_iff_left₀ (zpow_pos two_pos _), div_lt_iff₀ positive, div_mul_eq_mul_div,
    lt_div_iff₀ two_pos, mul_comm (num : Rat), ← Nat.cast_lt (α := Rat)]
  push_cast
  norm_num

/-- Where nothing is subnormal, the mantissa has all its bits. -/
theorem le_mantissa_fitted (aligned : e ≤ target m e) (normal : -1074 < target m e) :
    2 ^ 52 ≤ (fitted m e a).mantissa := by
  have log : 52 + surplus m e = m.log2 := by
    unfold surplus
    unfold target at *
    omega
  have positive : m ≠ 0 := by
    rintro rfl
    simp [target] at aligned normal
    omega
  rw [mantissa_fitted, Nat.le_div_iff_mul_le (Nat.two_pow_pos _), ← Nat.pow_add, log]
  exact Nat.log2_self_le positive

theorem isFinite_pack_build (pos : 0 < m) (beyond : 971 < e) :
    (UnpackedFloat.unpack Format.binary64
      (UnpackedFloat.pack Format.binary64 (build s m e))).isFinite = false := by
  rw [build, dif_pos pos]
  exact isFinite_pack_of_lt beyond

/-- What is rounded is finite if it is less than the limit. -/
theorem isFinite_roundWithAccuracy (stands : Stands (.ofMantissaAndAccuracy m a) num den)
    (pos : 0 < den) (aligned : e ≤ target m e) :
    (UnpackedFloat.unpack Format.binary64 (UnpackedFloat.pack Format.binary64
      (roundWithAccuracy Format.binary64 s m e a))).isFinite = true ↔
      (num : Rat) / den * 2 ^ e < limit := by
  have exponent : e + surplus m e = target m e := by
    unfold surplus
    omega
  have bits := mantissa_fitted_lt m e a
  have fits := stands_fitted stands e
  have whole : 0 < den * 2 ^ surplus m e := Nat.mul_pos pos (Nat.two_pow_pos _)
  rw [value_shift num den (surplus m e) e, exponent]
  -- The greatest exponent is 971; below it everything is finite, above it nothing is.
  rcases lt_trichotomy (target m e) 971 with low | last | high
  · have below := below_roundWithAccuracy s m e a
    rw [max_eq_right aligned] at below
    have finite := (below.mono (by omega)).unpack_pack (by decide) (Int.le_refl 971)
    rw [fits.mantissa_eq] at bits
    exact iff_of_true finite.isFinite (value_lt_limit bits whole (by omega))
  · rw [roundWithAccuracy_eq, exponent, last, value_lt_limit_iff whole,
      ← fits.roundedMantissa_lt_iff whole bits]
    split
    next carries =>
      have below : Below 971 (build s (fitted m e a).roundedMantissa 971) :=
        below_build carries (Int.le_refl _)
      exact iff_of_true (below.unpack_pack (by decide) (Int.le_refl _)).isFinite carries
    next carries =>
      have infinite := isFinite_pack_build (s := s) (m := 2 ^ 52) (e := 971 + 1) (by decide) (by decide)
      exact iff_of_false (by rw [Bool.not_eq_true]; exact infinite) carries
  · have full := le_mantissa_fitted (a := a) aligned (by omega)
    have rounded := Nat.le_trans full (roundedMantissa_bounds _).1
    rw [fits.mantissa_eq] at full
    have beyond := limit_le_value full whole high
    refine iff_of_false ?_ (not_lt.mpr beyond)
    rw [roundWithAccuracy_eq, exponent, Bool.not_eq_true]
    split
    · exact isFinite_pack_build (by omega) high
    · exact isFinite_pack_build (by decide) (by omega)

end PoolConsole.Rounding
