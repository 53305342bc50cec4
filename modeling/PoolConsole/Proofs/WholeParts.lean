import PoolConsole.Proofs.FloatRange
import PoolConsole.Quota

namespace PoolConsole

namespace Rounding

open Float.Model
open Float.Model.UnpackedFloat hiding unpack pack

variable {s : Sign} {u : UnpackedFloat}

/-- If the float is finite and not zero, it has the sign. -/
def Signed (s : Sign) (u : UnpackedFloat) : Prop :=
  ∀ t m e pos, u = .finite t m e pos → t = s

theorem signed_build (s : Sign) (m : Nat) (e : Int) : Signed s (build s m e) := by
  unfold build
  split
  · rintro _ _ _ _ ⟨⟩
    rfl
  · nofun

theorem signed_roundWithAccuracy (s : Sign) (m : Nat) (e : Int) (a : Accuracy) :
    Signed s (roundWithAccuracy Format.binary64 s m e a) := by
  rw [roundWithAccuracy_eq]
  split <;> exact signed_build _ _ _

theorem signed_ofUInt64 (n : UInt64) :
    Signed .positive (UnpackedFloat.ofUInt64 Format.binary64 n) := by
  rw [UnpackedFloat.ofUInt64, UnpackedFloat.ofNat, UnpackedFloat.ofInt, UnpackedFloat.normalize]
  by_cases zero : n.toNat = 0
  · rw [Int.compare_eq_eq.mpr (by omega)]
    rintro _ _ _ _ ⟨⟩
  · rw [Int.compare_eq_gt.mpr (by omega)]
    exact signed_roundWithAccuracy _ _ _ _

theorem Signed.neg (signed : Signed s u) : Signed (-s) u.neg := by
  cases u with
  | finite t m e pos =>
    obtain rfl := signed t m e pos rfl
    rintro _ _ _ _ ⟨⟩
    rfl
  | zero | infinity | notANumber => nofun

/-- What is put together of a sign and other bits has the sign. -/
theorem signed_packComponents (s : Sign) (exponent : BitVec 11) (mantissa : BitVec 52) :
    Signed s (UnpackedFloat.unpack Format.binary64
      (packComponents Format.binary64 s exponent mantissa)) := by
  intro t m e pos is
  rw [UnpackedFloat.unpack] at is
  dsimp only at is
  rw [unpackSign_packComponents, Sign.ofBitVec_toBitVec] at is
  -- An exponent of ones is no finite float; one of zeros is zero or subnormal.
  split at is
  · split at is <;> cases is
  · split at is
    · split at is <;> cases is
      rfl
    · cases is
      rfl

theorem Signed.unpack_pack (signed : Signed s u) :
    Signed s (UnpackedFloat.unpack Format.binary64 (UnpackedFloat.pack Format.binary64 u)) := by
  cases u with
  | finite t m e pos =>
    obtain rfl := signed t m e pos rfl
    rw [UnpackedFloat.pack]
    dsimp only
    split
    · exact signed_packComponents _ _ _
    · split <;> exact signed_packComponents _ _ _
  | zero t => cases t <;> nofun
  | infinity t => cases t <;> nofun
  | notANumber => nofun

/-- The number that a float stands for, zero where it stands for none. -/
def value : UnpackedFloat → Rat
  | .finite s m e _ => s.apply m * 2 ^ e
  | _ => 0

/-- The whole part of a mantissa that is multiplied by a power of two. -/
theorem floor_shifted (m : Nat) (e : Int) :
    ⌊(m : Rat) * 2 ^ e⌋₊ = m <<< e.toNat / 2 ^ (-e).toNat := by
  -- One of the two exponents is zero, whatever the sign of `e`.
  have split : e = e.toNat - (-e).toNat := by omega
  have quotient : (m : Rat) * 2 ^ e = (m <<< e.toNat : Nat) / (2 ^ (-e).toNat : Nat) := by
    conv_lhs => rw [split, zpow_sub₀ two_ne_zero, zpow_natCast, zpow_natCast]
    rw [Nat.shiftLeft_eq]
    push_cast
    rw [mul_div_assoc]
  rw [quotient, Nat.floor_div_eq_div]

theorem roundToInt_eq (s : Sign) (m : Nat) (e : Int) :
    roundToInt s m e = s.apply (⌊(m : Rat) * 2 ^ e⌋₊ : Nat) := by
  have left : (e - 0).toNat = e.toNat := by omega
  have right : (0 - (e - e.toNat)).toNat = (-e).toNat := by omega
  change s.apply (((0 - (e - (e - 0).toNat)).toNat.repeat ExtendedMantissa.shiftRightOne
    (.ofMantissaAndAccuracy (m <<< (e - 0).toNat) .exact)).mantissa : Nat) = _
  rw [left, right, mantissa_shiftRight, mantissa_ofMantissaAndAccuracy, floor_shifted]

/-- A finite float is above zero if it has a mantissa and no minus sign. -/
theorem zero_lt_iff {x : Float} (finite : x.isFinite = true) :
    0 < x ↔ ∃ m e pos, x.toModel.unpack = .finite .positive m e pos := by
  have compared : 0 < x ↔
      (UnpackedFloat.compare (.zero .positive) x.toModel.unpack == some .lt) = true :=
    decide_eq_true_iff
  rw [compared]
  change x.toModel.unpack.isFinite = true at finite
  generalize x.toModel.unpack = u at finite
  cases u with
  | zero => exact iff_of_false Bool.false_ne_true nofun
  | finite s m e pos =>
    cases s with
    | positive => exact iff_of_true rfl ⟨m, e, pos, rfl⟩
    | negative => exact iff_of_false Bool.false_ne_true nofun
  | infinity | notANumber => cases finite

/-- What is not above zero stands for no more than zero. -/
theorem value_nonpos {x : Float} (finite : x.isFinite = true) (low : ¬ 0 < x) :
    value x.toModel.unpack ≤ 0 := by
  rw [zero_lt_iff finite] at low
  generalize x.toModel.unpack = u at low
  cases u with
  | finite s m e pos =>
    cases s with
    | positive => exact absurd ⟨m, e, pos, rfl⟩ low
    | negative =>
      have power : (0 : Rat) ≤ m * 2 ^ e := by positivity
      simp only [value, Sign.apply]
      push_cast
      linarith
  | zero | infinity | notANumber => exact le_rfl

theorem toNat_ofNatClamp (n : Nat) : (UInt64.ofNatClamp n).toNat = min n (2 ^ 64 - 1) := by
  have size : UInt64.size = 2 ^ 64 := rfl
  by_cases fits : n < UInt64.size
  · rw [UInt64.toNat_ofNatClamp_of_lt fits]
    omega
  · rw [UInt64.toNat_ofNatClamp_of_le (by omega)]
    omega

/-- A float above zero is cut to its whole part, up to the greatest number of 64 bits. -/
theorem toNat_toUInt64 {x : Float} (finite : x.isFinite = true) (positive : 0 < x) :
    x.toUInt64.toNat = min ⌊value x.toModel.unpack⌋₊ (2 ^ 64 - 1) := by
  obtain ⟨m, e, pos, is⟩ := (zero_lt_iff finite).mp positive
  change (UInt64.ofNatClamp (x.toModel.unpack.toInt 0 _).toNat).toNat = _
  rw [is, UnpackedFloat.toInt, roundToInt_eq, toNat_ofNatClamp]
  rfl

end Rounding

theorem not_zero_lt_neg_toFloat (n : UInt64) : ¬ 0 < -n.toFloat := by
  have finite : (-n.toFloat).isFinite = true := (isFinite_neg _).trans (isFinite_toFloat n)
  rw [Rounding.zero_lt_iff finite]
  rintro ⟨m, e, pos, is⟩
  -- Packed as a float, negated, and packed again: the sign is kept all the way.
  have signed := (Rounding.signed_ofUInt64 n).unpack_pack.neg.unpack_pack
  cases signed _ m e pos is

def Number.value : Number → Rat
  | .unsigned n => n.toNat
  | .negative n _ => n.toInt
  | .float x _ => Rounding.value x.toModel.unpack

/-- A number is cut to its whole part, where zero and the greatest number of 64 bits are the ends. -/
theorem Quantity.toNat_floor (n : Number) :
    (Quantity.floor n).toNat = min ⌊n.value⌋₊ (2 ^ 64 - 1) := by
  cases n with
  | unsigned n =>
    have fits := n.toNat_lt
    change n.toNat = min ⌊(n.toNat : Rat)⌋₊ (2 ^ 64 - 1)
    rw [Nat.floor_natCast]
    omega
  | negative n negative =>
    have below : (n.toInt : Rat) ≤ 0 := by
      have := Int64.lt_iff_toInt_lt.mp negative
      exact_mod_cast this.le
    change (if 0 < -(UInt64.ofNat n.toInt.natAbs).toFloat then _ else (0 : UInt64)).toNat =
      min ⌊(n.toInt : Rat)⌋₊ _
    rw [if_neg (not_zero_lt_neg_toFloat _), Nat.floor_of_nonpos below]
    rfl
  | float x finite =>
    change (if 0 < x then x.toUInt64 else 0).toNat = min ⌊Rounding.value x.toModel.unpack⌋₊ _
    split
    next positive => exact Rounding.toNat_toUInt64 finite positive
    next low =>
      rw [Nat.floor_of_nonpos (Rounding.value_nonpos finite low)]
      rfl

end PoolConsole
