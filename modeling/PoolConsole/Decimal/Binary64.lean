namespace PoolConsole

inductive Binary64 where
  | nan
  | infinite (negative : Bool)
  | finite (negative : Bool) (m : Nat) (e : Int)
  deriving DecidableEq, Repr

namespace Binary64

/-- The least exponent of a finite float, that of the subnormal numbers. -/
def minExponent : Int := -1074

/-- The bit above the fraction, which is one in a number that is not subnormal. -/
def hiddenBit : Nat := 4503599627370496

def ofBits (bits : UInt64) : Binary64 :=
  let b : Nat := bits.toNat
  let negative := b / 9223372036854775808 == 1
  let exponent : Nat := b / hiddenBit % 2048
  let fraction : Nat := b % hiddenBit
  if exponent = 2047 then
    if fraction = 0 then .infinite negative else .nan
  else if exponent = 0 then .finite negative fraction minExponent
  else .finite negative (fraction + hiddenBit) (minExponent + exponent - 1)

def ofFloat (x : Float) : Binary64 :=
  ofBits x.toBits

end Binary64

end PoolConsole
