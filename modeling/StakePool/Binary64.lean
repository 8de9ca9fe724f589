/-!
# Scaling by a double

Rent multiplies a whole number by an IEEE double. Both the conversion of the number to a double and
the product round to the nearest 53 significant bits, a tie going to the even neighbour; the product is
then cut to a whole number of 64 bits, at the ends of that range rather than around them. All of it is
exact arithmetic on naturals: a product too small to keep 53 bits is below one anyway, and one too
large for a double is beyond 64 bits.
-/

namespace StakePool

inductive Binary64 where
  /-- The value `mantissa * 2 ^ exponent`, or its negative. -/
  | finite (negative : Bool) (mantissa : Nat) (exponent : Int)
  | infinite (negative : Bool)
  | nan
deriving DecidableEq

/-- A quotient by a power of two, rounded to nearest with ties to even. -/
def shiftNearest (n shift : Nat) : Nat :=
  let divisor := 1 <<< shift
  let quotient := n / divisor
  let remainder := n % divisor
  if 2 * remainder < divisor then quotient
  else if divisor < 2 * remainder then quotient + 1
  else quotient + quotient % 2

/-- The nearest number with at most 53 significant bits. -/
def nearestDouble (n : Nat) : Nat :=
  let shift := n.log2 - 52
  if shift = 0 then n else shiftNearest n shift <<< shift

theorem nearestDouble_of_log2_lt {n : Nat} (h : n.log2 < 53) : nearestDouble n = n := by
  have : n.log2 - 52 = 0 := by omega
  simp [nearestDouble, this]

namespace Binary64

/-- The leading bit of every normal mantissa, which is not stored. -/
def hiddenBit : Nat := 1 <<< 52

def ofBits (bits : UInt64) : Binary64 :=
  let negative : Bool := bits.toNat >>> 63 = 1
  let exponent : Nat := bits.toNat >>> 52 % 2048
  let fraction : Nat := bits.toNat % hiddenBit
  if exponent = 2047 then
    if fraction = 0 then infinite negative else nan
  else if exponent = 0 then
    finite negative fraction (-1074)
  else
    finite negative (hiddenBit + fraction) ((exponent : Int) - 1075)

def two : Binary64 := finite false 1 1

/-- The part of `n * 2 ^ exponent` before the point. -/
def shiftFloor (n : Nat) : (exponent : Int) → Nat
  | .ofNat up => n <<< up
  | .negSucc down => n >>> (down + 1)

/-- A whole number times a double, as a word of 64 bits. -/
def scale (n : Nat) : Binary64 → UInt64
  | nan => 0
  | infinite negative => if negative ∨ n = 0 then 0 else UInt64.ofNat (UInt64.size - 1)
  | finite negative mantissa exponent =>
    if negative then
      0
    else
      let product := nearestDouble (nearestDouble n * mantissa)
      UInt64.ofNat (min (shiftFloor product exponent) (UInt64.size - 1))

end Binary64

end StakePool
