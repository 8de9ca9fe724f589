import StakePool.Key
/-!
# Keys on the signing curve

A key that is the compressed form of a point of the curve Ed25519 may have a private key, so only keys
off the curve are fit for addresses that nobody can sign for. Of the compressed point only the
coordinate `y` matters here: the point exists when `x² = (y² - 1) / (d y² + 1)` has a root. The
denominator never vanishes, so the quotient is a square exactly when the product of the two is, which
Euler's criterion decides. The top bit, the sign of `x`, is never a reason to refuse, and `y` need not
be reduced.
-/

namespace StakePool

/-- `base ^ exponent % modulus` by repeated squaring. -/
def powMod (base exponent modulus : Nat) : Nat :=
  if exponent = 0 then
    1 % modulus
  else
    let root := powMod (base * base % modulus) (exponent / 2) modulus
    if exponent % 2 = 1 then base * root % modulus else root
termination_by exponent

theorem powMod_eq (base exponent modulus : Nat) :
    powMod base exponent modulus = Nat.pow base exponent % modulus := by
  fun_induction powMod base exponent modulus with
  | case1 => simp [Nat.pow_eq]
  | case2 base exponent positive root odd ih =>
    have split : exponent = 2 * (exponent / 2) + 1 := by omega
    simp only [root, ih, Nat.pow_eq]
    rw [← Nat.pow_mod, ← Nat.pow_two, ← Nat.pow_mul, Nat.mul_mod_mod, ← Nat.pow_succ',
      Nat.succ_eq_add_one, ← split]
  | case3 base exponent positive root even ih =>
    have split : exponent = 2 * (exponent / 2) := by omega
    simp only [root, ih, Nat.pow_eq]
    rw [← Nat.pow_mod, ← Nat.pow_two, ← Nat.pow_mul, ← split]

namespace Edwards

/-- The order of the field, `2 ^ 255 - 19`. -/
def prime : Nat := 1 <<< 255 - 19

/-- The constant `d = -121665 / 121666` of the curve equation. -/
def curveConstant : Nat :=
  37095705934669439343138083508754565189542113879843219016388785533085940283555

theorem curveConstant_mul : curveConstant * 121666 % prime = prime - 121665 := by decide

/-- The coordinate `y` that a key spells, its sign bit dropped. -/
def coordinate (key : Key) : Nat := Bytes.toNat key.bytes % (1 <<< 255) % prime

def onCurve (key : Key) : Bool :=
  let square := coordinate key * coordinate key % prime
  let numerator := square + (prime - 1)
  let denominator := curveConstant * square + 1
  powMod (numerator * denominator % prime) ((prime - 1) / 2) prime ≤ 1

end Edwards

end StakePool
