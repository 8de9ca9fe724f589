import Mathlib.Algebra.Order.Floor.Semifield
import Mathlib.Data.Rat.Floor
import StakePool.Fee
/-!
# Exact and fair fees

A fee is a share of an amount, rounded down to whole lamports. The share of a valid fee is no larger
than the amount, so cutting the quotient to 64 bits loses nothing, and fees can be reasoned about in
the natural numbers: `toNat_apply` is all that the rest needs to know of the words. Rounding down
makes the fee on two parts of an amount at most one lamport smaller than the fee on the whole.
-/

namespace StakePool

namespace Fee

variable {fee other : Fee} {m n : Nat}

/-- The fee on an amount of any size. -/
def share (fee : Fee) (amount : Nat) : Nat := amount * fee.basisPoints.toNat / 10000

theorem isValid_iff : fee.IsValid ↔ fee.basisPoints.toNat ≤ 10000 := UInt32.le_iff_toNat_le

theorem share_eq_floor (fee : Fee) (amount : Nat) :
    fee.share amount = ⌊(amount * fee.basisPoints.toNat : ℚ) / 10000⌋₊ := by
  have hfloor := Nat.floor_div_eq_div (K := ℚ) (amount * fee.basisPoints.toNat) 10000
  rw [Nat.cast_mul] at hfloor
  exact hfloor.symm

theorem share_le (h : fee.IsValid) (amount : Nat) : fee.share amount ≤ amount := by
  refine Nat.div_le_of_le_mul ?_
  rw [Nat.mul_comm]
  exact Nat.mul_le_mul_right amount (isValid_iff.mp h)

theorem share_mono (h : m ≤ n) : fee.share m ≤ fee.share n :=
  Nat.div_le_div_right (Nat.mul_le_mul_right _ h)

theorem share_le_share (h : fee.basisPoints ≤ other.basisPoints) (amount : Nat) :
    fee.share amount ≤ other.share amount :=
  Nat.div_le_div_right (Nat.mul_le_mul_left _ (UInt32.le_iff_toNat_le.mp h))

/-- The two parts of an amount are rounded down separately, the whole only once. -/
theorem share_add (fee : Fee) (m n : Nat) :
    fee.share m + fee.share n ≤ fee.share (m + n)
      ∧ fee.share (m + n) ≤ fee.share m + fee.share n + 1 := by
  simp only [share, Nat.add_mul]
  omega

theorem toNat_apply (h : fee.IsValid) (x : UInt64) : (fee.apply x).toNat = fee.share x.toNat :=
  UInt64.toNat_ofNat_of_lt' (Nat.lt_of_le_of_lt (share_le h x.toNat) x.toNat_lt)

/-- **Fees at full width.** On every amount a valid fee is exactly the share in basis points, rounded
down. It takes no more than there is, takes no less of more, and a higher fee takes no less of the
same. Whoever splits an amount into two pays at most one lamport less on the parts than on the
whole, and never more. -/
theorem apply_exact_and_fair (h : fee.IsValid) (x y : UInt64) :
    (fee.apply x).toNat = ⌊(x.toNat * fee.basisPoints.toNat : ℚ) / 10000⌋₊
      ∧ fee.apply x ≤ x
      ∧ (x ≤ y → fee.apply x ≤ fee.apply y)
      ∧ (∀ other : Fee, other.IsValid → fee.basisPoints ≤ other.basisPoints →
        fee.apply x ≤ other.apply x)
      ∧ (x.toNat + y.toNat < 2 ^ 64 →
        (fee.apply x).toNat + (fee.apply y).toNat ≤ (fee.apply (x + y)).toNat
          ∧ (fee.apply (x + y)).toNat ≤ (fee.apply x).toNat + (fee.apply y).toNat + 1) := by
  simp only [UInt64.le_iff_toNat_le, toNat_apply h]
  refine ⟨share_eq_floor .., share_le h _, share_mono, fun other hother hle => ?_, fun hfits => ?_⟩
  · rw [toNat_apply hother]
    exact share_le_share hle _
  · rw [UInt64.toNat_add, Nat.mod_eq_of_lt hfits]
    exact share_add ..

/-- A third of all lamports that a word can count: the two halves pay one lamport less. -/
theorem apply_exact_and_fair_thirds :
    let fee : Fee := ⟨3333⟩
    let half : UInt64 := 9223372036854775807
    fee.IsValid ∧ (fee.apply half).toNat = 3074149899883696776
      ∧ (fee.apply half).toNat + (fee.apply (half + 1)).toNat + 1
        = (fee.apply (half + (half + 1))).toNat
      ∧ (fee.apply (half + (half + 1))).toNat
        ≤ (fee.apply half).toNat + (fee.apply (half + 1)).toNat + 1
      ∧ fee.apply half ≤ fee.apply (half + 1) := by
  intro fee half
  have hvalid : fee.IsValid := by decide
  obtain ⟨-, -, hmono, -, hsplit⟩ := apply_exact_and_fair hvalid half (half + 1)
  exact ⟨hvalid, by decide, by decide, (hsplit (by decide)).2, hmono (by decide)⟩

end Fee

end StakePool
