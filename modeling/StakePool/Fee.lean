import StakePool.Layout
/-!
# Fees

A fee is a share in basis points, hundredths of a percent, taken of an amount and rounded down.
-/

namespace StakePool

structure Fee where
  basisPoints : UInt32
deriving DecidableEq

namespace Fee

/-- The whole amount. -/
def maxBasisPoints : UInt32 := 10000

def IsValid (fee : Fee) : Prop := fee.basisPoints ≤ maxBasisPoints

instance (fee : Fee) : Decidable fee.IsValid := inferInstanceAs (Decidable (_ ≤ _))

/-- The fee on an amount. The product is taken at full width and the quotient cut to 64 bits, which
only an invalid fee can exceed. -/
def apply (fee : Fee) (lamports : UInt64) : UInt64 :=
  UInt64.ofNat (lamports.toNat * fee.basisPoints.toNat / maxBasisPoints.toNat)

/-- A percentage with two places. -/
def text (fee : Fee) : String :=
  let whole := fee.basisPoints.toNat / 100
  let hundredths := fee.basisPoints.toNat % 100
  let padding := if hundredths < 10 then "0" else ""
  s!"{whole}.{padding}{hundredths}%"

instance : ToString Fee := ⟨text⟩

def layout : Layout Fee := Layout.word32.map Fee.mk basisPoints (fun _ => rfl) (fun _ => rfl)

end Fee

end StakePool
