import StakePool.Binary64
/-!
# Rent

An account whose balance covers the rent of its size for long enough is exempt and lives for ever. All
that the pool needs to know of a rent schedule is that minimum, so a `Rent` is the function from data
size to balance.
-/

namespace StakePool

structure Rent where
  minimumBalance : (size : Nat) → UInt64

namespace Rent

/-- What an account costs beyond its data, counted in bytes of data. -/
def accountOverhead : Nat := 128

/-- A price per byte and year, to be paid ahead for a number of years. -/
def ofPrice (lamportsPerByteYear : UInt64) (years : Binary64) : Rent where
  minimumBalance size :=
    let perYear := UInt64.ofNat (accountOverhead + size) * lamportsPerByteYear
    years.scale perYear.toNat

def standard : Rent := ofPrice 3480 .two

def IsExempt (rent : Rent) (balance : UInt64) (size : Nat) : Prop :=
  rent.minimumBalance size ≤ balance

instance (rent : Rent) (balance : UInt64) (size : Nat) : Decidable (rent.IsExempt balance size) :=
  inferInstanceAs (Decidable (_ ≤ _))

end Rent

end StakePool
