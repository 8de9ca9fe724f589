import StakePool.Address.Edwards
import StakePool.Address.Sha256
/-!
# Derived addresses

A program's own addresses come from hashing seeds together with the program's key. A candidate that
lies on the signing curve is refused, so no private key stands behind a derived address. To make the
derivation succeed one more seed of a single byte, the bump, is tried from 255 downwards, and the
first candidate that is accepted is the canonical one.

The hash and the curve are a parameter, `AddressScheme`, because nothing above this module depends on
which ones they are. `AddressScheme.standard` is the pair that the chain uses.
-/

namespace StakePool

structure AddressScheme where
  digest : Bytes → Key
  onCurve : Key → Bool

structure DerivedAddress where
  address : Key
  bump : UInt8
deriving DecidableEq

namespace AddressScheme

def standard : AddressScheme where
  digest message := ⟨(Sha256.digest message).bytes, (Sha256.digest message).length_bytes⟩
  onCurve := Edwards.onCurve

/-- Ends every hashed string, so that no seeds can imitate another use of the hash. -/
def marker : Bytes := Bytes.ascii "ProgramDerivedAddress"

/-- The byte string that is hashed. -/
def preimage (seeds : List Bytes) (programId : Key) : Bytes :=
  seeds.flatten ++ programId.bytes ++ marker

variable (scheme : AddressScheme)

def OffCurve (key : Key) : Prop := scheme.onCurve key = false

instance (key : Key) : Decidable (scheme.OffCurve key) := inferInstanceAs (Decidable (_ = _))

/-- The address that the seeds give as they are, if it is off the curve. -/
def create? (seeds : List Bytes) (programId : Key) : Option Key :=
  let candidate := scheme.digest (preimage seeds programId)
  if scheme.OffCurve candidate then some candidate else none

/-- The first accepted candidate among the bumps from `bump` down to 1. -/
def search (seeds : List Bytes) (programId : Key) : (bump : Nat) → Option DerivedAddress
  | 0 => none
  | bump + 1 =>
    let byte := UInt8.ofNat (bump + 1)
    match scheme.create? (seeds ++ [[byte]]) programId with
    | some address => some ⟨address, byte⟩
    | none => search seeds programId bump

def find? (seeds : List Bytes) (programId : Key) : Option DerivedAddress :=
  scheme.search seeds programId 255

end AddressScheme

end StakePool
