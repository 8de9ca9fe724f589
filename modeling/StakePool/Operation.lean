import StakePool.Account
import StakePool.PoolRecord
/-!
# Operations

The steps that bring a pool into existence. They are plain values: the same list of operations can be
looked over, submitted to a store in batches, or executed by the program itself on the chain.
-/

namespace StakePool

inductive Operation where
  /-- Allocate blank data at a derived address; the payer brings its balance up to `lamports`. -/
  | createAccount (slot : Slot) (address : Key) (space lamports : UInt64) (owner : Key)
  /-- Bring a plain account's balance up to `lamports`. -/
  | fund (address : Key) (lamports : UInt64)
  | openMint (mint : Key) (decimals : UInt8) (authority : Key) (freezeAuthority : Option Key)
  | openTokenAccount (account mint owner : Key)
  | writeRegistry (address : Key) (header : RegistryHeader)
  | writeRecord (address : Key) (record : PoolRecord)
deriving DecidableEq

namespace Operation

/-- The account that the operation is about. -/
def target : Operation → Key
  | createAccount _ address .. => address
  | fund address _ => address
  | openMint mint .. => mint
  | openTokenAccount account .. => account
  | writeRegistry address _ => address
  | writeRecord address _ => address

/-- What the payer has to add as things stand. -/
def fundingNeeded (op : Operation) (reader : Reader) : UInt64 :=
  match op with
  | createAccount _ address _ lamports _ => Saturating.sub64 lamports (reader.lamports address)
  | fund address lamports => Saturating.sub64 lamports (reader.lamports address)
  | _ => 0

end Operation

end StakePool
