import StakePool.Key
import StakePool.Saturating
/-!
# Registries

A registry account is a header followed by records of one fixed size, up to a capacity that is fixed
when the account is created. The pool keeps two, one of stake accounts and one of validators; spare
bytes may be reserved in every record for later use.
-/

namespace StakePool

structure RegistryHeader where
  discriminator : Block 8
  /-- The pool that the registry belongs to. -/
  pool : Key
  itemSize : UInt32
  count : UInt32
  capacity : UInt32
  /-- Spare bytes in every record. -/
  spare : UInt32
  reserved : Block 32
deriving DecidableEq

namespace RegistryHeader

def layout : Layout RegistryHeader :=
  ((Layout.block 8).pair <| Key.layout.pair <| Layout.word32.pair <| Layout.word32.pair <|
    Layout.word32.pair <| Layout.word32.pair <| Layout.block 32).map
    (fun (discriminator, pool, itemSize, count, capacity, spare, reserved) =>
      { discriminator, pool, itemSize, count, capacity, spare, reserved })
    (fun h => (h.discriminator, h.pool, h.itemSize, h.count, h.capacity, h.spare, h.reserved))
    (fun _ => rfl) (fun _ => rfl)

def size : Nat := layout.width

theorem size_eq : size = 88 := rfl

def encode (header : RegistryHeader) : Bytes := layout.encode header

/-- The header at the front of a registry's data. -/
def ofData? (data : Bytes) : Option RegistryHeader := layout.readFront? data

end RegistryHeader

/-- What a registry account is sized by. -/
structure RegistryShape where
  discriminator : Block 8
  itemSize : UInt32
  capacity : UInt32
  spare : UInt32
deriving DecidableEq

namespace RegistryShape

/-- Stake account, validator index, delegated amount, last update, flags. -/
def stakeRecordSize : UInt32 := 49

/-- Vote account, active balance, score, last stake delta, stake count, flags. -/
def validatorRecordSize : UInt32 := 53

def stakeListCapacity : UInt32 := 128

def validatorListCapacity : UInt32 := 64

def stakeListDiscriminator : Block 8 := ⟨.ascii "stkrgv01", rfl⟩

def validatorListDiscriminator : Block 8 := ⟨.ascii "valrgv01", rfl⟩

def stakeList (spare : UInt32) : RegistryShape where
  discriminator := stakeListDiscriminator
  itemSize := Saturating.add32 stakeRecordSize spare
  capacity := stakeListCapacity
  spare

def validatorList (spare : UInt32) : RegistryShape where
  discriminator := validatorListDiscriminator
  itemSize := Saturating.add32 validatorRecordSize spare
  capacity := validatorListCapacity
  spare

/-- Header plus `capacity` records. -/
def space (shape : RegistryShape) : UInt64 :=
  UInt64.ofNat RegistryHeader.size + shape.itemSize.toUInt64 * shape.capacity.toUInt64

/-- The records that data of a given size has room for, as far as a word counts them. -/
def capacityFor (shape : RegistryShape) (size : Nat) : UInt32 :=
  if shape.itemSize = 0 then
    0
  else
    let records := (size - RegistryHeader.size) / shape.itemSize.toNat
    UInt32.ofNat (min records (UInt32.size - 1))

/-- The header of a registry without records. -/
def header (shape : RegistryShape) (pool : Key) : RegistryHeader where
  discriminator := shape.discriminator
  pool
  itemSize := shape.itemSize
  count := 0
  capacity := shape.capacity
  spare := shape.spare
  reserved := Block.zero 32

end RegistryShape

end StakePool
