import StakePool.Address
import StakePool.Role
/-!
# The addresses of a pool

A pool is identified by its root key. The configuration record is derived from the root, and every
role from the address of the configuration record. `AddressPath` says which seeds stand for which
place, `AddressBook` holds what the derivation found.
-/

namespace StakePool

/-- A place in the program's address space. -/
inductive AddressPath where
  | config (root : Key)
  | role (pool : Key) (role : Role)
deriving DecidableEq

namespace AddressPath

def configSeed : Bytes := .ascii "stake_pool"

def seeds : AddressPath → List Bytes
  | config root => [configSeed, root.bytes]
  | role pool r => [pool.bytes, r.seed]

end AddressPath

structure AddressBook where
  programId : Key
  root : Key
  config : DerivedAddress
  roles : RoleTable DerivedAddress
deriving DecidableEq

namespace AddressBook

variable (scheme : AddressScheme)

def findConfig? (programId root : Key) : Option DerivedAddress :=
  scheme.find? (AddressPath.config root).seeds programId

def findRole? (programId pool : Key) (role : Role) : Option DerivedAddress :=
  scheme.find? (AddressPath.role pool role).seeds programId

def derive? (programId root : Key) : Option AddressBook := do
  let config ← findConfig? scheme programId root
  let roles ← RoleTable.collect (findRole? scheme programId config.address)
  return { programId, root, config, roles }

variable (book : AddressBook)

def slot : Slot → DerivedAddress
  | .config => book.config
  | .role role => book.roles.get role

/-- The pool's own address, that of its configuration record. -/
def pool : Key := book.config.address

def address (role : Role) : Key := (book.roles.get role).address

def bump (role : Role) : UInt8 := (book.roles.get role).bump

def path : Slot → AddressPath
  | .config => .config book.root
  | .role role => .role book.pool role

/-- With these seeds the program signs for a slot's address. -/
def signerSeeds (slot : Slot) : List Bytes := (book.path slot).seeds ++ [[(book.slot slot).bump]]

end AddressBook

end StakePool
