import StakePool.AddressBook
import StakePool.Parameters
/-!
# The request for a new pool

The one instruction that the program understands: found the pool of a root key with given parameters.
It travels as a tag byte, the root and the parameters, together with the accounts that the program is
to work on.
-/

namespace StakePool

/-- An account that an instruction names, and what the instruction may do with it. -/
structure Access where
  key : Key
  isSigner : Bool
  isWritable : Bool
deriving DecidableEq

structure Request where
  root : Key
  parameters : Parameters
deriving DecidableEq

namespace Request

def layout : Layout Request :=
  (Key.layout.pair Parameters.layout).map (fun (root, parameters) => { root, parameters })
    (fun request => (request.root, request.parameters)) (fun _ => rfl) (fun _ => rfl)

def tag : UInt8 := 0

def encode (request : Request) : Bytes := tag :: layout.encode request

/-- Reads the front of a byte string and leaves the rest alone. -/
def decode? : Bytes → Option Request
  | [] => none
  | byte :: rest => if byte = tag then layout.readFront? rest else none

/-- The length of an encoded request. -/
def size : Nat := 1 + layout.width

theorem size_eq : size = 177 := rfl

/-- The pool's accounts, in the order in which an instruction lists them. -/
def slots : List Slot :=
  [.config, .role .reserve, .role .solLeg, .role .stakeList, .role .validatorList, .role .stMint,
    .role .lpMint, .role .stLeg, .role .treasury]

/-- The accounts of the instruction: the payer, who signs, the pool's accounts, and the two programs
that the work is left to. -/
def accesses (book : AddressBook) (payer : Key) : List Access :=
  { key := payer, isSigner := true, isWritable := true }
    :: slots.map (fun slot =>
      { key := (book.slot slot).address, isSigner := false, isWritable := true })
    ++ [{ key := .tokenProgram, isSigner := false, isWritable := false },
      { key := .systemProgram, isSigner := false, isWritable := false }]

end Request

end StakePool
