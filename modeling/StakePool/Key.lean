import StakePool.Layout
/-!
# Keys

A key of 32 bytes names an account, a program or an authority.
-/

namespace StakePool

structure Key where
  bytes : Bytes
  length_bytes : bytes.length = 32
deriving DecidableEq

namespace Key

theorem ext_bytes : {a b : Key} → a.bytes = b.bytes → a = b
  | ⟨_, _⟩, ⟨_, _⟩, rfl => rfl

theorem bytes_inj {a b : Key} : a.bytes = b.bytes ↔ a = b := ⟨ext_bytes, congrArg bytes⟩

def ofBytes? (bytes : Bytes) : Option Key :=
  if h : bytes.length = 32 then some ⟨bytes, h⟩ else none

def layout : Layout Key :=
  (Layout.block 32).map (fun block => ⟨block.bytes, block.length_bytes⟩)
    (fun key => ⟨key.bytes, key.length_bytes⟩) (fun _ => rfl) (fun _ => rfl)

@[simp] theorem encode_layout (key : Key) : layout.encode key = key.bytes := rfl

def zero : Key := ⟨Bytes.zeros 32, Bytes.length_zeros 32⟩

/-- Owner of every account that no other program has been given. -/
def systemProgram : Key := zero

/-- Keeps the mints and the token accounts. -/
def tokenProgram : Key where
  bytes := [
    0x06, 0xdd, 0xf6, 0xe1, 0xd7, 0x65, 0xa1, 0x93, 0xd9, 0xcb, 0xe1, 0x46, 0xce, 0xeb, 0x79, 0xac,
    0x1c, 0xb4, 0x85, 0xed, 0x5f, 0x5b, 0x37, 0x91, 0x3a, 0x8c, 0xf5, 0x85, 0x7e, 0xff, 0x00, 0xa9]
  length_bytes := rfl

/-- The mint of wrapped lamports. The token program treats it as a mint without looking at it. -/
def nativeMint : Key where
  bytes := [
    0x06, 0x9b, 0x88, 0x57, 0xfe, 0xab, 0x81, 0x84, 0xfb, 0x68, 0x7f, 0x63, 0x46, 0x18, 0xc0, 0x35,
    0xda, 0xc4, 0x39, 0xdc, 0x1a, 0xeb, 0x3b, 0x55, 0x98, 0xa0, 0xf0, 0x00, 0x00, 0x00, 0x00, 0x01]
  length_bytes := rfl

/-- The address at which the stake pool program itself is published. -/
def stakePoolProgram : Key where
  bytes := [
    0xf2, 0x62, 0x50, 0x14, 0xb9, 0xc0, 0x48, 0xb6, 0xf0, 0x32, 0x35, 0x3a, 0x09, 0x5d, 0xc5, 0x55,
    0x18, 0x52, 0xdc, 0xa6, 0xfb, 0xf5, 0x03, 0xa7, 0xe7, 0x8e, 0x41, 0x7c, 0xc2, 0x8d, 0x35, 0x78]
  length_bytes := rfl

theorem tokenProgram_ne_systemProgram : tokenProgram ≠ systemProgram := by decide

end Key

end StakePool
