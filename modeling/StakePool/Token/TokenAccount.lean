import StakePool.Key
import StakePool.Token.OptionField
/-!
# Token accounts

The token program's record of somebody's tokens of one mint.
-/

namespace StakePool

namespace TokenAccount

inductive State where
  | uninitialized
  | initialized
  | frozen
deriving DecidableEq

namespace State

def ofByte? (byte : UInt8) : Option State :=
  if byte = 0 then some uninitialized
  else if byte = 1 then some initialized
  else if byte = 2 then some frozen
  else none

def toByte : State → UInt8
  | uninitialized => 0
  | initialized => 1
  | frozen => 2

@[simp] theorem ofByte?_toByte (state : State) : ofByte? state.toByte = some state := by
  cases state <;> rfl

end State

end TokenAccount

structure TokenAccount where
  mint : Key
  owner : Key
  amount : UInt64
  /-- May move up to `delegatedAmount` in the owner's place. -/
  delegate : Option Key
  state : TokenAccount.State
  /-- The rent held back by an account of wrapped lamports. -/
  nativeReserve : Option UInt64
  delegatedAmount : UInt64
  closeAuthority : Option Key
deriving DecidableEq

namespace TokenAccount

/-- The fields as they are stored, each with all the values its bytes can take. -/
structure Image where
  mint : Key
  owner : Key
  amount : UInt64
  delegate : OptionField Key
  state : UInt8
  nativeReserve : OptionField UInt64
  delegatedAmount : UInt64
  closeAuthority : OptionField Key

def Image.layout : Layout Image :=
  (Key.layout.pair <| Key.layout.pair <| Layout.word64.pair <|
    (OptionField.layout Key.layout).pair <| Layout.byte.pair <|
    (OptionField.layout Layout.word64).pair <| Layout.word64.pair <|
    OptionField.layout Key.layout).map
    (fun (mint, owner, amount, delegate, state, nativeReserve, delegatedAmount, closeAuthority) =>
      { mint, owner, amount, delegate, state, nativeReserve, delegatedAmount, closeAuthority })
    (fun a => (a.mint, a.owner, a.amount, a.delegate, a.state, a.nativeReserve, a.delegatedAmount,
      a.closeAuthority))
    (fun _ => rfl) (fun _ => rfl)

def size : Nat := Image.layout.width

theorem size_eq : size = 165 := rfl

def ofImage? (image : Image) : Option TokenAccount := do
  let delegate ← image.delegate.read?
  let state ← State.ofByte? image.state
  let nativeReserve ← image.nativeReserve.read?
  let closeAuthority ← image.closeAuthority.read?
  return {
    mint := image.mint
    owner := image.owner
    amount := image.amount
    delegate
    state
    nativeReserve
    delegatedAmount := image.delegatedAmount
    closeAuthority }

def onto (account : TokenAccount) (image : Image) : Image where
  mint := account.mint
  owner := account.owner
  amount := account.amount
  delegate := image.delegate.write account.delegate
  state := account.state.toByte
  nativeReserve := image.nativeReserve.write account.nativeReserve
  delegatedAmount := account.delegatedAmount
  closeAuthority := image.closeAuthority.write account.closeAuthority

theorem ofImage?_onto (account : TokenAccount) (image : Image) :
    ofImage? (account.onto image) = some account := by
  simp [ofImage?, onto]

theorem ofImage?_eq_some {image : Image} {account : TokenAccount}
    (h : ofImage? image = some account) :
    account.mint = image.mint ∧ account.owner = image.owner
      ∧ State.ofByte? image.state = some account.state := by
  simp only [ofImage?, Option.bind_eq_bind, Option.bind_eq_some_iff] at h
  obtain ⟨delegate, -, state, hstate, native, -, close, -, h⟩ := h
  obtain rfl := Option.some.inj h
  exact ⟨rfl, rfl, hstate⟩

/-- The token account in an account's data, initialized or not. -/
def ofData? (data : Bytes) : Option TokenAccount := (Image.layout.read? data).bind ofImage?

theorem ofData?_eq_some_iff {data : Bytes} {account : TokenAccount} :
    ofData? data = some account
      ↔ ∃ image, data = Image.layout.encode image ∧ ofImage? image = some account := by
  simp only [ofData?, Option.bind_eq_some_iff, Layout.read?_eq_some_iff]

theorem length_eq_of_ofData? {data : Bytes} {account : TokenAccount}
    (h : ofData? data = some account) : data.length = size := by
  obtain ⟨image, rfl, -⟩ := ofData?_eq_some_iff.mp h
  exact Image.layout.length_encode image

/-- The token account in an account's data, if it is in use. -/
def initialized? (data : Bytes) : Option TokenAccount :=
  (ofData? data).filter (·.state ≠ .uninitialized)

theorem initialized?_eq_some_iff {data : Bytes} {account : TokenAccount} :
    initialized? data = some account
      ↔ ofData? data = some account ∧ account.state ≠ .uninitialized := by
  rw [initialized?, Option.filter_eq_some_iff, decide_eq_true_eq]

def writeOver (account : TokenAccount) (data : Bytes) : Bytes :=
  Image.layout.encode (account.onto (Image.layout.decode data))

@[simp] theorem length_writeOver (account : TokenAccount) (data : Bytes) :
    (account.writeOver data).length = size := Image.layout.length_encode _

@[simp] theorem ofData?_writeOver (account : TokenAccount) (data : Bytes) :
    ofData? (account.writeOver data) = some account := by
  simp [ofData?, writeOver, Layout.read?_encode, ofImage?_onto]

/-- An account without tokens that only its owner can use. -/
def opened (mint owner : Key) : TokenAccount where
  mint
  owner
  amount := 0
  delegate := none
  state := .initialized
  nativeReserve := none
  delegatedAmount := 0
  closeAuthority := none

/-- An account of wrapped lamports. What it holds beyond the reserve is its amount. -/
def openedNative (owner : Key) (lamports reserve : UInt64) : TokenAccount :=
  { opened .nativeMint owner with amount := lamports - reserve, nativeReserve := some reserve }

end TokenAccount

end StakePool
