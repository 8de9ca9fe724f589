import StakePool.Proofs.Audit.Checks
/-!
# Changes to a single account

What can be done to an account behind the program's back: it is removed, handed to another owner, cut
or extended, drained, or one field of its data is given another value. `Change.on` does that to one
account and leaves all others alone. `Duty.Breaks` says which changes make a difference in what an
audit watches of an account with a certain duty.
-/

namespace StakePool

namespace Layout

variable {α : Type} (layout : Layout α) (change : α → α)

/-- The value at the front of a byte string changed, and the rest kept. -/
def modify (data : Bytes) : Bytes :=
  Bytes.overwrite (layout.encode (change (layout.decode (data.take layout.width)))) data

theorem modify_encode_append (a : α) (rest : Bytes) :
    layout.modify change (layout.encode a ++ rest) = layout.encode (change a) ++ rest := by
  have hfront : (layout.encode a ++ rest).take layout.width = layout.encode a :=
    List.take_left' (layout.length_encode a)
  have hback : (layout.encode a ++ rest).drop layout.width = rest :=
    List.drop_left' (layout.length_encode a)
  rw [modify, hfront, layout.decode_encode, Bytes.overwrite, layout.length_encode, hback]

theorem encode_inj {a b : α} (h : layout.encode a = layout.encode b) : a = b := by
  rw [← layout.decode_encode a, h, layout.decode_encode]

theorem modify_encode (a : α) :
    layout.modify change (layout.encode a) = layout.encode (change a) := by
  have h := layout.modify_encode_append change a []
  rwa [List.append_nil, List.append_nil] at h

/-! What is read at the front of some data, and what a change makes of it. -/

variable {data : Bytes} {a : α}

theorem width_le_of_readFront? (h : layout.readFront? data = some a) :
    layout.width ≤ data.length := by
  obtain ⟨rest, rfl⟩ := layout.readFront?_eq_some_iff.mp h
  rw [List.length_append, layout.length_encode]
  exact Nat.le_add_right ..

theorem decode_take_of_readFront? (h : layout.readFront? data = some a) :
    layout.decode (data.take layout.width) = a := by
  obtain ⟨rest, rfl⟩ := layout.readFront?_eq_some_iff.mp h
  rw [List.take_left' (layout.length_encode a), layout.decode_encode]

theorem readFront?_of_take {size : Nat} (h : layout.readFront? (data.take size) = some a) :
    layout.readFront? data = some a := by
  obtain ⟨rest, hdata⟩ := layout.readFront?_eq_some_iff.mp h
  refine layout.readFront?_eq_some_iff.mpr ⟨rest ++ data.drop size, ?_⟩
  rw [← List.append_assoc, ← hdata, List.take_append_drop]

theorem readFront?_modify (h : layout.readFront? data = some a) :
    layout.readFront? (layout.modify change data) = some (change a) := by
  obtain ⟨rest, rfl⟩ := layout.readFront?_eq_some_iff.mp h
  exact layout.readFront?_eq_some_iff.mpr ⟨rest, layout.modify_encode_append change a rest⟩

theorem length_modify (h : layout.readFront? data = some a) :
    (layout.modify change data).length = data.length := by
  refine Bytes.length_overwrite ?_
  rw [layout.length_encode]
  exact layout.width_le_of_readFront? h

end Layout

/-! ### One field given another value -/

/-- A field of the record that the audit watches. -/
inductive RecordEdit where
  | discriminator (value : Block 8)
  | root (value : Key)
  | address (role : Role) (value : Key)
  | bump (slot : Slot) (value : UInt8)

/-- The record after the edit. It holds the addresses of six roles and the bumps of eight slots; an
edit of any other leaves it as it is. -/
def RecordEdit.apply (record : PoolRecord) : RecordEdit → PoolRecord
  | discriminator value => { record with discriminator := value }
  | root value => { record with root := value }
  | address .stMint value => { record with stMint := value }
  | address .treasury value => { record with treasury := value }
  | address .stakeList value => { record with stakeList := value }
  | address .validatorList value => { record with validatorList := value }
  | address .lpMint value => { record with liquidity.lpMint := value }
  | address .stLeg value => { record with liquidity.stLeg := value }
  | address _ _ => record
  | bump .config value => { record with configBump := value }
  | bump (.role .reserve) value => { record with reserveBump := value }
  | bump (.role .stMintAuthority) value => { record with stMintAuthorityBump := value }
  | bump (.role .depositAuthority) value => { record with depositAuthorityBump := value }
  | bump (.role .withdrawAuthority) value => { record with withdrawAuthorityBump := value }
  | bump (.role .lpMintAuthority) value => { record with liquidity.lpMintAuthorityBump := value }
  | bump (.role .solLeg) value => { record with liquidity.solLegBump := value }
  | bump (.role .stLegAuthority) value => { record with liquidity.stLegAuthorityBump := value }
  | bump _ _ => record

/-- A field of a mint, with all the values its bytes can take. -/
inductive MintEdit where
  | authority (field : OptionField Key)
  | supply (value : UInt64)
  | decimals (value : UInt8)
  | isInitialized (byte : UInt8)
  | freezeAuthority (field : OptionField Key)

def MintEdit.apply (image : Mint.Image) : MintEdit → Mint.Image
  | authority field => { image with authority := field }
  | supply value => { image with supply := value }
  | decimals value => { image with decimals := value }
  | isInitialized byte => { image with isInitialized := byte }
  | freezeAuthority field => { image with freezeAuthority := field }

/-- A field of a token account that the audit watches. -/
inductive TokensEdit where
  | mint (value : Key)
  | owner (value : Key)
  | uninitialize

def TokensEdit.apply (image : TokenAccount.Image) : TokensEdit → TokenAccount.Image
  | mint value => { image with mint := value }
  | owner value => { image with owner := value }
  | uninitialize => { image with state := TokenAccount.State.uninitialized.toByte }

/-- A field of a registry's header that the audit watches. -/
inductive HeaderEdit where
  | discriminator (value : Block 8)
  | pool (value : Key)
  | itemSize (value : UInt32)
  | count (value : UInt32)
  | capacity (value : UInt32)
  | spare (value : UInt32)

def HeaderEdit.apply (header : RegistryHeader) : HeaderEdit → RegistryHeader
  | discriminator value => { header with discriminator := value }
  | pool value => { header with pool := value }
  | itemSize value => { header with itemSize := value }
  | count value => { header with count := value }
  | capacity value => { header with capacity := value }
  | spare value => { header with spare := value }

/-- A change to one account. -/
inductive Change where
  | remove
  | reassign (owner : Key)
  | cut (size : Nat)
  | extend (extra : Bytes)
  | drain (lamports : UInt64)
  | editRecord (edit : RecordEdit)
  | editMint (edit : MintEdit)
  | editTokens (edit : TokensEdit)
  | editHeader (edit : HeaderEdit)

namespace Change

/-- What is left of the account. -/
def apply (account : Account) : Change → Option Account
  | remove => none
  | reassign owner => some { account with owner }
  | cut size => some { account with data := account.data.take size }
  | extend extra => some { account with data := account.data ++ extra }
  | drain lamports => some { account with lamports }
  | editRecord edit =>
    some { account with data := PoolRecord.layout.modify edit.apply account.data }
  | editMint edit =>
    some { account with data := Mint.Image.layout.modify edit.apply account.data }
  | editTokens edit =>
    some { account with data := TokenAccount.Image.layout.modify edit.apply account.data }
  | editHeader edit =>
    some { account with data := RegistryHeader.layout.modify edit.apply account.data }

/-- The accounts after a change to the one at an address. -/
def on (change : Change) (reader : Reader) (address : Key) : Reader := fun key =>
  if key = address then (reader key).bind (change.apply ·) else reader key

/-- The changes that reach into the data or the balance of an account. -/
def IsEdit : Change → Prop
  | drain _ | editRecord _ | editMint _ | editTokens _ | editHeader _ => True
  | remove | reassign _ | cut _ | extend _ => False

/-- The slot that a change to a slot's account is about. -/
def subject (slot : Slot) : Change → Slot
  | editRecord (.address role _) => .role role
  | editRecord (.bump slot _) => slot
  | _ => slot

/-- If the change writes another root, that root does not derive the pool's address too. -/
def SparesPool (scheme : AddressScheme) (programId pool : Key) (record : PoolRecord)
    (change : Change) : Prop :=
  ∀ root, change = .editRecord (.root root) → root ≠ record.root →
    ∀ config, AddressBook.findConfig? scheme programId root = some config → config.address ≠ pool

variable {change : Change} {reader : Reader} {address key : Key} {account : Account}

theorem on_of_ne (h : key ≠ address) : change.on reader address key = reader key := if_neg h

theorem on_self (h : reader address = some account) :
    change.on reader address address = change.apply account := by
  rw [on, if_pos rfl, h, Option.bind_some]

end Change

/-- The change breaks the duty of the account: it makes a difference in what the audit watches of an
account with this duty. The minimum that a vault is not to be drained below is the one in the
record. -/
def Duty.Breaks (record : PoolRecord) (account : Account) : Duty → Change → Prop
  | .signer, _ => False
  | _, .remove => True
  | _, .reassign owner => owner ≠ account.owner
  | _, .cut size => size < account.data.length
  | .registry _, .extend _ => False
  | _, .extend extra => extra ≠ []
  | .vault, .drain lamports => lamports < record.tokenAccountRent
  | .record, .editRecord edit => edit.apply record ≠ record
  | .mint .., .editMint edit =>
    let image := Mint.Image.layout.decode account.data
    Mint.ofImage? (edit.apply image) ≠ Mint.ofImage? image
  | .tokens _, .editTokens edit =>
    let image := TokenAccount.Image.layout.decode account.data
    edit.apply image ≠ image
  | .registry _, .editHeader edit =>
    let header := RegistryHeader.layout.decode (account.data.take RegistryHeader.size)
    edit.apply header ≠ header
  | _, _ => False

end StakePool
