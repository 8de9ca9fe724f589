import StakePool.Key
import StakePool.Token.OptionField
/-!
# Mints

The token program's record of a token: who may mint it, how much of it there is, and how it is shown.
-/

namespace StakePool

structure Mint where
  authority : Option Key
  supply : UInt64
  decimals : UInt8
  isInitialized : Bool
  freezeAuthority : Option Key
deriving DecidableEq

namespace Mint

/-- The fields as they are stored, each with all the values its bytes can take. -/
structure Image where
  authority : OptionField Key
  supply : UInt64
  decimals : UInt8
  isInitialized : UInt8
  freezeAuthority : OptionField Key

def Image.layout : Layout Image :=
  ((OptionField.layout Key.layout).pair <| Layout.word64.pair <| Layout.byte.pair <|
    Layout.byte.pair <| OptionField.layout Key.layout).map
    (fun (authority, supply, decimals, isInitialized, freezeAuthority) =>
      { authority, supply, decimals, isInitialized, freezeAuthority })
    (fun m => (m.authority, m.supply, m.decimals, m.isInitialized, m.freezeAuthority))
    (fun _ => rfl) (fun _ => rfl)

def size : Nat := Image.layout.width

theorem size_eq : size = 82 := rfl

def flag? (byte : UInt8) : Option Bool :=
  if byte = 0 then some false
  else if byte = 1 then some true
  else none

def ofImage? (image : Image) : Option Mint := do
  let authority ← image.authority.read?
  let isInitialized ← flag? image.isInitialized
  let freezeAuthority ← image.freezeAuthority.read?
  return {
    authority
    supply := image.supply
    decimals := image.decimals
    isInitialized
    freezeAuthority }

def onto (mint : Mint) (image : Image) : Image where
  authority := image.authority.write mint.authority
  supply := mint.supply
  decimals := mint.decimals
  isInitialized := if mint.isInitialized then 1 else 0
  freezeAuthority := image.freezeAuthority.write mint.freezeAuthority

theorem ofImage?_onto (mint : Mint) (image : Image) : ofImage? (mint.onto image) = some mint := by
  obtain ⟨_, _, _, isInitialized, _⟩ := mint
  cases isInitialized <;> simp [ofImage?, onto, flag?]

/-- The mint in an account's data, initialized or not. -/
def ofData? (data : Bytes) : Option Mint := (Image.layout.read? data).bind ofImage?

theorem ofData?_eq_some_iff {data : Bytes} {mint : Mint} :
    ofData? data = some mint
      ↔ ∃ image, data = Image.layout.encode image ∧ ofImage? image = some mint := by
  simp only [ofData?, Option.bind_eq_some_iff, Layout.read?_eq_some_iff]

theorem length_eq_of_ofData? {data : Bytes} {mint : Mint} (h : ofData? data = some mint) :
    data.length = size := by
  obtain ⟨image, rfl, -⟩ := ofData?_eq_some_iff.mp h
  exact Image.layout.length_encode image

/-- The mint in an account's data, if it is in use. -/
def initialized? (data : Bytes) : Option Mint := (ofData? data).filter (·.isInitialized)

theorem initialized?_eq_some_iff {data : Bytes} {mint : Mint} :
    initialized? data = some mint ↔ ofData? data = some mint ∧ mint.isInitialized :=
  Option.filter_eq_some_iff

def writeOver (mint : Mint) (data : Bytes) : Bytes :=
  Image.layout.encode (mint.onto (Image.layout.decode data))

@[simp] theorem length_writeOver (mint : Mint) (data : Bytes) :
    (mint.writeOver data).length = size := Image.layout.length_encode _

@[simp] theorem ofData?_writeOver (mint : Mint) (data : Bytes) :
    ofData? (mint.writeOver data) = some mint := by
  simp [ofData?, writeOver, Layout.read?_encode, ofImage?_onto]

/-- A mint of which nothing has been minted. -/
def opened (decimals : UInt8) (authority : Key) (freezeAuthority : Option Key) : Mint where
  authority := some authority
  supply := 0
  decimals
  isInitialized := true
  freezeAuthority

end Mint

end StakePool
