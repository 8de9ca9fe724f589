/-!
# Byte strings

Account data, seeds and instruction payloads are lists of bytes. This module holds the operations on
them that know nothing about what the bytes mean: numbers in little-endian order, data blanked,
resized, and written over from its start.
-/

namespace StakePool

abbrev Bytes := List UInt8

namespace Bytes

/-- The bytes of a text in ASCII characters. -/
def ascii (text : String) : Bytes := text.toList.map fun c => UInt8.ofNat c.toNat

/-- Freshly allocated data of a given size. -/
def zeros (size : Nat) : Bytes := List.replicate size 0

@[simp] theorem length_zeros (size : Nat) : (zeros size).length = size := List.length_replicate

/-- Nothing has been written here yet. -/
def IsBlank (data : Bytes) : Prop := ∀ byte ∈ data, byte = 0

instance (data : Bytes) : Decidable (IsBlank data) := List.decidableBAll _ data

theorem isBlank_zeros (size : Nat) : IsBlank (zeros size) :=
  fun _ h => List.eq_of_mem_replicate h

/-- Cut to a size, or extended to it by zero bytes. -/
def resize (size : Nat) (data : Bytes) : Bytes :=
  data.take size ++ zeros (size - data.length)

@[simp] theorem length_resize (size : Nat) (data : Bytes) : (resize size data).length = size := by
  simp [resize]; omega

/-- The data with its first bytes replaced and the rest kept. -/
def overwrite (front data : Bytes) : Bytes := front ++ data.drop front.length

theorem length_overwrite {front data : Bytes} (h : front.length ≤ data.length) :
    (overwrite front data).length = data.length := by
  simp [overwrite]; omega

/-! ### Numbers, least significant byte first -/

/-- The lowest `width` bytes of a number. -/
def ofNat : (width : Nat) → Nat → Bytes
  | 0, _ => []
  | width + 1, n => UInt8.ofNat n :: ofNat width (n / 256)

/-- The number a byte string spells. -/
def toNat : Bytes → Nat
  | [] => 0
  | byte :: rest => byte.toNat + 256 * toNat rest

@[simp] theorem length_ofNat (width n : Nat) : (ofNat width n).length = width := by
  induction width generalizing n with
  | zero => rfl
  | succ width ih => simp [ofNat, ih]

theorem toNat_ofNat (width n : Nat) : toNat (ofNat width n) = n % Nat.pow 256 width := by
  induction width generalizing n with
  | zero => simp [ofNat, toNat, Nat.mod_one]
  | succ width ih =>
    have split : n % (256 * Nat.pow 256 width) = n % 256 + 256 * (n / 256 % Nat.pow 256 width) :=
      Nat.mod_mul
    simp only [ofNat, toNat, UInt8.toNat_ofNat', ih, Nat.pow_succ', Nat.pow_eq] at split ⊢
    omega

theorem toNat_lt (bytes : Bytes) : toNat bytes < Nat.pow 256 bytes.length := by
  induction bytes with
  | nil => simp [toNat]
  | cons byte rest ih =>
    have := byte.toNat_lt
    simp only [toNat, List.length_cons, Nat.pow_eq, Nat.pow_succ'] at ih ⊢
    omega

theorem ofNat_toNat (bytes : Bytes) : ofNat bytes.length (toNat bytes) = bytes := by
  induction bytes with
  | nil => rfl
  | cons byte rest ih =>
    have low := byte.toNat_lt
    have quotient : (byte.toNat + 256 * toNat rest) / 256 = toNat rest := by omega
    have remainder : UInt8.ofNat (byte.toNat + 256 * toNat rest) = byte := by
      apply UInt8.toNat_inj.mp
      simp only [UInt8.toNat_ofNat']
      omega
    simp only [toNat, List.length_cons, ofNat, quotient, remainder, ih]

end Bytes

end StakePool
