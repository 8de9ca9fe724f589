import StakePool.Bytes
/-!
# Fixed-width layouts

A layout says how the values of a type sit in a fixed number of bytes. Its three laws make it a
bijection between the values and the byte strings of that width, so a record put together from its
fields by `pair` and `map` reads back what it wrote and writes back what it read, padding included.
-/

namespace StakePool

structure Layout (α : Type) where
  width : Nat
  encode : α → Bytes
  /-- Meaningful on byte strings of the layout's width. -/
  decode : Bytes → α
  length_encode : ∀ a, (encode a).length = width
  decode_encode : ∀ a, decode (encode a) = a
  encode_decode : ∀ bytes, bytes.length = width → encode (decode bytes) = bytes

/-- A byte string whose length is part of its type. -/
structure Block (size : Nat) where
  bytes : Bytes
  length_bytes : bytes.length = size
deriving DecidableEq

namespace Block

theorem ext_bytes {size : Nat} : {a b : Block size} → a.bytes = b.bytes → a = b
  | ⟨_, _⟩, ⟨_, _⟩, rfl => rfl

/-- A block cut from the front of a byte string, with zero bytes where that is too short. -/
def ofBytes (size : Nat) (bytes : Bytes) : Block size :=
  ⟨bytes.resize size, bytes.length_resize size⟩

def zero (size : Nat) : Block size := ⟨Bytes.zeros size, Bytes.length_zeros size⟩

end Block

namespace Layout

variable {α β : Type}

attribute [simp] length_encode decode_encode

/-- Read a value that takes up the whole byte string. -/
def read? (layout : Layout α) (bytes : Bytes) : Option α :=
  if bytes.length = layout.width then some (layout.decode bytes) else none

/-- Read a value from the front of a byte string, whatever follows it. -/
def readFront? (layout : Layout α) (bytes : Bytes) : Option α :=
  if layout.width ≤ bytes.length then some (layout.decode (bytes.take layout.width)) else none

theorem read?_encode (layout : Layout α) (a : α) : layout.read? (layout.encode a) = some a := by
  simp [read?]

theorem read?_eq_some_iff (layout : Layout α) {bytes : Bytes} {a : α} :
    layout.read? bytes = some a ↔ bytes = layout.encode a := by
  constructor
  · intro h
    unfold read? at h
    split at h
    · next width =>
      obtain rfl := Option.some.inj h
      exact (layout.encode_decode bytes width).symm
    · cases h
  · rintro rfl
    exact layout.read?_encode a

theorem readFront?_eq_some_iff (layout : Layout α) {bytes : Bytes} {a : α} :
    layout.readFront? bytes = some a ↔ ∃ rest, bytes = layout.encode a ++ rest := by
  constructor
  · intro h
    unfold readFront? at h
    split at h
    · next width =>
      obtain rfl := Option.some.inj h
      refine ⟨bytes.drop layout.width, ?_⟩
      rw [layout.encode_decode _ (List.length_take_of_le width), List.take_append_drop]
    · cases h
  · rintro ⟨rest, rfl⟩
    have front : (layout.encode a ++ rest).take layout.width = layout.encode a := by
      simp [List.take_left' (layout.length_encode a)]
    simp [readFront?, front]

/-! ### Fields -/

def block (size : Nat) : Layout (Block size) where
  width := size
  encode := Block.bytes
  decode := Block.ofBytes size
  length_encode := Block.length_bytes
  decode_encode := by
    intro a
    apply Block.ext_bytes
    simp [Block.ofBytes, Bytes.resize, Bytes.zeros, a.length_bytes, List.take_of_length_le]
  encode_decode := by
    intro bytes h
    simp [Block.ofBytes, Bytes.resize, Bytes.zeros, h, List.take_of_length_le]

def byte : Layout UInt8 where
  width := 1
  encode value := [value]
  decode bytes := bytes.headD 0
  length_encode _ := rfl
  decode_encode _ := rfl
  encode_decode
    | [_], _ => rfl

def word32 : Layout UInt32 where
  width := 4
  encode value := Bytes.ofNat 4 value.toNat
  decode bytes := UInt32.ofNat bytes.toNat
  length_encode _ := Bytes.length_ofNat ..
  decode_encode value := by
    have := value.toNat_lt
    rw [Bytes.toNat_ofNat, Nat.mod_eq_of_lt (by omega), UInt32.ofNat_toNat]
  encode_decode bytes h := by
    have := bytes.toNat_lt
    rw [h] at this
    rw [UInt32.toNat_ofNat_of_lt' (by omega), ← h, Bytes.ofNat_toNat]

def word64 : Layout UInt64 where
  width := 8
  encode value := Bytes.ofNat 8 value.toNat
  decode bytes := UInt64.ofNat bytes.toNat
  length_encode _ := Bytes.length_ofNat ..
  decode_encode value := by
    have := value.toNat_lt
    rw [Bytes.toNat_ofNat, Nat.mod_eq_of_lt (by omega), UInt64.ofNat_toNat]
  encode_decode bytes h := by
    have := bytes.toNat_lt
    rw [h] at this
    rw [UInt64.toNat_ofNat_of_lt' (by omega), ← h, Bytes.ofNat_toNat]

/-! ### Records -/

/-- One value after another. -/
def pair (first : Layout α) (second : Layout β) : Layout (α × β) where
  width := first.width + second.width
  encode value := first.encode value.1 ++ second.encode value.2
  decode bytes := (first.decode (bytes.take first.width), second.decode (bytes.drop first.width))
  length_encode := by simp
  decode_encode value := by
    rw [List.take_left' (first.length_encode _), List.drop_left' (first.length_encode _)]
    simp
  encode_decode bytes h := by
    rw [first.encode_decode _ (by simp; omega), second.encode_decode _ (by simp; omega),
      List.take_append_drop]

/-- The same bytes read as another type, by a bijection. -/
def map (layout : Layout α) (into : α → β) (back : β → α) (into_back : ∀ b, into (back b) = b)
    (back_into : ∀ a, back (into a) = a) : Layout β where
  width := layout.width
  encode value := layout.encode (back value)
  decode bytes := into (layout.decode bytes)
  length_encode _ := layout.length_encode _
  decode_encode value := by rw [layout.decode_encode, into_back]
  encode_decode bytes h := by rw [back_into, layout.encode_decode bytes h]

end Layout

end StakePool
