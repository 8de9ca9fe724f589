import StakePool.PoolRecord
/-!
# Registry headers and pool records

The space of a registry never overflows. Headers and records begin with a discriminator in ASCII, so
neither is ever taken for data that has not been written.
-/

namespace StakePool

namespace Bytes

theorem not_isBlank_append {front : Bytes} (h : ¬ IsBlank front) (back : Bytes) :
    ¬ IsBlank (front ++ back) :=
  fun hblank => h fun byte hmem => hblank byte (List.mem_append_left back hmem)

end Bytes

namespace RegistryShape

variable (shape : RegistryShape)

theorem itemSize_mul_capacity_le :
    shape.itemSize.toNat * shape.capacity.toNat ≤ (UInt32.size - 1) * (UInt32.size - 1) :=
  Nat.mul_le_mul (Nat.le_sub_one_of_lt shape.itemSize.toNat_lt)
    (Nat.le_sub_one_of_lt shape.capacity.toNat_lt)

theorem toNat_itemSize_mul_capacity :
    (shape.itemSize.toUInt64 * shape.capacity.toUInt64).toNat
      = shape.itemSize.toNat * shape.capacity.toNat := by
  have hproduct := shape.itemSize_mul_capacity_le
  simp only [UInt32.size] at hproduct
  rw [UInt64.toNat_mul, UInt32.toNat_toUInt64, UInt32.toNat_toUInt64]
  exact Nat.mod_eq_of_lt (by omega)

theorem toNat_space :
    shape.space.toNat = RegistryHeader.size + shape.itemSize.toNat * shape.capacity.toNat := by
  have hproduct := shape.itemSize_mul_capacity_le
  simp only [UInt32.size] at hproduct
  rw [space, RegistryHeader.size_eq, UInt64.toNat_add, toNat_itemSize_mul_capacity,
    UInt64.toNat_ofNat_of_lt' (by decide)]
  exact Nat.mod_eq_of_lt (by omega)

theorem size_le_space : RegistryHeader.size ≤ shape.space.toNat := by
  rw [toNat_space]
  exact Nat.le_add_right ..

theorem not_isBlank_header (pool : Key) (h : ¬ Bytes.IsBlank shape.discriminator.bytes) :
    ¬ Bytes.IsBlank (shape.header pool).encode :=
  Bytes.not_isBlank_append h _

theorem not_isBlank_stakeListDiscriminator : ¬ Bytes.IsBlank stakeListDiscriminator.bytes := by
  decide

theorem not_isBlank_validatorListDiscriminator :
    ¬ Bytes.IsBlank validatorListDiscriminator.bytes := by
  decide

theorem toNat_pos {a : UInt32} (h : a ≠ 0) : 0 < a.toNat :=
  UInt32.lt_iff_toNat_lt.mp (UInt32.pos_iff_ne_zero.mpr h)

theorem add32_ne_zero {a : UInt32} (h : a ≠ 0) (b : UInt32) : Saturating.add32 a b ≠ 0 := by
  have hpos := toNat_pos h
  intro hsum
  have hsum := congrArg UInt32.toNat hsum
  rw [Saturating.toNat_add32, UInt32.toNat_zero, UInt32.size] at hsum
  omega

theorem itemSize_stakeList (spare : UInt32) : (stakeList spare).itemSize ≠ 0 :=
  add32_ne_zero (by decide) spare

theorem itemSize_validatorList (spare : UInt32) : (validatorList spare).itemSize ≠ 0 :=
  add32_ne_zero (by decide) spare

/-- The registries of one kind, which differ only in the spare bytes of a record. -/
structure IsFamily (shapeFor : (spare : UInt32) → RegistryShape) : Prop where
  discriminator_eq : ∀ spare other, (shapeFor spare).discriminator = (shapeFor other).discriminator
  itemSize_ne_zero : ∀ spare, (shapeFor spare).itemSize ≠ 0
  itemSize_inj : ∀ {spare other}, (shapeFor spare).space ≤ maxCreatedSpace →
    (shapeFor spare).itemSize = (shapeFor other).itemSize → spare = other

/-- A sum below the largest word has not been cut off. -/
theorem add32_inj_of_lt {a b c : UInt32} (hlt : (Saturating.add32 a b).toNat < UInt32.size - 1)
    (h : Saturating.add32 a b = Saturating.add32 a c) : b = c := by
  have hsum := congrArg UInt32.toNat h
  rw [Saturating.toNat_add32] at hlt
  rw [Saturating.toNat_add32, Saturating.toNat_add32] at hsum
  exact UInt32.toNat_inj.mp (by omega)

theorem itemSize_le_space (shape : RegistryShape) (h : shape.capacity ≠ 0) :
    shape.itemSize.toNat ≤ shape.space.toNat := by
  rw [toNat_space]
  exact Nat.le_trans (Nat.le_mul_of_pos_right _ (toNat_pos h)) (Nat.le_add_left ..)

theorem itemSize_lt {shape : RegistryShape} (hcapacity : shape.capacity ≠ 0)
    (hspace : shape.space ≤ maxCreatedSpace) : shape.itemSize.toNat < UInt32.size - 1 := by
  have hle : shape.space.toNat ≤ 10240 := UInt64.le_iff_toNat_le.mp hspace
  exact Nat.lt_of_le_of_lt (Nat.le_trans (shape.itemSize_le_space hcapacity) hle) (by decide)

theorem isFamily_stakeList : IsFamily stakeList where
  discriminator_eq _ _ := rfl
  itemSize_ne_zero := itemSize_stakeList
  itemSize_inj hspace h :=
    add32_inj_of_lt (itemSize_lt (by decide : stakeListCapacity ≠ 0) hspace) h

theorem isFamily_validatorList : IsFamily validatorList where
  discriminator_eq _ _ := rfl
  itemSize_ne_zero := itemSize_validatorList
  itemSize_inj hspace h :=
    add32_inj_of_lt (itemSize_lt (by decide : validatorListCapacity ≠ 0) hspace) h

end RegistryShape

namespace PoolRecord

theorem ofData?_eq_some_iff {data : Bytes} {record : PoolRecord} :
    ofData? data = some record ↔ data = record.encode ∧ record.IsWritten := by
  rw [ofData?, Option.filter_eq_some_iff, layout.read?_eq_some_iff, decide_eq_true_eq]
  rfl

theorem ofData?_encode (record : PoolRecord) (h : record.IsWritten) :
    ofData? record.encode = some record :=
  ofData?_eq_some_iff.mpr ⟨rfl, h⟩

theorem length_eq_of_isSome {data : Bytes} (h : (ofData? data).isSome) : data.length = size := by
  obtain ⟨record, hrecord⟩ := Option.isSome_iff_exists.mp h
  rw [(ofData?_eq_some_iff.mp hrecord).1]
  exact layout.length_encode record

theorem not_isBlank_take {data : Bytes} (h : (ofData? data).isSome) (count : Nat)
    (hcount : writtenDiscriminator.bytes.length ≤ count) : ¬ Bytes.IsBlank (data.take count) := by
  obtain ⟨record, hrecord⟩ := Option.isSome_iff_exists.mp h
  obtain ⟨rfl, hwritten⟩ := ofData?_eq_some_iff.mp hrecord
  obtain ⟨rest, hrest⟩ : ∃ rest, record.encode = writtenDiscriminator.bytes ++ rest := by
    rw [← hwritten]
    exact ⟨_, rfl⟩
  rw [hrest, List.take_append, List.take_of_length_le hcount]
  exact Bytes.not_isBlank_append (by decide) _

theorem not_isBlank_of_isSome {data : Bytes} (h : (ofData? data).isSome) :
    ¬ Bytes.IsBlank data := by
  have htake := not_isBlank_take h data.length
    (length_eq_of_isSome h ▸ Nat.le_of_ble_eq_true rfl)
  rwa [List.take_length] at htake

end PoolRecord

end StakePool
