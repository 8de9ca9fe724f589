import StakePool.Proofs.Records
import StakePool.Proofs.WireFormat
/-!
# The byte images of records and headers

A pool record fills 552 bytes and a registry header 88, field after field in the order of
declaration, padding and reserved bytes included. `fields` writes the fields down one after another
and `readAt` reads each of them at its own offset, and both are what the nested layouts do. No byte
lies between two fields or in two of them, so data that reads as a record is the image of that
record, and a header is read from any data that is long enough.
-/

namespace StakePool

namespace LiquidityRecord

/-- The fields in the order in which they are stored. -/
def fields (r : LiquidityRecord) : List Bytes :=
  [r.lpMint.bytes, r.stLeg.bytes, Bytes.ofNat 8 r.lpLiquidityTarget.toNat,
    Bytes.ofNat 8 r.lpSupply.toNat, Bytes.ofNat 8 r.lentFromSolLeg.toNat,
    Bytes.ofNat 8 r.liquiditySolCap.toNat, Bytes.ofNat 4 r.lpMaxFee.basisPoints.toNat,
    Bytes.ofNat 4 r.lpMinFee.basisPoints.toNat, Bytes.ofNat 4 r.treasuryCut.basisPoints.toNat,
    [r.lpMintAuthorityBump], [r.solLegBump], [r.stLegAuthorityBump], [r.padding]]

theorem encode_eq_flatten (r : LiquidityRecord) : layout.encode r = r.fields.flatten := by
  simp only [fields, List.flatten_cons, List.flatten_nil, List.append_nil]
  rfl

/-- The part of a record that starts at an offset, every field read at its own distance from there.
-/
def readAt (bytes : Bytes) (offset : Nat) : LiquidityRecord where
  lpMint := Key.layout.decode (bytes.slice offset 32)
  stLeg := Key.layout.decode (bytes.slice (offset + 32) 32)
  lpLiquidityTarget := .ofNat (bytes.slice (offset + 64) 8).toNat
  lpSupply := .ofNat (bytes.slice (offset + 72) 8).toNat
  lentFromSolLeg := .ofNat (bytes.slice (offset + 80) 8).toNat
  liquiditySolCap := .ofNat (bytes.slice (offset + 88) 8).toNat
  lpMaxFee := ⟨.ofNat (bytes.slice (offset + 96) 4).toNat⟩
  lpMinFee := ⟨.ofNat (bytes.slice (offset + 100) 4).toNat⟩
  treasuryCut := ⟨.ofNat (bytes.slice (offset + 104) 4).toNat⟩
  lpMintAuthorityBump := (bytes.slice (offset + 108) 1).headD 0
  solLegBump := (bytes.slice (offset + 109) 1).headD 0
  stLegAuthorityBump := (bytes.slice (offset + 110) 1).headD 0
  padding := (bytes.slice (offset + 111) 1).headD 0

theorem decode_slice (bytes : Bytes) (offset : Nat) :
    layout.decode (bytes.slice offset layout.width) = readAt bytes offset := by
  simp only [layout, Layout.map, Layout.decode_pair_slice]
  rfl

end LiquidityRecord

namespace PoolRecord

/-- The fields in the order in which they are stored. -/
def fields (r : PoolRecord) : List Bytes :=
  [r.discriminator.bytes, r.root.bytes, r.admin.bytes, r.validatorManager.bytes, r.pauser.bytes,
    r.stMint.bytes, r.treasury.bytes, r.stakeList.bytes, r.validatorList.bytes,
    Bytes.ofNat 8 r.minStake.toNat, Bytes.ofNat 8 r.stakeDeltaWindow.toNat,
    Bytes.ofNat 8 r.lastStakeDeltaEpoch.toNat, Bytes.ofNat 8 r.tokenAccountRent.toNat,
    Bytes.ofNat 8 r.availableReserve.toNat, Bytes.ofNat 8 r.stSupply.toNat,
    Bytes.ofNat 8 r.stPrice.toNat, Bytes.ofNat 8 r.minDeposit.toNat,
    Bytes.ofNat 8 r.minWithdraw.toNat, Bytes.ofNat 8 r.stakingSolCap.toNat,
    Bytes.ofNat 8 r.totalActiveBalance.toNat, Bytes.ofNat 4 r.rewardFee.basisPoints.toNat,
    Bytes.ofNat 4 r.maxStakeMovedPerEpoch.basisPoints.toNat,
    Bytes.ofNat 4 r.totalValidatorScore.toNat, [r.configBump], [r.reserveBump],
    [r.stMintAuthorityBump], [r.depositAuthorityBump], [r.withdrawAuthorityBump], [r.paused],
    r.padding.bytes] ++ r.liquidity.fields ++ [r.reserved.bytes]

theorem encode_eq_flatten (r : PoolRecord) : r.encode = r.fields.flatten := by
  simp only [fields, List.flatten_append, ← LiquidityRecord.encode_eq_flatten, List.flatten_cons,
    List.flatten_nil, List.append_nil, List.append_assoc]
  rfl

/-- The record in a byte string, every field read at its own offset. -/
def readAt (bytes : Bytes) : PoolRecord where
  discriminator := .ofBytes 8 (bytes.slice 0 8)
  root := Key.layout.decode (bytes.slice 8 32)
  admin := Key.layout.decode (bytes.slice 40 32)
  validatorManager := Key.layout.decode (bytes.slice 72 32)
  pauser := Key.layout.decode (bytes.slice 104 32)
  stMint := Key.layout.decode (bytes.slice 136 32)
  treasury := Key.layout.decode (bytes.slice 168 32)
  stakeList := Key.layout.decode (bytes.slice 200 32)
  validatorList := Key.layout.decode (bytes.slice 232 32)
  minStake := .ofNat (bytes.slice 264 8).toNat
  stakeDeltaWindow := .ofNat (bytes.slice 272 8).toNat
  lastStakeDeltaEpoch := .ofNat (bytes.slice 280 8).toNat
  tokenAccountRent := .ofNat (bytes.slice 288 8).toNat
  availableReserve := .ofNat (bytes.slice 296 8).toNat
  stSupply := .ofNat (bytes.slice 304 8).toNat
  stPrice := .ofNat (bytes.slice 312 8).toNat
  minDeposit := .ofNat (bytes.slice 320 8).toNat
  minWithdraw := .ofNat (bytes.slice 328 8).toNat
  stakingSolCap := .ofNat (bytes.slice 336 8).toNat
  totalActiveBalance := .ofNat (bytes.slice 344 8).toNat
  rewardFee := ⟨.ofNat (bytes.slice 352 4).toNat⟩
  maxStakeMovedPerEpoch := ⟨.ofNat (bytes.slice 356 4).toNat⟩
  totalValidatorScore := .ofNat (bytes.slice 360 4).toNat
  configBump := (bytes.slice 364 1).headD 0
  reserveBump := (bytes.slice 365 1).headD 0
  stMintAuthorityBump := (bytes.slice 366 1).headD 0
  depositAuthorityBump := (bytes.slice 367 1).headD 0
  withdrawAuthorityBump := (bytes.slice 368 1).headD 0
  paused := (bytes.slice 369 1).headD 0
  padding := .ofBytes 6 (bytes.slice 370 6)
  liquidity := .readAt bytes 376
  reserved := .ofBytes 64 (bytes.slice 488 64)

theorem decode_slice (bytes : Bytes) :
    layout.decode (bytes.slice 0 layout.width) = readAt bytes := by
  simp only [layout, Layout.map, Layout.decode_pair_slice, LiquidityRecord.decode_slice]
  rfl

theorem readAt_eq_decode {data : Bytes} (h : data.length = size) :
    readAt data = layout.decode data := by
  rw [← decode_slice, Bytes.slice, List.drop_zero, ← size, List.take_of_length_le (Nat.le_of_eq h)]

theorem isWritten_readAt_iff {data : Bytes} (h : data.length = size) :
    (readAt data).IsWritten ↔ data.take 8 = writtenDiscriminator.bytes := by
  have hfront : (readAt data).discriminator.bytes = data.take 8 := by
    have hwidth : (data.take 8).length = 8 := by rw [List.length_take, h, size_eq]; rfl
    exact (Layout.block 8).encode_decode (data.take 8) hwidth
  rw [IsWritten, ← hfront]
  exact ⟨congrArg Block.bytes, Block.ext_bytes⟩

theorem ofData?_eq_ite (data : Bytes) :
    ofData? data
      = if data.length = size ∧ data.take 8 = writtenDiscriminator.bytes then some (readAt data)
        else none := by
  by_cases hlength : data.length = size
  · have hread : layout.read? data = some (readAt data) := by
      rw [Layout.read?, ← size, if_pos hlength, readAt_eq_decode hlength]
    rw [ofData?, hread, Option.filter_some]
    simp only [decide_eq_true_eq, isWritten_readAt_iff hlength, hlength, true_and]
  · rw [ofData?, Layout.read?, ← size, if_neg hlength, if_neg fun h => hlength h.1]
    rfl

theorem ofData?_encode_eq_ite (record : PoolRecord) :
    ofData? record.encode
      = if record.discriminator = writtenDiscriminator then some record else none := by
  rw [ofData?, encode, layout.read?_encode, Option.filter_some]
  simp only [decide_eq_true_eq]
  rfl

end PoolRecord

namespace RegistryHeader

/-- The fields in the order in which they are stored. -/
def fields (h : RegistryHeader) : List Bytes :=
  [h.discriminator.bytes, h.pool.bytes, Bytes.ofNat 4 h.itemSize.toNat, Bytes.ofNat 4 h.count.toNat,
    Bytes.ofNat 4 h.capacity.toNat, Bytes.ofNat 4 h.spare.toNat, h.reserved.bytes]

theorem encode_eq_flatten (h : RegistryHeader) : h.encode = h.fields.flatten := by
  simp only [fields, List.flatten_cons, List.flatten_nil, List.append_nil]
  rfl

/-- The header at the front of a byte string, every field read at its own offset. -/
def readAt (bytes : Bytes) : RegistryHeader where
  discriminator := .ofBytes 8 (bytes.slice 0 8)
  pool := Key.layout.decode (bytes.slice 8 32)
  itemSize := .ofNat (bytes.slice 40 4).toNat
  count := .ofNat (bytes.slice 44 4).toNat
  capacity := .ofNat (bytes.slice 48 4).toNat
  spare := .ofNat (bytes.slice 52 4).toNat
  reserved := .ofBytes 32 (bytes.slice 56 32)

theorem decode_slice (bytes : Bytes) :
    layout.decode (bytes.slice 0 layout.width) = readAt bytes := by
  simp only [layout, Layout.map, Layout.decode_pair_slice]
  rfl

theorem ofData?_eq_ite (data : Bytes) :
    ofData? data = if size ≤ data.length then some (readAt data) else none := by
  rw [ofData?, Layout.readFront?, ← decode_slice, Bytes.slice, List.drop_zero, size]

theorem encode_eq_take {data : Bytes} {header : RegistryHeader} (h : ofData? data = some header) :
    header.encode = data.take size := by
  obtain ⟨rest, rfl⟩ := layout.readFront?_eq_some_iff.mp h
  exact (List.take_left' (layout.length_encode header)).symm

end RegistryHeader

/-- **The formats of the records.** The image of a pool record is its fields in order, 552 bytes in
all, and reads back as the record exactly if it carries the discriminator. Data is a record exactly
if it has so many bytes and begins with the discriminator; it is then read field by field at fixed
offsets and is the image of what was read. A registry header fills 88 bytes and reads back from them
with anything behind; data is refused only if it is shorter, and what is read from longer data has
the first 88 bytes as its image. -/
theorem record_formats :
    (∀ record : PoolRecord,
      record.encode = record.fields.flatten ∧ record.encode.length = 552
        ∧ PoolRecord.ofData? record.encode
          = if record.discriminator = PoolRecord.writtenDiscriminator then some record else none)
    ∧ (∀ data,
      ((PoolRecord.ofData? data).isSome
        ↔ data.length = 552 ∧ data.take 8 = PoolRecord.writtenDiscriminator.bytes)
      ∧ ∀ record, PoolRecord.ofData? data = some record →
        record = .readAt data ∧ record.encode = data)
    ∧ (∀ (header : RegistryHeader) (rest : Bytes),
      header.encode = header.fields.flatten ∧ header.encode.length = 88
        ∧ RegistryHeader.ofData? (header.encode ++ rest) = some header)
    ∧ ∀ data,
      ((RegistryHeader.ofData? data).isSome ↔ 88 ≤ data.length)
      ∧ ∀ header, RegistryHeader.ofData? data = some header →
        header = .readAt data ∧ header.encode = data.take 88 := by
  refine ⟨?_, ?_, ?_, ?_⟩
  · intro record
    exact ⟨record.encode_eq_flatten, PoolRecord.layout.length_encode record,
      record.ofData?_encode_eq_ite⟩
  · intro data
    refine ⟨?_, fun record h => ⟨?_, (PoolRecord.ofData?_eq_some_iff.mp h).1.symm⟩⟩
    · rw [PoolRecord.ofData?_eq_ite, Option.isSome_ite, PoolRecord.size_eq]
    · rw [PoolRecord.ofData?_eq_ite] at h
      exact (Option.some.inj (Option.ite_none_right_eq_some.mp h).2).symm
  · intro header rest
    exact ⟨header.encode_eq_flatten, RegistryHeader.layout.length_encode header,
      RegistryHeader.layout.readFront?_eq_some_iff.mpr ⟨rest, rfl⟩⟩
  · intro data
    refine ⟨?_, fun header h => ⟨?_, RegistryHeader.encode_eq_take h⟩⟩
    · rw [RegistryHeader.ofData?_eq_ite, Option.isSome_ite, RegistryHeader.size_eq]
    · rw [RegistryHeader.ofData?_eq_ite] at h
      exact (Option.some.inj (Option.ite_none_right_eq_some.mp h).2).symm

/-- The discriminator and then the bytes 8, 9, 10 and so on, a record with no field zero. -/
def PoolRecord.counting : Bytes :=
  writtenDiscriminator.bytes ++ (List.range 544).map fun i => UInt8.ofNat (i + 8)

theorem record_formats_counting :
    PoolRecord.ofData? PoolRecord.counting = some (.readAt PoolRecord.counting)
    ∧ (PoolRecord.readAt PoolRecord.counting).encode = PoolRecord.counting
    ∧ ¬ (PoolRecord.ofData? (PoolRecord.counting.take 551)).isSome
    ∧ ¬ (PoolRecord.ofData? (PoolRecord.counting.set 0 0)).isSome
    ∧ RegistryHeader.ofData? PoolRecord.counting = some (.readAt PoolRecord.counting)
    ∧ (RegistryHeader.readAt PoolRecord.counting).encode = PoolRecord.counting.take 88
    ∧ ¬ (RegistryHeader.ofData? (PoolRecord.counting.take 87)).isSome := by
  have hread : PoolRecord.ofData? PoolRecord.counting = some (.readAt PoolRecord.counting) := by
    decide +kernel
  have hheader : RegistryHeader.ofData? PoolRecord.counting = some (.readAt PoolRecord.counting) := by
    decide +kernel
  have hcut := (record_formats.2.1 (PoolRecord.counting.take 551)).1
  have hother := (record_formats.2.1 (PoolRecord.counting.set 0 0)).1
  have hshort := (record_formats.2.2.2 (PoolRecord.counting.take 87)).1
  refine ⟨hread, ((record_formats.2.1 _).2 _ hread).2, ?_, ?_, hheader,
    ((record_formats.2.2.2 _).2 _ hheader).2, ?_⟩
  · exact fun h => absurd (hcut.mp h).1 (by decide +kernel)
  · exact fun h => absurd (hother.mp h).2 (by decide +kernel)
  · exact fun h => absurd (hshort.mp h) (by decide +kernel)

end StakePool
