import StakePool.Proofs.Plan
/-!
# The bounds in numbers

Parameters are bounded in two ways. The terms of a pool, its fees, its least stake and its window,
have bounds of their own. The spare bytes of a record have none; they are bounded by the size of the
registry that is to be created, which is a sum that stops at the largest word, times a capacity, in a
wider word. `space_ofRecord_le_iff` solves this for the spare bytes, and nothing is lost on the way,
so their bounds are plain numbers too. A size is reported only when all terms are kept.
-/

namespace StakePool

namespace RegistryShape

variable {discriminator : Block 8} {recordSize capacity spare : UInt32}

/-- A registry of records that have a size of their own and spare bytes. -/
def ofRecord (discriminator : Block 8) (recordSize capacity spare : UInt32) : RegistryShape where
  discriminator
  itemSize := Saturating.add32 recordSize spare
  capacity
  spare

theorem stakeList_eq_ofRecord (spare : UInt32) :
    stakeList spare = ofRecord stakeListDiscriminator stakeRecordSize stakeListCapacity spare := rfl

theorem validatorList_eq_ofRecord (spare : UInt32) :
    validatorList spare
      = ofRecord validatorListDiscriminator validatorRecordSize validatorListCapacity spare := rfl

/-- The most bytes that a record may have when a number of them is to be created in one go. -/
def roomFor (capacity : UInt32) : Nat :=
  (maxCreatedSpace.toNat - RegistryHeader.size) / capacity.toNat

/-- A registry can be created exactly if its records leave the spare bytes their room. -/
theorem space_ofRecord_le_iff (hcapacity : capacity ≠ 0)
    (hrecord : recordSize.toNat ≤ roomFor capacity) :
    (ofRecord discriminator recordSize capacity spare).space ≤ maxCreatedSpace
      ↔ spare.toNat ≤ roomFor capacity - recordSize.toNat := by
  have hroom : roomFor capacity ≤ 10152 := Nat.div_le_self ..
  have hitems : (ofRecord discriminator recordSize capacity spare).space ≤ maxCreatedSpace
      ↔ min (recordSize.toNat + spare.toNat) (UInt32.size - 1) * capacity.toNat ≤ 10152 := by
    rw [UInt64.le_iff_toNat_le, toNat_space, ofRecord, Saturating.toNat_add32]
    exact Nat.add_le_add_iff_left (n := RegistryHeader.size) (k := 10152)
  -- A sum that was cut off would be far too large.
  rw [hitems, ← Nat.le_div_iff_mul_le (toNat_pos hcapacity)]
  change _ ≤ roomFor capacity ↔ _
  simp only [UInt32.size]
  omega

theorem space_stakeList_le_iff (spare : UInt32) :
    (stakeList spare).space ≤ maxCreatedSpace ↔ spare ≤ 30 := by
  rw [UInt32.le_iff_toNat_le, stakeList_eq_ofRecord]
  exact space_ofRecord_le_iff (by decide) (by decide)

theorem space_validatorList_le_iff (spare : UInt32) :
    (validatorList spare).space ≤ maxCreatedSpace ↔ spare ≤ 105 := by
  rw [UInt32.le_iff_toNat_le, validatorList_eq_ofRecord]
  exact space_ofRecord_le_iff (by decide) (by decide)

end RegistryShape

namespace Parameters

variable {p : Parameters} {breach : Breach}

/-- The bounds on all but the spare bytes. -/
structure KeepsTerms (p : Parameters) : Prop where
  rewardFee_le : p.rewardFee.basisPoints ≤ 10000
  lpMaxFee_le : p.lpMaxFee.basisPoints ≤ 10000
  lpMinFee_le : p.lpMinFee.basisPoints ≤ 10000
  lpMinFee_le_lpMaxFee : p.lpMinFee.basisPoints ≤ p.lpMaxFee.basisPoints
  lpTreasuryCut_le : p.lpTreasuryCut.basisPoints ≤ 10000
  le_minStake : 10000000 ≤ p.minStake
  le_stakeDeltaWindow : 3000 ≤ p.stakeDeltaWindow

/-- One of the registries is larger than an account may be created. -/
def IsOversized (p : Parameters) : Prop :=
  10240 < p.stakeList.space ∨ 10240 < p.validatorList.space

theorem not_isOversized_iff :
    ¬ p.IsOversized ↔ p.stakeList.space ≤ maxCreatedSpace
      ∧ p.validatorList.space ≤ maxCreatedSpace := by
  rw [IsOversized, not_or, UInt64.not_lt, UInt64.not_lt, maxCreatedSpace]

theorem isValid_iff_not_isOversized : p.IsValid ↔ p.KeepsTerms ∧ ¬ p.IsOversized := by
  rw [isValid_iff, not_isOversized_iff]
  constructor
  · rintro ⟨hreward, hmax, hmin, hcrossed, hcut, hstake, hwindow, hspaces⟩
    exact ⟨⟨hreward, hmax, hmin, hcrossed, hcut, hstake, hwindow⟩, hspaces⟩
  · rintro ⟨⟨hreward, hmax, hmin, hcrossed, hcut, hstake, hwindow⟩, hspaces⟩
    exact ⟨hreward, hmax, hmin, hcrossed, hcut, hstake, hwindow, hspaces⟩

/-- All that validity asks for, in numbers. -/
theorem isValid_iff_bounds :
    p.IsValid ↔ p.KeepsTerms ∧ p.stakeRecordSpare ≤ 30 ∧ p.validatorRecordSpare ≤ 105 := by
  rw [isValid_iff_not_isOversized, not_isOversized_iff, stakeList, validatorList,
    RegistryShape.space_stakeList_le_iff, RegistryShape.space_validatorList_le_iff]

/-- The breach is one of a registry's size. -/
def Breach.IsOfSize : Breach → Prop
  | .stakeListTooLarge _ | .validatorListTooLarge _ => True
  | _ => False

theorem breach?_of_keepsTerms (h : p.KeepsTerms) :
    p.breach? =
      if maxCreatedSpace < p.stakeList.space then some (.stakeListTooLarge p.stakeList.space)
      else if maxCreatedSpace < p.validatorList.space then
        some (.validatorListTooLarge p.validatorList.space)
      else none := by
  obtain ⟨(hreward : p.rewardFee.IsValid), (hmax : p.lpMaxFee.IsValid),
    (hmin : p.lpMinFee.IsValid), hcrossed, (hcut : p.lpTreasuryCut.IsValid),
    (hstake : minStakeLimit ≤ _), (hwindow : minDeltaWindow ≤ _)⟩ := h
  rw [breach?, if_neg (not_not_intro hreward), if_neg (not_not_intro hmax),
    if_neg (not_not_intro hmin), if_neg (UInt32.not_lt.mpr hcrossed), if_neg (not_not_intro hcut),
    if_neg (UInt64.not_lt.mpr hstake), if_neg (UInt64.not_lt.mpr hwindow)]

theorem keepsTerms_of_isOfSize (h : p.breach? = some breach) (hsize : breach.IsOfSize) :
    p.KeepsTerms := by
  -- Every other check would have reported a breach of its own before.
  have hother {other : Breach} {rest : Option Breach} {c : Prop} [Decidable c]
      (h : (if c then some other else rest) = some breach) (hnot : ¬ other.IsOfSize) :
      ¬ c ∧ rest = some breach := by
    split at h
    · exact absurd (Option.some.inj h ▸ hsize) hnot
    · next hc => exact ⟨hc, h⟩
  obtain ⟨hreward, h⟩ := hother h not_false
  obtain ⟨hmax, h⟩ := hother h not_false
  obtain ⟨hmin, h⟩ := hother h not_false
  obtain ⟨hcrossed, h⟩ := hother h not_false
  obtain ⟨hcut, h⟩ := hother h not_false
  obtain ⟨hstake, h⟩ := hother h not_false
  obtain ⟨hwindow, h⟩ := hother h not_false
  exact ⟨Decidable.not_not.mp hreward, Decidable.not_not.mp hmax, Decidable.not_not.mp hmin,
    UInt32.not_lt.mp hcrossed, Decidable.not_not.mp hcut, UInt64.not_lt.mp hstake,
    UInt64.not_lt.mp hwindow⟩

/-- A size is reported exactly if there is one to report and nothing comes before it. -/
theorem exists_isOfSize_iff :
    (∃ breach, p.breach? = some breach ∧ breach.IsOfSize) ↔ p.KeepsTerms ∧ p.IsOversized := by
  constructor
  · rintro ⟨breach, hbreach, hsize⟩
    have hterms := keepsTerms_of_isOfSize hbreach hsize
    refine ⟨hterms, Classical.not_not.mp fun hfits => ?_⟩
    have hvalid : p.breach? = none := isValid_iff_not_isOversized.mpr ⟨hterms, hfits⟩
    cases hbreach.symm.trans hvalid
  · rintro ⟨hterms, hsize⟩
    rw [breach?_of_keepsTerms hterms]
    by_cases hstake : maxCreatedSpace < p.stakeList.space
    · exact ⟨_, if_pos hstake, trivial⟩
    · have hvalidator := hsize.resolve_left hstake
      exact ⟨_, (if_neg hstake).trans (if_pos hvalidator), trivial⟩

end Parameters

end StakePool
