import StakePool.Proofs.Audit.Changes
/-!
# Tampering with a pool

Single changes to the accounts of a pool that has just been set up: an account is removed, handed to
another owner, cut or extended, drained, or one field of its data is given another value. Whatever
field the audit watches, no other value of it goes unnoticed, and the finding names the slot that was
tampered with. The argument goes by the duty of the account. A changed account that still did its
duty would, field by field, be the account before the change.

Two fields need more than that. A root leads the audit to other addresses, and what gives it away is
the address of the pool, which only the old root derives. The spare bytes of a registry determine its
item size, but through a sum that stops at the largest word, so a registry has to be small for them
to be told apart; that a cut is noticed needs a registry without slack behind its last record.
-/

namespace StakePool

/-- The account is a registry that ends with its last record, and small enough to have been created
in one go. -/
def Account.IsSized (shapeFor : (spare : UInt32) → RegistryShape) (account : Account) : Prop :=
  ∃ header, RegistryHeader.ofData? account.data = some header
    ∧ account.data.length = (shapeFor header.spare).space.toNat
    ∧ (shapeFor header.spare).space ≤ maxCreatedSpace

/-! ### A broken duty is not done -/

namespace Duty

variable {book : AddressBook} {record : PoolRecord} {account changed : Account} {change : Change}

theorem owner_ne_or_length_ne {duty : Duty} (hbreaks : duty.Breaks record account change)
    (happly : change.apply account = some changed) (hedit : ¬ change.IsEdit) :
    changed.owner ≠ account.owner ∨ changed.data.length ≠ account.data.length := by
  cases change with
  | remove => cases happly
  | reassign owner =>
    obtain rfl := Option.some.inj happly
    left
    cases duty <;> first | exact hbreaks | exact hbreaks.elim
  | cut size =>
    obtain rfl := Option.some.inj happly
    right
    have hshort : size < account.data.length := by
      cases duty <;> first | exact hbreaks | exact hbreaks.elim
    rw [List.length_take_of_le (Nat.le_of_lt hshort)]
    exact Nat.ne_of_lt hshort
  | extend extra =>
    obtain rfl := Option.some.inj happly
    right
    have hextra : extra ≠ [] := by
      cases duty <;> first | exact hbreaks | exact hbreaks.elim
    rw [List.length_append]
    have := List.length_pos_iff.mpr hextra
    omega
  | drain | editRecord | editMint | editTokens | editHeader => exact absurd trivial hedit

theorem not_fits_mint_of_breaks {authority : Role} {decimals : UInt8}
    (hfits : (mint authority decimals).Fits book record account)
    (hbreaks : (mint authority decimals).Breaks record account change)
    (happly : change.apply account = some changed) :
    ¬ (mint authority decimals).Fits book record changed := by
  rintro ⟨howner', hinitialized'⟩
  obtain ⟨howner, hinitialized⟩ := hfits
  obtain ⟨hread, -⟩ := Mint.initialized?_eq_some_iff.mp hinitialized
  obtain ⟨hread', -⟩ := Mint.initialized?_eq_some_iff.mp hinitialized'
  cases change with
  | remove | reassign | cut | extend =>
    obtain hne | hne := owner_ne_or_length_ne hbreaks happly id
    · exact hne (howner'.trans howner.symm)
    · exact hne ((Mint.length_eq_of_ofData? hread').trans (Mint.length_eq_of_ofData? hread).symm)
  | editMint edit =>
    obtain rfl := Option.some.inj happly
    obtain ⟨image, hdata, himage⟩ := Mint.ofData?_eq_some_iff.mp hread
    obtain ⟨image', hdata', himage'⟩ := Mint.ofData?_eq_some_iff.mp hread'
    simp only [hdata, Layout.modify_encode] at hdata'
    obtain rfl := Mint.Image.layout.encode_inj hdata'
    simp only [Breaks, hdata, Layout.decode_encode, himage, himage'] at hbreaks
    exact hbreaks rfl
  | drain | editRecord | editTokens | editHeader => exact hbreaks

theorem not_fits_tokens_of_breaks {owner : Slot}
    (hfits : (tokens owner).Fits book record account)
    (hbreaks : (tokens owner).Breaks record account change)
    (happly : change.apply account = some changed) :
    ¬ (tokens owner).Fits book record changed := by
  rintro ⟨howner', tokens', hinitialized', htokens', hmint'⟩
  obtain ⟨howner, tokens, hinitialized, htokens, hmint⟩ := hfits
  obtain ⟨hread, -⟩ := TokenAccount.initialized?_eq_some_iff.mp hinitialized
  obtain ⟨hread', hstate'⟩ := TokenAccount.initialized?_eq_some_iff.mp hinitialized'
  cases change with
  | remove | reassign | cut | extend =>
    obtain hne | hne := owner_ne_or_length_ne hbreaks happly id
    · exact hne (howner'.trans howner.symm)
    · exact hne ((TokenAccount.length_eq_of_ofData? hread').trans
        (TokenAccount.length_eq_of_ofData? hread).symm)
  | editTokens edit =>
    obtain rfl := Option.some.inj happly
    obtain ⟨image, hdata, himage⟩ := TokenAccount.ofData?_eq_some_iff.mp hread
    obtain ⟨image', hdata', himage'⟩ := TokenAccount.ofData?_eq_some_iff.mp hread'
    simp only [hdata, Layout.modify_encode] at hdata'
    obtain rfl := TokenAccount.Image.layout.encode_inj hdata'
    simp only [Breaks, hdata, Layout.decode_encode] at hbreaks
    obtain ⟨hmintImage, hownerImage, -⟩ := TokenAccount.ofImage?_eq_some himage
    obtain ⟨hmintImage', hownerImage', hstateImage'⟩ := TokenAccount.ofImage?_eq_some himage'
    cases edit with
    | mint value =>
      have hvalue : value = image.mint := by
        rw [← hmintImage, hmint, ← hmint', hmintImage']
        rfl
      exact hbreaks (hvalue ▸ rfl)
    | owner value =>
      have hvalue : value = image.owner := by
        rw [← hownerImage, htokens, ← htokens', hownerImage']
        rfl
      exact hbreaks (hvalue ▸ rfl)
    | uninitialize =>
      have hcleared : some TokenAccount.State.uninitialized = some tokens'.state :=
        (TokenAccount.State.ofByte?_toByte _).symm.trans hstateImage'
      exact hstate' (Option.some.inj hcleared).symm
  | drain | editRecord | editMint | editHeader => exact hbreaks

theorem not_fits_vault_of_breaks (hfits : vault.Fits book record account)
    (hbreaks : vault.Breaks record account change)
    (happly : change.apply account = some changed) : ¬ vault.Fits book record changed := by
  rintro ⟨⟨hdata', howner'⟩, hle'⟩
  obtain ⟨⟨hdata, howner⟩, -⟩ := hfits
  cases change with
  | remove | reassign | cut | extend =>
    obtain hne | hne := owner_ne_or_length_ne hbreaks happly id
    · exact hne (howner'.trans howner.symm)
    · exact hne (congrArg List.length (hdata'.trans hdata.symm))
  | drain lamports =>
    obtain rfl := Option.some.inj happly
    have hlt : lamports < record.tokenAccountRent := hbreaks
    exact UInt64.not_lt.mpr hle' hlt
  | editRecord | editMint | editTokens | editHeader => exact hbreaks

/-- No single field of the header can be changed, since the spare bytes determine all the others and
are themselves determined by the item size. -/
theorem not_describes_edit {shapeFor : (spare : UInt32) → RegistryShape}
    (hfamily : RegistryShape.IsFamily shapeFor) {header : RegistryHeader} {pool : Key} {size : Nat}
    (hspace : (shapeFor header.spare).space ≤ maxCreatedSpace)
    (h : header.Describes shapeFor pool size) {edit : HeaderEdit}
    (hedit : edit.apply header ≠ header) : ¬ (edit.apply header).Describes shapeFor pool size := by
  intro h'
  cases edit with
  | discriminator value =>
    obtain rfl : value = header.discriminator := h'.discriminator_eq.trans h.discriminator_eq.symm
    exact hedit rfl
  | pool value =>
    obtain rfl : value = header.pool := h'.pool_eq.trans h.pool_eq.symm
    exact hedit rfl
  | itemSize value =>
    obtain rfl : value = header.itemSize := h'.itemSize_eq.trans h.itemSize_eq.symm
    exact hedit rfl
  | count value =>
    obtain rfl : value = header.count := h'.count_eq.trans h.count_eq.symm
    exact hedit rfl
  | capacity value =>
    obtain rfl : value = header.capacity := h'.capacity_eq.trans h.capacity_eq.symm
    exact hedit rfl
  | spare value =>
    obtain rfl : header.spare = value :=
      hfamily.itemSize_inj hspace (h.itemSize_eq.symm.trans h'.itemSize_eq)
    exact hedit rfl

/-- A registry that ends with its last record has no room left for it when it is cut. -/
theorem not_describes_cut {shapeFor : (spare : UInt32) → RegistryShape}
    (hfamily : RegistryShape.IsFamily shapeFor) {header : RegistryHeader} {pool : Key}
    {before after : Nat} (hspace : before = (shapeFor header.spare).space.toNat)
    (h : header.Describes shapeFor pool before) (hfits : RegistryHeader.size ≤ after)
    (hlt : after < before) : ¬ header.Describes shapeFor pool after := by
  intro h'
  have hcapacity := h'.capacity_eq
  rw [h.capacity_eq, hspace, RegistryShape.capacityFor_space _ (hfamily.itemSize_ne_zero _)]
    at hcapacity
  exact RegistryShape.capacityFor_ne (hfamily.itemSize_ne_zero _) hfits (hspace ▸ hlt)
    hcapacity.symm

theorem not_fits_registry_of_breaks {shapeFor : (spare : UInt32) → RegistryShape}
    (hfamily : RegistryShape.IsFamily shapeFor) (hsized : account.IsSized shapeFor)
    (hfits : (registry shapeFor).Fits book record account)
    (hbreaks : (registry shapeFor).Breaks record account change)
    (happly : change.apply account = some changed) :
    ¬ (registry shapeFor).Fits book record changed := by
  rintro ⟨howner', header', hread', hheader'⟩
  obtain ⟨howner, header, hread, hheader⟩ := hfits
  obtain ⟨_, hsame, hlength, hspace⟩ := hsized
  obtain rfl := Option.some.inj (hread.symm.trans hsame)
  cases change with
  | remove => cases happly
  | reassign owner =>
    obtain rfl := Option.some.inj happly
    exact hbreaks (howner'.trans howner.symm)
  | cut size =>
    obtain rfl := Option.some.inj happly
    have hshort : size < account.data.length := hbreaks
    have hcut : (account.data.take size).length = size :=
      List.length_take_of_le (Nat.le_of_lt hshort)
    -- The cut leaves the header alone, so what it says is of the data as it was.
    have hfront := RegistryHeader.layout.readFront?_of_take hread'
    obtain rfl := Option.some.inj (hread.symm.trans hfront)
    have hwidth : RegistryHeader.size ≤ size :=
      hcut ▸ RegistryHeader.layout.width_le_of_readFront? hread'
    simp only [hcut] at hheader'
    exact not_describes_cut hfamily hlength hheader hwidth hshort hheader'
  | editHeader edit =>
    obtain rfl := Option.some.inj happly
    have hedited := RegistryHeader.layout.readFront?_modify edit.apply hread
    have hkept := RegistryHeader.layout.length_modify edit.apply hread
    obtain rfl := Option.some.inj (hread'.symm.trans hedited)
    have hdecode : RegistryHeader.layout.decode (account.data.take RegistryHeader.size) = header :=
      RegistryHeader.layout.decode_take_of_readFront? hread
    simp only [Breaks, hdecode] at hbreaks
    simp only [hkept] at hheader'
    exact not_describes_edit hfamily hspace hheader hbreaks hheader'
  | extend | drain | editRecord | editMint | editTokens => exact hbreaks

/-- What the registries of a pool have to be, beyond what the audit asks, for cuts and edits of them
to be noticed. -/
def IsSized (account : Account) : Duty → Prop
  | registry shapeFor => account.IsSized shapeFor
  | _ => True

theorem not_fits_of_breaks {role : Role} (hsized : (Slot.role role).duty.IsSized account)
    (hfits : (Slot.role role).duty.Fits book record account)
    (hbreaks : (Slot.role role).duty.Breaks record account change)
    (happly : change.apply account = some changed) :
    ¬ (Slot.role role).duty.Fits book record changed := by
  cases role with
  | reserve | solLeg => exact not_fits_vault_of_breaks hfits hbreaks happly
  | stMint | lpMint => exact not_fits_mint_of_breaks hfits hbreaks happly
  | stLeg | treasury => exact not_fits_tokens_of_breaks hfits hbreaks happly
  | stakeList =>
    exact not_fits_registry_of_breaks RegistryShape.isFamily_stakeList hsized hfits hbreaks happly
  | validatorList =>
    exact not_fits_registry_of_breaks RegistryShape.isFamily_validatorList hsized hfits hbreaks
      happly
  | stLegAuthority | stMintAuthority | lpMintAuthority | depositAuthority | withdrawAuthority =>
    exact hbreaks.elim

end Duty

/-! ### The audit of a pool that was tampered with -/

namespace Audit

variable {scheme : AddressScheme} {reader : Reader} {programId pool : Key} {book : AddressBook}
  {record : PoolRecord} {account : Account} {change : Change}

section Clean

variable (hclean : checkAddresses book pool record = [])
include hclean

theorem mem_storedAddresses_edit {role : Role} {value : Key}
    (h : (RecordEdit.address role value).apply record ≠ record) :
    (.role role, value) ∈ storedAddresses pool ((RecordEdit.address role value).apply record)
      ∧ value ≠ (book.slot (.role role)).address := by
  have hstored := (checkAddresses_eq_nil_iff.mp hclean).1
  simp only [storedAddresses, List.forall_mem_cons] at hstored
  obtain ⟨-, hstMint, hlpMint, hstLeg, htreasury, hstakeList, hvalidatorList, -⟩ := hstored
  cases role with
  | stMint | lpMint | stLeg | treasury | stakeList | validatorList =>
    refine ⟨by simp [storedAddresses, RecordEdit.apply], fun heq => h ?_⟩
    simp only [RecordEdit.apply, heq, ← hstMint, ← hlpMint, ← hstLeg, ← htreasury, ← hstakeList,
      ← hvalidatorList]
  | reserve | solLeg | stLegAuthority | stMintAuthority | lpMintAuthority | depositAuthority
  | withdrawAuthority => exact absurd rfl h

theorem mem_storedBumps_edit {slot : Slot} {value : UInt8}
    (h : (RecordEdit.bump slot value).apply record ≠ record) :
    (slot, value) ∈ storedBumps ((RecordEdit.bump slot value).apply record)
      ∧ value ≠ (book.slot slot).bump := by
  have hstored := (checkAddresses_eq_nil_iff.mp hclean).2
  simp only [storedBumps, List.forall_mem_cons] at hstored
  obtain ⟨hconfig, hreserve, hstMint, hdeposit, hwithdraw, hlpMint, hsolLeg, hstLeg, -⟩ := hstored
  cases slot with
  | config =>
    refine ⟨by simp [storedBumps, RecordEdit.apply], fun heq => h ?_⟩
    simp only [RecordEdit.apply, heq, ← hconfig]
  | role role =>
    cases role with
    | reserve | solLeg | stLegAuthority | stMintAuthority | lpMintAuthority | depositAuthority
    | withdrawAuthority =>
      refine ⟨by simp [storedBumps, RecordEdit.apply], fun heq => h ?_⟩
      simp only [RecordEdit.apply, heq, ← hreserve, ← hstMint, ← hdeposit, ← hwithdraw, ← hlpMint,
        ← hsolLeg, ← hstLeg]
    | stMint | lpMint | stLeg | treasury | stakeList | validatorList => exact absurd rfl h

end Clean

/-- One field of the record given another value. A root leads to other addresses, of which that of
the pool is not the pool's; the addresses and the bumps contradict those that the root derives. -/
theorem exists_finding_of_editRecord {edit : RecordEdit}
    (hbook : AddressBook.derive? scheme programId record.root = some book)
    (hwritten : record.IsWritten) (hclean : checkAddresses book pool record = [])
    (hfound : reader pool = some account) (howner : account.owner = programId)
    (hdata : account.data = (edit.apply record).encode) (hedit : edit.apply record ≠ record)
    (hspares : (Change.editRecord edit).SparesPool scheme programId pool record) :
    ∃ finding ∈ audit scheme reader programId pool,
      finding.slot = (Change.editRecord edit).subject .config := by
  have hload (h : (edit.apply record).IsWritten) :
      loadRecord reader programId pool = .ok (edit.apply record) := by
    refine loadRecord_eq_ok_iff.mpr ⟨account, hfound, howner, ?_⟩
    rw [hdata, PoolRecord.ofData?_encode _ h]
  cases edit with
  | discriminator value =>
    refine exists_finding_of_not_loaded fun record' hload' => hedit ?_
    obtain ⟨_, hfound', -, hread'⟩ := loadRecord_eq_ok_iff.mp hload'
    obtain rfl := Option.some.inj (hfound.symm.trans hfound')
    obtain ⟨hdata', hwritten'⟩ := PoolRecord.ofData?_eq_some_iff.mp hread'
    obtain rfl := PoolRecord.layout.encode_inj (hdata.symm.trans hdata')
    obtain rfl : value = record.discriminator := Eq.trans hwritten' hwritten.symm
    rfl
  | root value =>
    have hother : value ≠ record.root := fun heq => hedit (heq ▸ rfl)
    cases hderived : AddressBook.derive? scheme programId value with
    | none =>
      have hderived : AddressBook.derive? scheme programId
          ((RecordEdit.root value).apply record).root = none := hderived
      simp only [audit, hload hwritten, hderived]
      exact ⟨.underivable, List.mem_cons_self, rfl⟩
    | some other =>
      refine exists_finding_of_checkAddresses (hload hwritten) hderived ?_
      obtain ⟨-, -, hconfig, -⟩ := AddressBook.derive?_spec hderived
      have haway := hspares value rfl hother _ hconfig
      exact exists_finding_of_address List.mem_cons_self haway.symm
  | address role value =>
    obtain ⟨hmem, hne⟩ := mem_storedAddresses_edit hclean hedit
    have hkept : ((RecordEdit.address role value).apply record).IsWritten
        ∧ ((RecordEdit.address role value).apply record).root = record.root := by
      cases role <;> exact ⟨hwritten, rfl⟩
    exact exists_finding_of_checkAddresses (hload hkept.1) (hkept.2 ▸ hbook)
      (exists_finding_of_address hmem hne)
  | bump slot value =>
    obtain ⟨hmem, hne⟩ := mem_storedBumps_edit hclean hedit
    have hkept : ((RecordEdit.bump slot value).apply record).IsWritten
        ∧ ((RecordEdit.bump slot value).apply record).root = record.root := by
      cases slot with
      | config => exact ⟨hwritten, rfl⟩
      | role role => cases role <;> exact ⟨hwritten, rfl⟩
    exact exists_finding_of_checkAddresses (hload hkept.1) (hkept.2 ▸ hbook)
      (exists_finding_of_bump hmem hne)

section Clean

variable (hload : loadRecord reader programId pool = .ok record)
  (hbook : AddressBook.derive? scheme programId record.root = some book)
  (hclean : audit scheme reader programId pool = [])
include hload hbook hclean

/-- The pool's own account: a change to it either leaves no record to load, or a record that the
addresses derived from its root contradict. -/
theorem exists_finding_of_record_breaks (hfound : reader pool = some account)
    (hbreaks : Duty.record.Breaks record account change)
    (hspares : change.SparesPool scheme programId pool record) :
    ∃ finding ∈ audit scheme (change.on reader pool) programId pool,
      finding.slot = change.subject .config := by
  obtain ⟨rfl, hfits⟩ := (audit_eq_nil_iff_of_loadRecord hload hbook).mp hclean
  obtain ⟨_, hsame, howner, hread, haddresses⟩ := hfits .config (by decide)
  obtain rfl := Option.some.inj (hfound.symm.trans hsame)
  obtain ⟨rfl, -, -, -⟩ := AddressBook.derive?_spec hbook
  have hchanged : change.on reader book.pool book.pool = change.apply account :=
    Change.on_self hfound
  cases change with
  | remove | reassign | cut | extend =>
    refine exists_finding_of_not_loaded fun record' hload' => ?_
    obtain ⟨changed, hfound', howner', hread'⟩ := loadRecord_eq_ok_iff.mp hload'
    obtain hne | hne := Duty.owner_ne_or_length_ne hbreaks (hchanged.symm.trans hfound') id
    · exact hne (howner'.trans howner.symm)
    · exact hne ((PoolRecord.length_eq_of_isSome (Option.isSome_of_eq_some hread')).trans
        (PoolRecord.length_eq_of_isSome (Option.isSome_of_eq_some hread)).symm)
  | editRecord edit =>
    obtain ⟨hdata, hwritten⟩ := PoolRecord.ofData?_eq_some_iff.mp hread
    refine exists_finding_of_editRecord hbook hwritten haddresses hchanged howner ?_ hbreaks
      hspares
    dsimp only
    rw [hdata]
    exact PoolRecord.layout.modify_encode edit.apply record
  | drain | editMint | editTokens | editHeader => exact hbreaks.elim

/-- Whatever account of the pool has its duty broken, the audit reports it. -/
theorem exists_finding_of_breaks (hdistinct : book.Distinct)
    (hsized : ∀ slot account, reader (book.slot slot).address = some account →
      slot.duty.IsSized account) {slot : Slot}
    (hfound : reader (book.slot slot).address = some account)
    (hbreaks : slot.duty.Breaks record account change)
    (hspares : change.SparesPool scheme programId pool record) :
    ∃ finding ∈ audit scheme (change.on reader (book.slot slot).address) programId pool,
      finding.slot = change.subject slot := by
  obtain ⟨rfl, hfits⟩ := (audit_eq_nil_iff_of_loadRecord hload hbook).mp hclean
  cases slot with
  | config => exact exists_finding_of_record_breaks hload hbook hclean hfound hbreaks hspares
  | role role =>
    have hrole : role ∈ accountRoles := by
      cases role <;> first | decide | exact hbreaks.elim
    have hsubject : change.subject (.role role) = .role role := by
      cases change with
      | editRecord => cases role <;> exact hbreaks.elim
      | remove | reassign | cut | extend | drain | editMint | editTokens | editHeader => rfl
    have hpool : book.pool ≠ (book.slot (.role role)).address :=
      fun heq => nomatch hdistinct .config (.role role) heq
    have hload' : loadRecord (change.on reader (book.slot (.role role)).address) programId
        book.pool = .ok record := by
      rw [loadRecord_eq_ok_iff, Change.on_of_ne hpool]
      exact loadRecord_eq_ok_iff.mp hload
    rw [hsubject]
    refine exists_finding_of_not_fits hload' hbook hrole fun changed hchanged => ?_
    obtain ⟨_, hsame, hduty⟩ := hfits (.role role) (mem_accountRoles_iff.mp hrole)
    obtain rfl := Option.some.inj (hfound.symm.trans hsame)
    exact Duty.not_fits_of_breaks (hsized _ _ hfound) hduty hbreaks
      ((Change.on_self hfound).symm.trans hchanged)

end Clean

end Audit

end StakePool
