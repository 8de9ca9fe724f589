import StakePool.Proofs.Setup.Audited
import StakePool.Request
/-!
# What an audit asks for

An audit is passed exactly if every account of the pool does its duty: the record names the addresses
that its root derives, and each of the eight other accounts is what its role is for. `Duty.Fits` says
it account by account, so that a change to one account can be judged by itself. Each check of an
account reports only on the slot of that account.
-/

namespace StakePool

/-- What an account of a pool is there for. -/
inductive Duty where
  /-- Holds the pool's record. -/
  | record
  /-- A mint of which nothing has been minted, for an authority of the pool. -/
  | mint (authority : Role) (decimals : UInt8)
  /-- Holds staked SOL tokens for a slot of the pool. -/
  | tokens (owner : Slot)
  | registry (shapeFor : (spare : UInt32) → RegistryShape)
  /-- Holds lamports. -/
  | vault
  /-- Only signs, so that no account is asked for. -/
  | signer

def Slot.duty : Slot → Duty
  | .config => .record
  | .role .reserve | .role .solLeg => .vault
  | .role .stMint => .mint .stMintAuthority Plan.stDecimals
  | .role .lpMint => .mint .lpMintAuthority Plan.lpDecimals
  | .role .stLeg => .tokens (.role .stLegAuthority)
  | .role .treasury => .tokens .config
  | .role .stakeList => .registry .stakeList
  | .role .validatorList => .registry .validatorList
  | .role .stLegAuthority | .role .stMintAuthority | .role .lpMintAuthority
  | .role .depositAuthority | .role .withdrawAuthority => .signer

/-- The header belongs to a registry of the pool that holds no records and fills a given space. -/
structure RegistryHeader.Describes (header : RegistryHeader)
    (shapeFor : (spare : UInt32) → RegistryShape) (pool : Key) (space : Nat) : Prop where
  discriminator_eq : header.discriminator = (shapeFor header.spare).discriminator
  pool_eq : header.pool = pool
  count_eq : header.count = 0
  itemSize_eq : header.itemSize = (shapeFor header.spare).itemSize
  capacity_eq : header.capacity = (shapeFor header.spare).capacityFor space

/-- An account is as its duty asks, in the pool with the given addresses and record. -/
def Duty.Fits (book : AddressBook) (record : PoolRecord) (account : Account) : Duty → Prop
  | .record =>
    account.owner = book.programId ∧ PoolRecord.ofData? account.data = some record
      ∧ Audit.checkAddresses book book.pool record = []
  | .mint authority decimals =>
    account.owner = .tokenProgram
      ∧ Mint.initialized? account.data = some (.opened decimals (book.address authority) none)
  | .tokens owner =>
    account.owner = .tokenProgram ∧ ∃ tokens, TokenAccount.initialized? account.data = some tokens
      ∧ tokens.owner = (book.slot owner).address ∧ tokens.mint = book.address .stMint
  | .registry shapeFor =>
    account.owner = book.programId ∧ ∃ header, RegistryHeader.ofData? account.data = some header
      ∧ header.Describes shapeFor book.pool account.data.length
  | .vault => account.IsVacant ∧ record.tokenAccountRent ≤ account.lamports
  | .signer => True

namespace Audit

variable {scheme : AddressScheme} {reader : Reader} {programId pool : Key} {book : AddressBook}
  {record : PoolRecord} {role : Role} {finding : Finding}

theorem mem_report_iff {cause : Prop} [Decidable cause] {reported : Finding} :
    finding ∈ report cause reported ↔ cause ∧ finding = reported := by
  unfold report
  split <;> simp [*]

theorem checkAccount_eq_nil_iff {owner : Key} {check : Account → List Finding} :
    checkAccount reader book role owner check = []
      ↔ ∃ account, reader (book.address role) = some account ∧ account.owner = owner
        ∧ check account = [] := by
  cases hfound : reader (book.address role) with
  | none => simp [checkAccount, hfound]
  | some account =>
    by_cases howner : account.owner = owner <;> simp [checkAccount, hfound, howner]

/-- The findings are all about one slot. -/
def AllOn (slot : Slot) (findings : List Finding) : Prop :=
  ∀ finding ∈ findings, finding.slot = slot

namespace AllOn

variable {slot : Slot} {left right : List Finding}

theorem nil : AllOn slot [] :=
  List.forall_mem_nil _

theorem singleton (h : finding.slot = slot) : AllOn slot [finding] :=
  List.forall_mem_singleton.mpr h

theorem append (hleft : AllOn slot left) (hright : AllOn slot right) :
    AllOn slot (left ++ right) :=
  List.forall_mem_append.mpr ⟨hleft, hright⟩

theorem report {cause : Prop} [Decidable cause] (h : finding.slot = slot) :
    AllOn slot (Audit.report cause finding) := by
  intro found hfound
  obtain ⟨-, rfl⟩ := mem_report_iff.mp hfound
  exact h

end AllOn

theorem allOn_checkAccount {owner : Key} {check : Account → List Finding}
    (hcheck : ∀ account, AllOn (.role role) (check account)) :
    AllOn (.role role) (checkAccount reader book role owner check) := by
  cases hfound : reader (book.address role) with
  | none =>
    rw [checkAccount, hfound]
    exact .singleton rfl
  | some account =>
    simp only [checkAccount, hfound]
    split
    · exact .singleton rfl
    · exact hcheck account

/-! ### The checks of one account -/

theorem checkMint_eq_nil_iff {authority : Role} {decimals : UInt8} :
    checkMint reader book role authority decimals = []
      ↔ ∃ account, reader (book.address role) = some account
        ∧ (Duty.mint authority decimals).Fits book record account := by
  rw [checkMint, checkAccount_eq_nil_iff]
  refine exists_congr fun account => and_congr_right fun _ => and_congr_right fun _ => ?_
  cases hread : Mint.initialized? account.data with
  | none => simp
  | some mint =>
    have hflag := (Mint.initialized?_eq_some_iff.mp hread).2
    obtain ⟨found, supply, shown, flag, freeze⟩ := mint
    obtain rfl : flag = true := hflag
    simp only [List.append_eq_nil_iff, report_eq_nil_iff, ne_eq, Decidable.not_not,
      List.map_eq_nil_iff, Option.toList_eq_nil_iff, Option.some.injEq, Mint.opened,
      Mint.mk.injEq, true_and]
    constructor
    · rintro ⟨⟨⟨hauthority, hsupply⟩, hfreeze⟩, hdecimals⟩
      exact ⟨hauthority, hsupply, hdecimals, hfreeze⟩
    · rintro ⟨hauthority, hsupply, hdecimals, hfreeze⟩
      exact ⟨⟨⟨hauthority, hsupply⟩, hfreeze⟩, hdecimals⟩

theorem checkTokenAccount_eq_nil_iff {owner : Slot} :
    checkTokenAccount reader book role (book.slot owner).address = []
      ↔ ∃ account, reader (book.address role) = some account
        ∧ (Duty.tokens owner).Fits book record account := by
  rw [checkTokenAccount, checkAccount_eq_nil_iff]
  refine exists_congr fun account => and_congr_right fun _ => and_congr_right fun _ => ?_
  cases hread : TokenAccount.initialized? account.data with
  | none => simp
  | some tokens => simp

theorem checkRegistry_eq_nil_iff {shapeFor : (spare : UInt32) → RegistryShape} :
    checkRegistry reader book.programId book role shapeFor = []
      ↔ ∃ account, reader (book.address role) = some account
        ∧ (Duty.registry shapeFor).Fits book record account := by
  rw [checkRegistry, checkAccount_eq_nil_iff]
  refine exists_congr fun account => and_congr_right fun _ => and_congr_right fun _ => ?_
  cases hread : RegistryHeader.ofData? account.data with
  | none => simp
  | some header =>
    simp only [Option.some.injEq, exists_eq_left']
    split
    · next hwrong =>
      exact iff_of_false (List.cons_ne_nil _ _) fun h => hwrong h.discriminator_eq
    · next hright =>
      rw [ne_eq, Decidable.not_not] at hright
      simp only [List.append_eq_nil_iff, report_eq_nil_iff, ne_eq, Decidable.not_not, not_or]
      constructor
      · rintro ⟨⟨hpool, hcount⟩, hitem, hcapacity⟩
        exact ⟨hright, hpool, hcount, hitem, hcapacity⟩
      · intro h
        exact ⟨⟨h.pool_eq, h.count_eq⟩, h.itemSize_eq, h.capacity_eq⟩

theorem checkLamports_eq_nil_iff :
    checkLamports reader book role record.tokenAccountRent = []
      ↔ ∃ account, reader (book.address role) = some account
        ∧ Duty.vault.Fits book record account := by
  rw [checkLamports, checkAccount_eq_nil_iff]
  refine exists_congr fun account => and_congr_right fun _ => ?_
  simp only [List.append_eq_nil_iff, report_eq_nil_iff, ne_eq, Decidable.not_not, UInt64.not_lt]
  constructor
  · rintro ⟨howner, hdata, hle⟩
    exact ⟨⟨hdata, howner⟩, hle⟩
  · rintro ⟨⟨hdata, howner⟩, hle⟩
    exact ⟨howner, hdata, hle⟩

/-! ### All checks of a role -/

/-- The checks of a role's account, as its duty asks. -/
def checkRole (reader : Reader) (book : AddressBook) (record : PoolRecord) (role : Role) :
    List Finding :=
  match (Slot.role role).duty with
  | .mint authority decimals => checkMint reader book role authority decimals
  | .tokens owner => checkTokenAccount reader book role (book.slot owner).address
  | .registry shapeFor => checkRegistry reader book.programId book role shapeFor
  | .vault => checkLamports reader book role record.tokenAccountRent
  | .record | .signer => []

/-- The roles with an account, in the order in which they are checked. -/
def accountRoles : List Role :=
  [.stMint, .lpMint, .stLeg, .treasury, .stakeList, .validatorList, .reserve, .solLeg]

theorem mem_accountRoles_iff : role ∈ accountRoles ↔ Slot.role role ∈ Request.slots := by
  cases role <;> decide

theorem checks_eq :
    checks scheme reader book.programId book pool record
      = checkAddresses book pool record ++ checkAuthorities scheme book
        ++ accountRoles.flatMap (checkRole reader book record) := by
  simp only [checks, accountRoles, checkRole, Slot.duty, List.flatMap_cons, List.flatMap_nil,
    List.append_nil, List.append_assoc]
  rfl

theorem checkRole_eq_nil_iff (hrole : role ∈ accountRoles) :
    checkRole reader book record role = []
      ↔ ∃ account, reader (book.address role) = some account
        ∧ (Slot.role role).duty.Fits book record account := by
  cases role with
  | reserve | solLeg => exact checkLamports_eq_nil_iff
  | stMint | lpMint => exact checkMint_eq_nil_iff
  | stLeg | treasury => exact checkTokenAccount_eq_nil_iff
  | stakeList | validatorList => exact checkRegistry_eq_nil_iff
  | stLegAuthority | stMintAuthority | lpMintAuthority | depositAuthority | withdrawAuthority =>
    exact absurd hrole (by decide)

theorem allOn_checkRole (reader : Reader) (book : AddressBook) (record : PoolRecord) (role : Role) :
    AllOn (.role role) (checkRole reader book record role) := by
  unfold checkRole
  split
  · refine allOn_checkAccount fun account => ?_
    split
    · exact .singleton rfl
    · refine .append (.append (.append (.report rfl) (.report rfl)) ?_) (.report rfl)
      exact List.forall_mem_map.mpr fun _ _ => rfl
  · refine allOn_checkAccount fun account => ?_
    split
    · exact .singleton rfl
    · exact .append (.report rfl) (.report rfl)
  · refine allOn_checkAccount fun account => ?_
    split
    · exact .singleton rfl
    · dsimp only
      split
      · exact .singleton rfl
      · exact .append (.append (.report rfl) (.report rfl)) (.report rfl)
  · exact allOn_checkAccount fun account => .append (.report rfl) (.report rfl)
  · exact .nil
  · exact .nil

/-! ### The whole audit -/

theorem loadRecord_eq_ok_iff :
    loadRecord reader programId pool = .ok record
      ↔ ∃ account, reader pool = some account ∧ account.owner = programId
        ∧ PoolRecord.ofData? account.data = some record := by
  cases hfound : reader pool with
  | none => simp [loadRecord, hfound]
  | some account =>
    simp only [loadRecord, hfound, Option.some.injEq, exists_eq_left']
    split
    · next howner => simp [howner]
    · next howner =>
      rw [ne_eq, Decidable.not_not] at howner
      split
      · next hlength =>
        simp only [reduceCtorEq, false_iff, not_and]
        intro _ hread
        exact hlength (PoolRecord.length_eq_of_isSome (Option.isSome_of_eq_some hread))
      · cases hread : PoolRecord.ofData? account.data <;> simp [howner]

theorem slot_of_loadRecord (h : loadRecord reader programId pool = .error finding) :
    finding.slot = .config := by
  unfold loadRecord at h
  split at h
  · cases h
    rfl
  · split at h
    · cases h
      rfl
    · split at h
      · cases h
        rfl
      · split at h
        · cases h
          rfl
        · cases h

theorem checkAddresses_eq_nil_iff :
    checkAddresses book pool record = []
      ↔ (∀ entry ∈ storedAddresses pool record, entry.2 = (book.slot entry.1).address)
        ∧ ∀ entry ∈ storedBumps record, entry.2 = (book.slot entry.1).bump := by
  simp only [checkAddresses, List.append_eq_nil_iff, List.flatMap_eq_nil_iff, report_eq_nil_iff,
    ne_eq, Decidable.not_not]

theorem pool_eq_of_checkAddresses (h : checkAddresses book pool record = []) :
    pool = book.pool :=
  (checkAddresses_eq_nil_iff.mp h).1 _ List.mem_cons_self

theorem exists_finding_of_address {slot : Slot} {actual : Key}
    (hmem : (slot, actual) ∈ storedAddresses pool record)
    (hne : actual ≠ (book.slot slot).address) :
    ∃ finding ∈ checkAddresses book pool record, finding.slot = slot := by
  refine ⟨.addressMismatch slot (book.slot slot).address actual, ?_, rfl⟩
  refine List.mem_append_left _ (List.mem_flatMap.mpr ⟨_, hmem, ?_⟩)
  exact mem_report_iff.mpr ⟨hne, rfl⟩

theorem exists_finding_of_bump {slot : Slot} {actual : UInt8}
    (hmem : (slot, actual) ∈ storedBumps record) (hne : actual ≠ (book.slot slot).bump) :
    ∃ finding ∈ checkAddresses book pool record, finding.slot = slot := by
  refine ⟨.bumpMismatch slot (book.slot slot).bump actual, ?_, rfl⟩
  refine List.mem_append_right _ (List.mem_flatMap.mpr ⟨_, hmem, ?_⟩)
  exact mem_report_iff.mpr ⟨hne, rfl⟩

theorem audit_eq_checks (hload : loadRecord reader programId pool = .ok record)
    (hbook : AddressBook.derive? scheme programId record.root = some book) :
    audit scheme reader programId pool = checkAddresses book pool record
      ++ checkAuthorities scheme book ++ accountRoles.flatMap (checkRole reader book record) := by
  obtain ⟨rfl, -⟩ := AddressBook.derive?_spec hbook
  simp only [audit, hload, hbook, checks_eq]

theorem exists_finding_of_loadRecord (h : loadRecord reader programId pool = .error finding) :
    ∃ found ∈ audit scheme reader programId pool, found.slot = .config := by
  rw [audit, h]
  exact ⟨finding, List.mem_cons_self, slot_of_loadRecord h⟩

theorem exists_finding_of_not_loaded (h : ∀ record, loadRecord reader programId pool ≠ .ok record) :
    ∃ finding ∈ audit scheme reader programId pool, finding.slot = .config := by
  cases hload : loadRecord reader programId pool with
  | ok record => exact absurd hload (h record)
  | error finding => exact exists_finding_of_loadRecord hload

section Loaded

variable (hload : loadRecord reader programId pool = .ok record)
  (hbook : AddressBook.derive? scheme programId record.root = some book)
include hload hbook

theorem exists_finding_of_checkAddresses {slot : Slot}
    (h : ∃ found ∈ checkAddresses book pool record, found.slot = slot) :
    ∃ found ∈ audit scheme reader programId pool, found.slot = slot := by
  obtain ⟨found, hmem, hslot⟩ := h
  rw [audit_eq_checks hload hbook]
  exact ⟨found, List.mem_append_left _ (List.mem_append_left _ hmem), hslot⟩

/-- A role whose account does not do its duty is reported. -/
theorem exists_finding_of_not_fits (hrole : role ∈ accountRoles)
    (hnot : ∀ account, reader (book.address role) = some account →
      ¬ (Slot.role role).duty.Fits book record account) :
    ∃ found ∈ audit scheme reader programId pool, found.slot = .role role := by
  have hne : checkRole reader book record role ≠ [] := by
    rw [ne_eq, checkRole_eq_nil_iff hrole]
    exact fun ⟨account, hfound, hfits⟩ => hnot account hfound hfits
  obtain ⟨found, hmem⟩ := List.exists_mem_of_ne_nil _ hne
  refine ⟨found, ?_, allOn_checkRole reader book record role found hmem⟩
  rw [audit_eq_checks hload hbook]
  exact List.mem_append_right _ (List.mem_flatMap.mpr ⟨role, hrole, hmem⟩)

theorem audit_eq_nil_iff_of_loadRecord :
    audit scheme reader programId pool = []
      ↔ book.pool = pool ∧ ∀ slot ∈ Request.slots, ∃ account,
        reader (book.slot slot).address = some account ∧ slot.duty.Fits book record account := by
  obtain ⟨account, hfound, howner, hread⟩ := loadRecord_eq_ok_iff.mp hload
  obtain ⟨rfl, -⟩ := AddressBook.derive?_spec hbook
  rw [audit_eq_checks hload hbook, checkAuthorities_derived hbook, List.append_nil,
    List.append_eq_nil_iff, List.flatMap_eq_nil_iff]
  constructor
  · rintro ⟨haddresses, hroles⟩
    obtain rfl := pool_eq_of_checkAddresses haddresses
    refine ⟨rfl, fun slot hslot => ?_⟩
    cases slot with
    | config => exact ⟨account, hfound, howner, hread, haddresses⟩
    | role role =>
      have hrole := mem_accountRoles_iff.mpr hslot
      exact (checkRole_eq_nil_iff hrole).mp (hroles role hrole)
  · rintro ⟨rfl, hfits⟩
    obtain ⟨-, -, -, -, haddresses⟩ := hfits .config (by decide)
    refine ⟨haddresses, fun role hrole => ?_⟩
    exact (checkRole_eq_nil_iff hrole).mpr (hfits (.role role) (mem_accountRoles_iff.mp hrole))

end Loaded

/-- An audit is passed exactly if all accounts of the pool do their duties. -/
theorem audit_eq_nil_iff :
    audit scheme reader programId pool = []
      ↔ ∃ record book, AddressBook.derive? scheme programId record.root = some book
        ∧ book.pool = pool ∧ ∀ slot ∈ Request.slots, ∃ account,
          reader (book.slot slot).address = some account
            ∧ slot.duty.Fits book record account := by
  constructor
  · intro h
    cases hload : loadRecord reader programId pool with
    | error finding =>
      rw [audit, hload] at h
      cases h
    | ok record =>
      cases hbook : AddressBook.derive? scheme programId record.root with
      | none =>
        simp only [audit, hload, hbook] at h
        cases h
      | some book =>
        exact ⟨record, book, hbook, (audit_eq_nil_iff_of_loadRecord hload hbook).mp h⟩
  · rintro ⟨record, book, hbook, rfl, hfits⟩
    obtain ⟨account, hfound, howner, hread, -⟩ := hfits .config (by decide)
    obtain ⟨rfl, -⟩ := AddressBook.derive?_spec hbook
    have hload : loadRecord reader book.programId book.pool = .ok record :=
      loadRecord_eq_ok_iff.mpr ⟨account, hfound, howner, hread⟩
    exact (audit_eq_nil_iff_of_loadRecord hload hbook).mpr ⟨rfl, hfits⟩

end Audit

end StakePool
