import StakePool.Audit
import StakePool.Proofs.Capacity
import StakePool.Proofs.Setup.Preflight
/-!
# A pool that was set up passes the audit

When a setup has written its pool, every operation of the groundwork counts as applied, whether it
was carried out just now, by an earlier attempt, or by somebody else: what was pending has been
done, and what was applied before has been left alone. The audit asks for nothing that an applied
operation does not bring. The rest of it concerns the record, which the last operation of the setup
has written.
-/

namespace StakePool

namespace Operation

variable {reader : Reader} {programId : Key}

theorem exists_of_fund_applied {address : Key} {lamports : UInt64}
    (h : (fund address lamports).status reader programId = .applied) :
    ∃ account, reader address = some account ∧ account.IsVacant ∧ lamports ≤ account.lamports := by
  cases hfound : reader address with
  | none => simp [status, target, hfound] at h
  | some account =>
    by_cases hvacant : account.IsVacant
    · rw [status_of_vacant _ hfound hvacant, statusOfVacant] at h
      split at h
      · next hle => exact ⟨account, rfl, hvacant, hle⟩
      · cases h
    · rw [status_of_taken _ hfound hvacant] at h
      cases h

theorem exists_of_applied {op : Operation} (hop : ∀ account, op.statusOfVacant account = .pending)
    (h : op.status reader programId = .applied) :
    ∃ account, reader op.target = some account
      ∧ op.statusOfTaken account programId = .applied := by
  cases hfound : reader op.target with
  | none => simp [status, hfound] at h
  | some account =>
    refine ⟨account, rfl, ?_⟩
    by_cases hvacant : account.IsVacant
    · rw [status_of_vacant _ hfound hvacant, hop account] at h
      cases h
    · rwa [status_of_taken _ hfound hvacant] at h

theorem ite_applied_iff {c : Prop} [Decidable c] :
    (if c then Status.applied else .conflict) = .applied ↔ c := by
  by_cases hc : c <;> simp [hc]

theorem exists_of_createAccount_applied {slot : Slot} {address owner : Key}
    {space lamports : UInt64}
    (h : (createAccount slot address space lamports owner).status reader programId = .applied) :
    ∃ account, reader address = some account ∧ account.owner = owner
      ∧ account.data.length = space.toNat := by
  obtain ⟨account, hfound, happlied⟩ := exists_of_applied (fun _ => rfl) h
  exact ⟨account, hfound, ite_applied_iff.mp happlied⟩

theorem exists_of_openMint_applied {mint authority : Key} {decimals : UInt8} {freeze : Option Key}
    (h : (openMint mint decimals authority freeze).status reader programId = .applied) :
    ∃ account, reader mint = some account ∧ account.owner = .tokenProgram
      ∧ Mint.initialized? account.data = some (Mint.opened decimals authority freeze) := by
  obtain ⟨account, hfound, happlied⟩ := exists_of_applied (fun _ => rfl) h
  refine ⟨account, hfound, ?_⟩
  simp only [statusOfTaken] at happlied
  split at happlied
  · cases happlied
  · next howner =>
    rw [ne_eq, Decidable.not_not] at howner
    refine ⟨howner, ?_⟩
    cases hread : Mint.ofData? account.data with
    | none => simp [hread] at happlied
    | some state =>
      obtain ⟨auth, supply, dec, isInitialized, frz⟩ := state
      cases isInitialized with
      | false => simp [hread] at happlied
      | true =>
        simp only [hread, not_true_eq_false, if_false, ite_applied_iff] at happlied
        obtain ⟨rfl, rfl, rfl, rfl⟩ := happlied
        simp [Mint.initialized?, hread, Mint.opened]

theorem exists_of_openTokenAccount_applied {address mint owner : Key}
    (h : (openTokenAccount address mint owner).status reader programId = .applied) :
    ∃ account tokens, reader address = some account ∧ account.owner = .tokenProgram
      ∧ TokenAccount.initialized? account.data = some tokens
      ∧ tokens.mint = mint ∧ tokens.owner = owner := by
  obtain ⟨account, hfound, happlied⟩ := exists_of_applied (fun _ => rfl) h
  simp only [statusOfTaken] at happlied
  split at happlied
  · cases happlied
  · next howner =>
    rw [ne_eq, Decidable.not_not] at howner
    cases hread : TokenAccount.ofData? account.data with
    | none => simp [hread] at happlied
    | some tokens =>
      by_cases hstate : tokens.state = .uninitialized
      · simp [hread, hstate] at happlied
      · simp only [hread, hstate, if_false, ite_applied_iff] at happlied
        exact ⟨account, tokens, hfound, howner, by simp [TokenAccount.initialized?, hread, hstate],
          happlied⟩

theorem exists_of_writeRegistry_applied {address : Key} {header : RegistryHeader}
    (h : (writeRegistry address header).status reader programId = .applied) :
    ∃ account, reader address = some account ∧ account.owner = programId
      ∧ RegistryHeader.ofData? account.data = some header := by
  obtain ⟨account, hfound, happlied⟩ := exists_of_applied (fun _ => rfl) h
  simp only [statusOfTaken] at happlied
  split at happlied
  · cases happlied
  · next hfits =>
    rw [not_or, ne_eq, Decidable.not_not] at hfits
    refine ⟨account, hfound, hfits.1, ?_⟩
    split at happlied
    · cases happlied
    · have hfront := ite_applied_iff.mp happlied
      rw [RegistryHeader.ofData?, Layout.readFront?_eq_some_iff]
      refine ⟨account.data.drop RegistryHeader.size, ?_⟩
      rw [← RegistryHeader.encode, ← hfront, List.take_append_drop]

end Operation

namespace Audit

variable {reader : Reader} {programId : Key} {book : AddressBook}

@[simp] theorem report_eq_nil_iff {cause : Prop} [Decidable cause] {finding : Finding} :
    report cause finding = [] ↔ ¬ cause := by
  unfold report
  split <;> simp [*]

theorem checkAddresses_initial (p : Parameters) (rent : UInt64) :
    checkAddresses book book.pool (.initial book p rent) = [] := by
  simp [checkAddresses, storedAddresses, storedBumps, PoolRecord.initial, AddressBook.pool,
    AddressBook.address, AddressBook.bump, AddressBook.slot]

theorem checkAuthorities_derived {scheme : AddressScheme} {root : Key}
    (hbook : AddressBook.derive? scheme programId root = some book) :
    checkAuthorities scheme book = [] := by
  simp [checkAuthorities, AddressBook.offCurve_slot hbook]

theorem checkMint_of_applied {role authorityRole : Role} {decimals : UInt8}
    (h : (Operation.openMint (book.address role) decimals (book.address authorityRole)
      none).status reader programId = .applied) :
    checkMint reader book role authorityRole decimals = [] := by
  obtain ⟨account, hfound, howner, hread⟩ := Operation.exists_of_openMint_applied h
  simp [checkMint, checkAccount, hfound, howner, hread, Mint.opened]

theorem checkTokenAccount_of_applied {role : Role} {owner : Key}
    (h : (Operation.openTokenAccount (book.address role) (book.address .stMint) owner).status reader
      programId = .applied) :
    checkTokenAccount reader book role owner = [] := by
  obtain ⟨account, tokens, hfound, howner, hread, hmint, htokens⟩ :=
    Operation.exists_of_openTokenAccount_applied h
  simp [checkTokenAccount, checkAccount, hfound, howner, hread, hmint, htokens]

theorem checkRegistry_of_applied {role : Role} {shapeFor : UInt32 → RegistryShape} {spare : UInt32}
    {slot : Slot} {lamports : UInt64} (hspare : (shapeFor spare).spare = spare)
    (hitem : (shapeFor spare).itemSize ≠ 0)
    (hspace : (Operation.createAccount slot (book.address role) (shapeFor spare).space lamports
      programId).status reader programId = .applied)
    (hheader : (Operation.writeRegistry (book.address role)
      ((shapeFor spare).header book.pool)).status reader programId = .applied) :
    checkRegistry reader programId book role shapeFor = [] := by
  obtain ⟨account, hfound, howner, hread⟩ := Operation.exists_of_writeRegistry_applied hheader
  obtain ⟨created, hcreated, -, hlength⟩ := Operation.exists_of_createAccount_applied hspace
  obtain rfl : account = created := Option.some.inj (hfound.symm.trans hcreated)
  simp [checkRegistry, checkAccount, hfound, howner, hread, hlength, RegistryShape.header, hspare,
    RegistryShape.capacityFor_space _ hitem]

theorem checkLamports_of_applied {role : Role} {lamports : UInt64}
    (h : (Operation.fund (book.address role) lamports).status reader programId = .applied) :
    checkLamports reader book role lamports = [] := by
  obtain ⟨account, hfound, hvacant, hle⟩ := Operation.exists_of_fund_applied h
  simp [checkLamports, checkAccount, hfound, hvacant.1, hvacant.2, hle]

theorem loadRecord_initial {account : Account} {p : Parameters} {rent : UInt64}
    (hfound : reader book.pool = some account) (howner : account.owner = programId)
    (hdata : account.data = (PoolRecord.initial book p rent).encode) :
    loadRecord reader programId book.pool = .ok (.initial book p rent) := by
  have hlength : (PoolRecord.initial book p rent).encode.length = PoolRecord.size :=
    PoolRecord.layout.length_encode _
  have hread : PoolRecord.ofData? (PoolRecord.initial book p rent).encode = some _ :=
    PoolRecord.ofData?_encode _ rfl
  simp [loadRecord, hfound, howner, hdata, hlength, hread]

/-- The audit asks for nothing more than the record and the effects of the groundwork. -/
theorem audit_of_applied {scheme : AddressScheme} {root : Key} {p : Parameters} {rent : Rent}
    {account : Account} (hbook : AddressBook.derive? scheme programId root = some book)
    (happlied : ∀ op ∈ Plan.groundwork book p rent, op.status reader programId = .applied)
    (hfound : reader book.pool = some account) (howner : account.owner = programId)
    (hdata : account.data = (PoolRecord.initial book p (Plan.pinned rent)).encode) :
    audit scheme reader programId book.pool = [] := by
  obtain ⟨hprogram, rfl, -, -⟩ := AddressBook.derive?_spec hbook
  simp only [Plan.groundwork, Plan.accountOperations, Plan.tokenOperations, Plan.create,
    List.cons_append, List.nil_append, List.forall_mem_cons, hprogram] at happlied
  obtain ⟨-, hreserve, hsolLeg, hstakeSpace, hvalidatorSpace, hstakeHeader, hvalidatorHeader,
    -, -, -, -, hstMint, hlpMint, hstLeg, htreasury, -⟩ := happlied
  have hderive : AddressBook.derive? scheme programId
      (PoolRecord.initial book p (Plan.pinned rent)).root = some book := hbook
  rw [audit, loadRecord_initial hfound howner hdata]
  simp only [hderive, checks, List.append_eq_nil_iff]
  exact ⟨⟨⟨⟨⟨⟨⟨⟨⟨checkAddresses_initial p _, checkAuthorities_derived hbook⟩,
    checkMint_of_applied hstMint⟩, checkMint_of_applied hlpMint⟩,
    checkTokenAccount_of_applied hstLeg⟩, checkTokenAccount_of_applied htreasury⟩,
    checkRegistry_of_applied rfl (RegistryShape.itemSize_stakeList _) hstakeSpace hstakeHeader⟩,
    checkRegistry_of_applied rfl (RegistryShape.itemSize_validatorList _) hvalidatorSpace
      hvalidatorHeader⟩,
    checkLamports_of_applied hreserve⟩, checkLamports_of_applied hsolLeg⟩

end Audit

namespace Setup

variable {scheme : AddressScheme} {setup : Setup} {store : Store} {book : AddressBook} {pool : Key}
  {transactions : List UInt64}

theorem status_of_apply_agenda {after : Accounts}
    (hbook : AddressBook.derive? scheme setup.programId setup.root = some book)
    (hdistinct : book.Distinct) (hpayer : setup.payer ∉ book) (hrent : 0 < Plan.pinned store.rent)
    (hclear : setup.Unobstructed store.accounts.find?
      (Plan.all book setup.parameters store.rent))
    (happly : (Batch.mk setup.programId setup.payer
      (setup.agenda book store.rent store.accounts.find?)).apply store.rent store.accounts
        = .ok after) :
    ∀ op ∈ Plan.groundwork book setup.parameters store.rent,
      op.status after.find? setup.programId = .applied := by
  intro op hop
  have hmem : op ∈ Plan.all book setup.parameters store.rent := List.mem_append_left _ hop
  obtain ⟨hprogram, -⟩ := AddressBook.derive?_spec hbook
  rw [← hprogram] at happly ⊢
  rw [Plan.status_of_apply hdistinct hpayer (fun _ hother => (mem_agenda_iff.mp hother).1) hmem
    (fun _ => Plan.settles_groundwork hrent op hop) happly]
  split
  · rfl
  · next hdone =>
    rw [hprogram]
    cases hstatus : op.status store.accounts.find? setup.programId with
    | pending => exact absurd (mem_agenda_iff.mpr ⟨hmem, hstatus⟩) hdone
    | conflict => exact absurd hstatus (hclear op hmem)
    | applied => rfl

/-- A setup that has written its pool leaves nothing for the audit to find, whatever the store held
before and whatever the setup had to do. A store that starts out empty satisfies `hrent` by
`Plan.pinned_standard`. -/
theorem audit_execute
    (hbook : AddressBook.derive? scheme setup.programId setup.root = some book)
    (hdistinct : book.Distinct) (hpayer : setup.payer ∉ book) (hrent : 0 < Plan.pinned store.rent)
    (hwritten : (setup.execute scheme store).phase = .written pool transactions) :
    audit scheme (setup.execute scheme store).store.accounts.find? setup.programId pool = [] := by
  obtain ⟨rfl, -, -, hclear, happly⟩ := execute_written hbook hwritten
  have happlied := status_of_apply_agenda hbook hdistinct hpayer hrent hclear happly
  rw [agenda_eq_append hclear] at happly
  obtain ⟨account, hfound, howner, hdata⟩ := find?_pool_of_apply happly
  exact Audit.audit_of_applied hbook happlied hfound howner hdata

theorem audit_execute_sample :
    AddressBook.sample.Distinct ∧ sample.payer ∉ AddressBook.sample
      ∧ 0 < Plan.pinned Store.sample.rent
      ∧ (sample.execute .standard Store.sample).phase
        = .written AddressBook.sample.pool [1, 2, 3, 4]
      ∧ audit .standard (sample.execute .standard Store.sample).store.accounts.find?
        sample.programId AddressBook.sample.pool = [] := by
  have hpayer : sample.payer ∉ AddressBook.sample := by decide +kernel
  have hrent : 0 < Plan.pinned Store.sample.rent := Plan.pinned_standard
  exact ⟨AddressBook.distinct_sample, hpayer, hrent, execute_sample,
    audit_execute derive?_sample AddressBook.distinct_sample hpayer hrent execute_sample⟩

end Setup

end StakePool
