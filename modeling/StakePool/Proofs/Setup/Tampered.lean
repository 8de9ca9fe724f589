import StakePool.Proofs.Audit.Tampering
import StakePool.Proofs.Chain.Ledger
/-!
# A new pool that is tampered with

A setup that has written its pool leaves nine accounts that do their duties, and its registries end
with their last record. So the audit, which finds nothing then, finds every change to one of these
accounts that breaks its duty.
-/

namespace StakePool

namespace Setup

variable {scheme : AddressScheme} {setup : Setup} {store : Store} {book : AddressBook} {pool : Key}
  {transactions : List UInt64}

theorem isSized_of_registry {reader : Reader} {account : Account} {role : Role} {slot : Slot}
    {shapeFor : (spare : UInt32) → RegistryShape} {spare : UInt32} {lamports : UInt64}
    (hfound : reader (book.address role) = some account) (hspare : (shapeFor spare).spare = spare)
    (hsmall : (shapeFor spare).space ≤ maxCreatedSpace)
    (hspace : (Operation.createAccount slot (book.address role) (shapeFor spare).space lamports
      book.programId).status reader book.programId = .applied)
    (hheader : (Operation.writeRegistry (book.address role)
      ((shapeFor spare).header book.pool)).status reader book.programId = .applied) :
    account.IsSized shapeFor := by
  obtain ⟨created, hcreated, -, hlength⟩ := Operation.exists_of_createAccount_applied hspace
  obtain ⟨written, hwritten, -, hread⟩ := Operation.exists_of_writeRegistry_applied hheader
  obtain rfl := Option.some.inj (hfound.symm.trans hcreated)
  obtain rfl := Option.some.inj (hfound.symm.trans hwritten)
  have hheaderSpare : ((shapeFor spare).header book.pool).spare = spare := hspare
  exact ⟨_, hread, by rw [hheaderSpare, hlength], by rwa [hheaderSpare]⟩

/-- A setup creates its registries with the space of their shapes, which its parameters keep small
enough. -/
theorem isSized_of_founded {rent : Rent} {p : Parameters} {reader : Reader} (hvalid : p.IsValid)
    (h : Chain.Founded rent book p reader) (slot : Slot) (account : Account)
    (hfound : reader (book.slot slot).address = some account) : slot.duty.IsSized account := by
  obtain ⟨-, -, -, -, -, -, -, hstakeSmall, hvalidatorSmall⟩ := Parameters.isValid_iff.mp hvalid
  have happlied := h.status_groundwork
  simp only [Plan.groundwork, Plan.accountOperations, Plan.create, List.cons_append,
    List.forall_mem_cons] at happlied
  obtain ⟨-, -, -, hstakeSpace, hvalidatorSpace, hstakeHeader, hvalidatorHeader, -⟩ := happlied
  cases slot with
  | config => trivial
  | role role =>
    cases role with
    | stakeList => exact isSized_of_registry hfound rfl hstakeSmall hstakeSpace hstakeHeader
    | validatorList =>
      exact isSized_of_registry hfound rfl hvalidatorSmall hvalidatorSpace hvalidatorHeader
    | _ => trivial

/-- **The auditor catches what it is meant to catch.** Right after a setup has written its pool, the
record of the pool can be loaded and each of its nine accounts is there. Any change to one of them
that breaks its duty is found, and the finding names the slot that was tampered with. Of the hash
only this is asked: the addresses of the pool differ, and a root that the change puts into the record
does not derive the address of the pool as well. Every store that starts out empty satisfies `hrent`
by `Plan.pinned_standard`. -/
theorem exists_finding_of_execute
    (hbook : AddressBook.derive? scheme setup.programId setup.root = some book)
    (hdistinct : book.Distinct) (hpayer : setup.payer ∉ book) (hrent : 0 < Plan.pinned store.rent)
    (hwritten : (setup.execute scheme store).phase = .written pool transactions) :
    let reader := (setup.execute scheme store).store.accounts.find?
    let record := PoolRecord.initial book setup.parameters (Plan.pinned store.rent)
    Audit.loadRecord reader setup.programId pool = .ok record
      ∧ ∀ slot ∈ Request.slots, ∃ account, reader (book.slot slot).address = some account
        ∧ ∀ change : Change, slot.duty.Breaks record account change →
          change.SparesPool scheme setup.programId pool record →
          ∃ finding ∈ audit scheme (change.on reader (book.slot slot).address) setup.programId pool,
            finding.slot = change.subject slot := by
  have hfounded := Chain.Founded.of_setup hbook hdistinct hpayer hrent hwritten
  obtain ⟨rfl, hvalid, -, -, -⟩ := execute_written hbook hwritten
  obtain ⟨hprogram, hroot, -, -⟩ := AddressBook.derive?_spec hbook
  obtain ⟨account, hfound, howner, hdata⟩ := hfounded.exists_record
  have hload := Audit.loadRecord_initial hfound (howner.trans hprogram) hdata
  have hderive : AddressBook.derive? scheme setup.programId
      (PoolRecord.initial book setup.parameters (Plan.pinned store.rent)).root = some book := by
    have hsame := hbook
    rwa [← hroot] at hsame
  have hclean := hfounded.audit_eq_nil hbook
  refine ⟨hload, fun slot hslot => ?_⟩
  obtain ⟨account, hfound, -⟩ :=
    ((Audit.audit_eq_nil_iff_of_loadRecord hload hderive).mp hclean).2 slot hslot
  exact ⟨account, hfound, fun change hbreaks hspares => Audit.exists_finding_of_breaks hload hderive
    hclean hdistinct (isSized_of_founded hvalid hfounded) hfound hbreaks hspares⟩

/-- What an audit finds after a change to one slot of the sample pool. -/
def sampleFindings (change : Change) (slot : Slot) : List Finding :=
  audit .standard (change.on (sample.execute .standard Store.sample).store.accounts.find?
    (AddressBook.sample.slot slot).address) sample.programId AddressBook.sample.pool

/-- The mint is removed, the reserve is drained, another root is put into the record, or another
address for the treasury. -/
theorem exists_finding_of_execute_sample :
    (∃ finding ∈ sampleFindings .remove (.role .stMint), finding.slot = .role .stMint)
      ∧ (∃ finding ∈ sampleFindings (.drain 0) (.role .reserve), finding.slot = .role .reserve)
      ∧ (∃ finding ∈ sampleFindings (.editRecord (.root (.ofNat 7))) .config,
        finding.slot = .config)
      ∧ ∃ finding ∈ sampleFindings (.editRecord (.address .treasury .zero)) .config,
        finding.slot = .role .treasury := by
  have hrent : 0 < Plan.pinned Store.sample.rent := Plan.pinned_standard
  obtain ⟨-, hcaught⟩ := exists_finding_of_execute derive?_sample AddressBook.distinct_sample
    (by decide +kernel) hrent execute_sample
  have hother : (AddressBook.findConfig? .standard sample.programId (.ofNat 7)).all
      (·.address ≠ AddressBook.sample.pool) := by decide +kernel
  refine ⟨?_, ?_, ?_, ?_⟩
  · obtain ⟨account, -, hchange⟩ := hcaught (.role .stMint) (by decide)
    exact hchange .remove trivial nofun
  · obtain ⟨account, -, hchange⟩ := hcaught (.role .reserve) (by decide)
    exact hchange (.drain 0) hrent nofun
  · obtain ⟨account, -, hchange⟩ := hcaught .config (by decide)
    refine hchange (.editRecord (.root (.ofNat 7))) (fun h => ?_) ?_
    · exact absurd (congrArg PoolRecord.root h) (by decide +kernel)
    · rintro root hroot - config hconfig
      obtain rfl := RecordEdit.root.inj (Change.editRecord.inj hroot)
      rw [hconfig] at hother
      exact of_decide_eq_true hother
  · obtain ⟨account, -, hchange⟩ := hcaught .config (by decide)
    refine hchange (.editRecord (.address .treasury .zero)) (fun h => ?_) nofun
    exact absurd (congrArg PoolRecord.treasury h) (by decide +kernel)

end Setup

end StakePool
