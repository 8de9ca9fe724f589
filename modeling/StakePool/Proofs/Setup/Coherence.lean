import StakePool.Proofs.Setup.Preflight
import StakePool.Proofs.Store.Permanence
/-!
# A setup among others

Each step of a setup may find a store that others have changed since the step before. Whatever they
did, a setup that has a draft drafted it with valid parameters and for the right addresses,
`Coherent`, and one that has written its pool can go on finding it. Once the pool exists,
`step_of_poolExists` says that the setup changes nothing any more and can only go on to lose: at the
start it finds the pool, and later it finds the record in the way of its own.
-/

namespace StakePool

namespace Setup

variable {scheme : AddressScheme} {setup : Setup} {store : Store} {phase : Phase}
  {book : AddressBook}

/-- A bound on the steps that a setup can still take before it has ended. -/
def Phase.stepsLeft : Phase → Nat
  | .unstarted => 4
  | .addressesDerived _ => 3
  | .accountsProvisioned _ => 2
  | .tokensBootstrapped _ => 1
  | .written .. | .aborted _ => 0

theorem Phase.stepsLeft_le_four (phase : Phase) : phase.stepsLeft ≤ 4 := by
  cases phase <;> exact Nat.le_of_ble_eq_true rfl

theorem Phase.isTerminal_of_stepsLeft (h : phase.stepsLeft = 0) : phase.IsTerminal := by
  cases phase with
  | written | aborted => trivial
  | unstarted | addressesDerived | accountsProvisioned | tokensBootstrapped => cases h

theorem stepsLeft_ofDraft (after : Draft → Phase) {lines : Draft → List String} {bound : Nat}
    (hafter : ∀ draft, (after draft).stepsLeft ≤ bound) (result : Except Failure Draft) :
    (Outcome.ofDraft store after lines result).phase.stepsLeft ≤ bound := by
  cases result with
  | ok draft => exact hafter draft
  | error failure => exact Nat.zero_le _

theorem stepsLeft_conclude (result : Except Failure Draft) :
    (setup.conclude store result).phase.stepsLeft = 0 := by
  cases result with
  | error failure => rfl
  | ok draft =>
    obtain ⟨failure, hphase⟩ | ⟨⟨transactions, hphase⟩, -⟩ :=
      submit_cases setup store.limit draft store
    all_goals rw [conclude, hphase]; rfl

theorem stepsLeft_step (scheme : AddressScheme) (setup : Setup) (store : Store) (phase : Phase) :
    (setup.step scheme store.quote phase store).phase.stepsLeft ≤ phase.stepsLeft - 1 := by
  cases phase with
  | unstarted => exact stepsLeft_ofDraft .addressesDerived (fun _ => Nat.le_refl 3) _
  | addressesDerived draft =>
    exact stepsLeft_ofDraft .accountsProvisioned (fun _ => Nat.le_refl 2) _
  | accountsProvisioned draft =>
    exact stepsLeft_ofDraft .tokensBootstrapped (fun _ => Nat.le_refl 1) _
  | tokensBootstrapped draft =>
    rw [step, commit_eq_conclude, stepsLeft_conclude]
    exact Nat.zero_le _
  | written | aborted => exact Nat.le_refl _

/-- A setup under way has valid parameters and the addresses of its pool, and one that has written
its pool finds it in the store. -/
def Coherent (scheme : AddressScheme) (setup : Setup) (reader : Reader) : Phase → Prop
  | .unstarted | .aborted _ => True
  | .addressesDerived draft | .accountsProvisioned draft | .tokensBootstrapped draft =>
    setup.parameters.IsValid
      ∧ AddressBook.derive? scheme setup.programId setup.root = some draft.book
  | .written pool _ =>
    ∃ book, AddressBook.derive? scheme setup.programId setup.root = some book
      ∧ book.pool = pool ∧ setup.PoolExists reader pool

theorem poolExists_iff_holds {accounts : Accounts} {pool : Key} :
    setup.PoolExists accounts.find? pool ↔
      ∃ data, (PoolRecord.ofData? data).isSome ∧ accounts.Holds pool setup.programId data := by
  constructor
  · rintro ⟨account, hfound, howner, hrecord⟩
    exact ⟨account.data, hrecord, account, hfound, howner, rfl⟩
  · rintro ⟨_, hrecord, account, hfound, howner, rfl⟩
    exact ⟨account, hfound, howner, hrecord⟩

theorem coherent_submit (draft : Draft) {operations : List Operation} {rent : Rent}
    (hbook : AddressBook.derive? scheme setup.programId setup.root = some draft.book)
    (hlast : draft.operations = operations
      ++ [Plan.recordWrite draft.book setup.parameters rent]) (limit : Option Nat) :
    Coherent scheme setup (setup.submit limit draft store).store.accounts.find?
      (setup.submit limit draft store).phase := by
  obtain ⟨failure, hphase⟩ | ⟨⟨transactions, hphase⟩, happly⟩ :=
    submit_cases setup limit draft store
  · rw [hphase]
    trivial
  · rw [hlast] at happly
    obtain ⟨account, hfound, howner, hdata⟩ := find?_pool_of_apply happly
    have hread := PoolRecord.ofData?_encode
      (.initial draft.book setup.parameters (Plan.pinned rent)) rfl
    rw [hphase]
    exact ⟨draft.book, hbook, rfl, account, hfound, howner, by rw [hdata, hread]; rfl⟩

theorem coherent_commit {draft : Draft}
    (hbook : AddressBook.derive? scheme setup.programId setup.root = some draft.book) :
    Coherent scheme setup (setup.commit store.quote draft store).store.accounts.find?
      (setup.commit store.quote draft store).phase := by
  rw [commit_eq_conclude]
  cases hresult : setup.complete store.rent store.accounts.find? draft
      >>= setup.afford store.accounts.find? with
  | error failure => trivial
  | ok full =>
    obtain ⟨_, hcomplete, hafford⟩ := Except.bind_eq_ok_iff.mp hresult
    obtain ⟨-, rfl⟩ := afford_eq_ok_iff.mp hafford
    obtain ⟨hclear, rfl⟩ := complete_eq_ok_iff.mp hcomplete
    rw [outstanding_recordWrite hclear]
    exact coherent_submit ⟨draft.book, draft.operations ++ _⟩ hbook rfl store.limit

/-- The step lemma: whatever the store, a coherent setup steps to a coherent one. -/
theorem coherent_step (h : Coherent scheme setup store.accounts.find? phase) :
    Coherent scheme setup (setup.step scheme store.quote phase store).store.accounts.find?
      (setup.step scheme store.quote phase store).phase := by
  cases phase with
  | unstarted =>
    rw [step]
    cases hderive : setup.derive scheme store.accounts.find? with
    | error failure => trivial
    | ok draft =>
      obtain ⟨hvalid, book, hbook, -, rfl⟩ := derive_eq_ok_iff.mp hderive
      exact ⟨hvalid, hbook⟩
  | addressesDerived draft =>
    rw [step]
    cases hprovision : setup.provision store.quote.rent store.accounts.find? draft with
    | error failure => trivial
    | ok next =>
      obtain ⟨-, rfl⟩ := (provision_eq_ok_iff h.1).mp hprovision
      exact h
  | accountsProvisioned draft =>
    rw [step]
    cases hbootstrap : setup.bootstrap scheme store.accounts.find? draft with
    | error failure => trivial
    | ok next =>
      obtain ⟨-, rfl⟩ := (bootstrap_eq_ok_iff h.2).mp hbootstrap
      exact h
  | tokensBootstrapped draft => exact coherent_commit h.2
  | written | aborted => exact h

/-- The setup was stopped by the pool, or by its own parameters before it could find the pool. -/
def Lost (setup : Setup) (phase : Phase) : Prop :=
  ∃ failure, phase = .aborted failure
    ∧ failure.report.fault
      = if setup.parameters.IsValid then .accountAlreadyInitialized else .invalidConfig

theorem lost_of_occupied (hvalid : setup.parameters.IsValid) {stage : Stage} {address : Key} :
    setup.Lost (.aborted (.occupied stage address)) :=
  ⟨_, rfl, (if_pos hvalid).symm⟩

theorem lost_of_extend {stage : Stage} {draft : Draft} {operations : List Operation}
    {after : Draft → Phase} {lines : Draft → List String} (hvalid : setup.parameters.IsValid)
    (hafter : ∀ draft, ¬ (after draft).IsTerminal) :
    ¬ (Outcome.ofDraft store after lines
        (setup.extend stage store.accounts.find? draft (.ok operations))).phase.IsTerminal
      ∨ setup.Lost (Outcome.ofDraft store after lines
        (setup.extend stage store.accounts.find? draft (.ok operations))).phase := by
  cases hresult : setup.extend stage store.accounts.find? draft (.ok operations) with
  | ok next => exact .inl (hafter next)
  | error failure =>
    obtain ⟨address, rfl⟩ := extend_eq_error hresult
    exact .inr (lost_of_occupied hvalid)

theorem ofDraft_store {after : Draft → Phase} {lines : Draft → List String}
    (result : Except Failure Draft) : (Outcome.ofDraft store after lines result).store = store := by
  cases result <;> rfl

/-- Once the pool exists, a setup changes nothing any more and is bound to lose. -/
theorem step_of_poolExists
    (hbook : AddressBook.derive? scheme setup.programId setup.root = some book)
    (hexists : setup.PoolExists store.accounts.find? book.pool)
    (h : Coherent scheme setup store.accounts.find? phase) (hactive : ¬ phase.IsTerminal) :
    (setup.step scheme store.quote phase store).store = store
      ∧ (¬ (setup.step scheme store.quote phase store).phase.IsTerminal
        ∨ setup.Lost (setup.step scheme store.quote phase store).phase) := by
  cases phase with
  | unstarted =>
    refine ⟨ofDraft_store _, .inr ?_⟩
    rw [step, derive]
    cases hbreach : setup.parameters.breach? with
    | some breach =>
      have hinvalid : ¬ setup.parameters.IsValid := by simp [Parameters.IsValid, hbreach]
      exact ⟨_, rfl, (if_neg hinvalid).symm⟩
    | none =>
      rw [hbook]
      simp only [hexists, if_true]
      exact ⟨_, rfl, (if_pos hbreach).symm⟩
  | addressesDerived draft =>
    refine ⟨ofDraft_store _, ?_⟩
    rw [step, provision, Plan.provision_eq_ok h.1]
    exact lost_of_extend h.1 fun _ => id
  | accountsProvisioned draft =>
    refine ⟨ofDraft_store _, ?_⟩
    rw [step, bootstrap, Plan.bootstrap_eq_ok h.2]
    exact lost_of_extend h.1 fun _ => id
  | tokensBootstrapped draft =>
    obtain rfl : draft.book = book := Option.some.inj (h.2.symm.trans hbook)
    rw [step, commit_eq_conclude]
    cases hresult : setup.complete store.rent store.accounts.find? draft with
    | ok full =>
      have hclear := (complete_eq_ok_iff.mp hresult).1
      exact absurd (status_recordWrite_of_poolExists hexists) (hclear _ List.mem_cons_self)
    | error failure =>
      obtain ⟨address, rfl⟩ := extend_eq_error hresult
      exact ⟨rfl, .inr (lost_of_occupied h.1)⟩
  | written | aborted => exact absurd trivial hactive

/-- A written record stays through every step of any setup. -/
theorem holds_step {key owner : Key} {data : Bytes} (hrecord : (PoolRecord.ofData? data).isSome)
    (hbefore : store.accounts.Holds key owner data) :
    (setup.step scheme store.quote phase store).store.accounts.Holds key owner data := by
  cases phase with
  | unstarted | addressesDerived | accountsProvisioned =>
    rw [step, ofDraft_store]
    exact hbefore
  | tokensBootstrapped draft =>
    rw [step, commit_eq_conclude]
    cases setup.complete store.rent store.accounts.find? draft
        >>= setup.afford store.accounts.find? with
    | error failure => exact hbefore
    | ok full =>
      rw [conclude, submit]
      split <;> exact Store.holds_submitAll hrecord hbefore _
  | written | aborted => exact hbefore

theorem step_of_terminal (h : phase.IsTerminal) :
    (setup.step scheme store.quote phase store).store = store
      ∧ (setup.step scheme store.quote phase store).phase = phase := by
  cases phase with
  | written | aborted => exact ⟨rfl, rfl⟩
  | unstarted | addressesDerived | accountsProvisioned | tokensBootstrapped => exact h.elim

theorem Coherent.mono {before after : Accounts} (h : Coherent scheme setup before.find? phase)
    (hkeeps : ∀ key data, (PoolRecord.ofData? data).isSome →
      before.Holds key setup.programId data → after.Holds key setup.programId data) :
    Coherent scheme setup after.find? phase := by
  cases phase with
  | unstarted | addressesDerived | accountsProvisioned | tokensBootstrapped | aborted => exact h
  | written pool transactions =>
    obtain ⟨book, hbook, hpool, hexists⟩ := h
    obtain ⟨data, hrecord, hholds⟩ := poolExists_iff_holds.mp hexists
    exact ⟨book, hbook, hpool, poolExists_iff_holds.mpr ⟨data, hrecord, hkeeps _ _ hrecord hholds⟩⟩

end Setup

end StakePool
