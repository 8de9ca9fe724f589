import StakePool.Proofs.Bounds
import StakePool.Proofs.Chain.Effects
import StakePool.Proofs.Setup.Dispatch
/-!
# Valid parameters can be planned

The size of a registry is checked twice, on the parameters and again on every operation that creates
an account, and the authorities of the plan are checked although they are derived. The two checks of
the size agree, and the check of the authorities never fails. So the parameters alone decide whether
there is a plan, and once they have been found valid nothing that a setup or the program does later
fails for them or for the plan.
-/

namespace StakePool

/-- The faults of parameters and plans. -/
def Fault.ofPlanning : List Fault := [.invalidConfig, .authorityNotDerived]

theorem Rejection.fault_not_mem_ofPlanning (rejection : Rejection) :
    rejection.fault ∉ Fault.ofPlanning := by
  cases rejection <;> simp [fault, Fault.ofPlanning]

namespace Plan

variable {book : AddressBook} {p : Parameters} {rent : Rent} {fault : PlanFault}

/-- Only the registries can be too large to be created. -/
theorem forall_isCreatable_iff :
    (∀ op ∈ accountOperations book p rent, IsCreatable op) ↔ ¬ p.IsOversized := by
  have hrecord : UInt64.ofNat PoolRecord.size ≤ maxCreatedSpace := by decide
  have hmint : UInt64.ofNat Mint.size ≤ maxCreatedSpace := by decide
  have htokens : UInt64.ofNat TokenAccount.size ≤ maxCreatedSpace := by decide
  rw [Parameters.not_isOversized_iff]
  simp [accountOperations, create, IsCreatable, hrecord, hmint, htokens]

theorem provision_eq_error_iff :
    provision book p rent = .error fault ↔ fault = .spaceTooLarge ∧ p.IsOversized := by
  rw [provision]
  by_cases hcreatable : ∀ op ∈ accountOperations book p rent, IsCreatable op
  · have hfits := forall_isCreatable_iff.mp hcreatable
    simp only [if_pos hcreatable, reduceCtorEq, hfits, and_false]
  · have hsize := Classical.not_not.mp (mt forall_isCreatable_iff.mpr hcreatable)
    simp only [if_neg hcreatable, Except.error.injEq, hsize, and_true, eq_comm]

end Plan

namespace Setup

variable {scheme : AddressScheme} {setup : Setup} {phase : Phase} {quote : Quote} {store : Store}

/-- A setup under way has the addresses of its pool, and one that was given up was not given up for
its parameters or its plan. -/
def Vetted (scheme : AddressScheme) (setup : Setup) : Phase → Prop
  | .unstarted | .written .. => True
  | .addressesDerived draft | .accountsProvisioned draft | .tokensBootstrapped draft =>
    AddressBook.derive? scheme setup.programId setup.root = some draft.book
  | .aborted failure => failure.report.fault ∉ Fault.ofPlanning

theorem vetted_extend {stage : Stage} {reader : Reader} {draft : Draft} {failure : Failure}
    {operations : List Operation}
    (h : setup.extend stage reader draft (.ok operations) = .error failure) :
    Vetted scheme setup (.aborted failure) := by
  obtain ⟨address, rfl⟩ := extend_eq_error h
  exact (by decide : Fault.accountAlreadyInitialized ∉ Fault.ofPlanning)

theorem vetted_derive {reader : Reader} {failure : Failure} (hvalid : setup.parameters.IsValid)
    (h : setup.derive scheme reader = .error failure) :
    Vetted scheme setup (.aborted failure) := by
  have hbreach : setup.parameters.breach? = none := hvalid
  simp only [derive, hbreach] at h
  split at h
  · obtain rfl := Except.error.inj h
    exact (by decide : Fault.derivationExhausted ∉ Fault.ofPlanning)
  · split at h
    · obtain rfl := Except.error.inj h
      exact (by decide : Fault.accountAlreadyInitialized ∉ Fault.ofPlanning)
    · cases h

theorem vetted_afford {reader : Reader} {draft : Draft} {failure : Failure}
    (h : setup.afford reader draft = .error failure) : Vetted scheme setup (.aborted failure) := by
  simp only [afford] at h
  split at h
  · obtain rfl := Except.error.inj h
    exact (by decide : Fault.insufficientFunding ∉ Fault.ofPlanning)
  · cases h

theorem vetted_submit (limit : Option Nat) (draft : Draft) :
    Vetted scheme setup (setup.submit limit draft store).phase := by
  cases hphase : (setup.submit limit draft store).phase with
  | aborted failure =>
    obtain ⟨rejection, -, rfl⟩ := exists_rejection_of_submit hphase
    exact rejection.fault_not_mem_ofPlanning
  | written => trivial
  | _ =>
    obtain ⟨_, h⟩ | ⟨⟨_, h⟩, -⟩ := submit_cases setup limit draft store
    all_goals cases hphase.symm.trans h

/-- The step lemma: whatever a step of a setup with valid parameters finds. -/
theorem vetted_step (hvalid : setup.parameters.IsValid) (h : Vetted scheme setup phase) :
    Vetted scheme setup (setup.step scheme quote phase store).phase := by
  cases phase with
  | unstarted =>
    rw [step]
    cases hderive : setup.derive scheme store.accounts.find? with
    | ok draft =>
      obtain ⟨-, book, hbook, -, rfl⟩ := derive_eq_ok_iff.mp hderive
      exact hbook
    | error failure => exact vetted_derive hvalid hderive
  | addressesDerived draft =>
    rw [step]
    cases hprovision : setup.provision quote.rent store.accounts.find? draft with
    | ok next =>
      obtain ⟨-, rfl⟩ := (provision_eq_ok_iff hvalid).mp hprovision
      exact h
    | error failure =>
      rw [provision, Plan.provision_eq_ok hvalid] at hprovision
      exact vetted_extend hprovision
  | accountsProvisioned draft =>
    rw [step]
    cases hbootstrap : setup.bootstrap scheme store.accounts.find? draft with
    | ok next =>
      obtain ⟨-, rfl⟩ := (bootstrap_eq_ok_iff h).mp hbootstrap
      exact h
    | error failure =>
      rw [bootstrap, Plan.bootstrap_eq_ok h] at hbootstrap
      exact vetted_extend hbootstrap
  | tokensBootstrapped draft =>
    rw [step, commit]
    cases hfull : setup.complete quote.rent store.accounts.find? draft
        >>= setup.afford store.accounts.find? with
    | ok full => exact vetted_submit ..
    | error failure =>
      obtain hcomplete | ⟨_, -, hafford⟩ := Except.bind_eq_error_iff.mp hfull
      · exact vetted_extend hcomplete
      · exact vetted_afford hafford
  | written | aborted => exact h

theorem vetted_follow (hvalid : setup.parameters.IsValid) (visits : List Visit) :
    Vetted scheme setup (setup.follow scheme visits).phase := by
  suffices hlater : ∀ course : Course, Vetted scheme setup course.phase →
      Vetted scheme setup (visits.foldl (Course.next scheme setup) course).phase from
    hlater ⟨.unstarted, []⟩ trivial
  induction visits with
  | nil => exact fun _ h => h
  | cons visit rest ih =>
    intro course h
    exact ih (course.next scheme setup visit) (vetted_step hvalid h)

end Setup

namespace Chain

variable {scheme : AddressScheme} {programId : Key} {runtime : Runtime} {rent? : Option Rent}
  {handles : List Handle} {cells : Cells} {data : Bytes} {request : Request} {failure : Failure}

/-- The program fails for the parameters or for the plan. -/
def Failure.IsOfPlanning : Failure → Prop
  | .invalidParameters _ | .unplannable _ => True
  | _ => False

theorem Failure.of_error_mem (h : failure.error ∈ Fault.ofPlanning.map Fault.toChainError) :
    failure.IsOfPlanning ∨ ∃ error, failure = .invocation error := by
  cases failure with
  | invalidParameters | unplannable => exact .inl trivial
  | invocation error => exact .inr ⟨error, rfl⟩
  | _ => exact absurd h (by simp [Failure.error, Fault.ofPlanning, Fault.toChainError, Fault.number])

theorem prepare_meets (hrequest : Request.decode? data = some request)
    (hvalid : request.parameters.IsValid) :
    Except.Meets (fun _ => True) (fun failure => ¬ failure.IsOfPlanning)
      (prepare scheme programId rent? handles cells data) := by
  have hbreach : request.parameters.breach? = none := hvalid
  rw [prepare, hrequest]
  cases hframe : Frame.ofHandles? handles with
  | none => exact not_false
  | some frame =>
  simp only [hbreach]
  refine .ite_throw not_false ?_
  cases hbook : AddressBook.derive? scheme programId request.root with
  | none => exact not_false
  | some book =>
  dsimp only
  split
  · exact not_false
  refine .ite_throw not_false (.ite_throw not_false (.ite_throw not_false ?_))
  cases rent? with
  | none => exact not_false
  | some rent =>
  simp only [Plan.operations_eq_ok hbook hvalid]
  trivial

theorem Job.maintains_planned (job : Job) :
    job.Maintains runtime (fun _ => True) (fun stop => ¬ stop.failure.IsOfPlanning) where
  invoke {machine invocation} _ _ := by
    rw [Machine.invoke]
    cases runtime.run machine.invocations invocation machine.cells with
    | ok cells => trivial
    | error error => exact not_false
  write _ _ _ := trivial
  refuse _ hrefusal := by cases hrefusal <;> exact not_false

theorem process_not_isOfPlanning (hrequest : Request.decode? data = some request)
    (hvalid : request.parameters.IsValid)
    (h : (process scheme programId runtime rent? handles cells data).result = .error failure) :
    ¬ failure.IsOfPlanning := by
  have hmeets : Except.Meets _ _ (prepare scheme programId rent? handles cells data) :=
    prepare_meets hrequest hvalid
  cases hprepare : prepare scheme programId rent? handles cells data with
  | error earlier =>
    rw [process, hprepare] at h
    exact Except.error.inj h ▸ hmeets.of_eq_error hprepare
  | ok job =>
    obtain ⟨rent, _, -, hpassed⟩ := exists_passed hprepare
    obtain ⟨hok, -⟩ | ⟨later, hfailed, hlater⟩ :=
      hpassed.process_meets hprepare job.maintains_planned trivial
    · cases hok.symm.trans h
    · exact Except.error.inj (hfailed.symm.trans h) ▸ hlater

end Chain

/-- **Validation decides about the plan.** For the derived addresses of a pool and whatever rent, the
accounts of a pool cannot be provided for exactly if one of its registries is larger than an account
may be created, and this is then reported as an invalid configuration; validation reports a size
exactly if it has nothing else to report and one of the registries is so large. In numbers, the
parameters are valid exactly if they keep their terms and reserve at most 30 bytes in a stake record
and 105 in a validator record. For valid parameters there is a plan, and it is the whole one. A setup
with others at work between its steps does not end for its parameters or an authority that is not
derived, and neither does the program on whatever accounts it is given, unless an invoked program
answers with an error of the same number. -/
theorem Plan.validation_decides {scheme : AddressScheme} {programId root : Key} {book : AddressBook}
    (hbook : AddressBook.derive? scheme programId root = some book) (p : Parameters) (rent : Rent) :
    ((∃ fault, Plan.provision book p rent = .error fault) ↔ p.IsOversized)
      ∧ (∀ fault, Plan.provision book p rent = .error fault → fault.fault = .invalidConfig)
      ∧ ((∃ breach, p.breach? = some breach ∧ breach.IsOfSize) ↔ p.KeepsTerms ∧ p.IsOversized)
      ∧ (p.IsValid ↔ p.KeepsTerms ∧ p.stakeRecordSpare ≤ 30 ∧ p.validatorRecordSpare ≤ 105)
      ∧ (p.IsValid →
        Plan.operations scheme book p rent = .ok (Plan.all book p rent)
          ∧ (∀ (payer : Key) (visits : List Setup.Visit) (failure : Setup.Failure),
            (Setup.follow scheme ⟨programId, payer, root, p⟩ visits).phase = .aborted failure →
              failure.report.fault ∉ Fault.ofPlanning)
          ∧ ∀ runtime rent? handles cells data (failure : Chain.Failure),
            Request.decode? data = some ⟨root, p⟩ →
            (Chain.process scheme programId runtime rent? handles cells data).result
              = .error failure →
            failure.error ∈ Fault.ofPlanning.map Fault.toChainError →
              ∃ error, failure = .invocation error) := by
  refine ⟨⟨?_, fun hsize => ⟨_, provision_eq_error_iff.mpr ⟨rfl, hsize⟩⟩⟩, ?_,
    Parameters.exists_isOfSize_iff, Parameters.isValid_iff_bounds, fun hvalid => ⟨?_, ?_, ?_⟩⟩
  · rintro ⟨fault, hfault⟩
    exact (provision_eq_error_iff.mp hfault).2
  · intro fault hfault
    rw [(provision_eq_error_iff.mp hfault).1]
    rfl
  · exact operations_eq_ok hbook hvalid
  · intro payer visits failure haborted
    have hvetted : Setup.Vetted scheme ⟨programId, payer, root, p⟩ _ :=
      Setup.vetted_follow hvalid visits
    rw [haborted] at hvetted
    exact hvetted
  · intro runtime rent? handles cells data failure hrequest hfailed herror
    exact (Chain.Failure.of_error_mem herror).resolve_left
      (Chain.process_not_isOfPlanning hrequest hvalid hfailed)

/-! ### The most spare bytes, and one more -/

def Parameters.roomiest : Parameters :=
  { Parameters.sample with stakeRecordSpare := 30, validatorRecordSpare := 105 }

def Parameters.tooRoomy : Parameters := { Parameters.roomiest with validatorRecordSpare := 106 }

theorem Plan.validation_decides_samples :
    Parameters.roomiest.IsValid
      ∧ Plan.operations .standard .sample .roomiest .standard
        = .ok (Plan.all .sample .roomiest .standard)
      ∧ Parameters.tooRoomy.breach? = some (.validatorListTooLarge 10264)
      ∧ ∃ fault, Plan.provision .sample .tooRoomy .standard = .error fault
        ∧ fault.fault = .invalidConfig := by
  have hbook : AddressBook.derive? .standard .stakePoolProgram AddressBook.sampleRoot
      = some .sample := AddressBook.derive?_sample
  have hbreach : Parameters.tooRoomy.breach? = some (.validatorListTooLarge 10264) := by decide
  obtain ⟨-, -, -, hbounds, hplanned⟩ := validation_decides hbook .roomiest .standard
  obtain ⟨hprovision, hfault, hsize, -, -⟩ := validation_decides hbook .tooRoomy .standard
  have hvalid : Parameters.roomiest.IsValid :=
    hbounds.mpr ⟨⟨by decide, by decide, by decide, by decide, by decide, by decide, by decide⟩,
      by decide, by decide⟩
  obtain ⟨fault, hfailed⟩ := hprovision.mpr (hsize.mp ⟨_, hbreach, trivial⟩).2
  exact ⟨hvalid, (hplanned hvalid).1, hbreach, fault, hfailed, hfault fault hfailed⟩

end StakePool
