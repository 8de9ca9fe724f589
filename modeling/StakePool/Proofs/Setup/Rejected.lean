import StakePool.Proofs.Setup.Remainder
import StakePool.Proofs.Store.Cutoff
/-!
# What a store can still reject

The steps of a setup look over every operation and add up what all of them cost before the first
batch is submitted. They overlook nothing, whatever the store holds at the start: the draft is
feasible, so its batches are rejected only for a failure that was due or for the one thing the steps
do not look at, the rent of an account that the token program owned already.
-/

namespace StakePool

theorem Except.bind_eq_error_iff {ε α β : Type} {x : Except ε α} {f : α → Except ε β} {e : ε} :
    x >>= f = .error e ↔ x = .error e ∨ ∃ a, x = .ok a ∧ f a = .error e := by
  cases x <;> simp [bind, Except.bind]

/-- The roles whose accounts the token program owns. -/
def Role.ofTokenProgram : List Role := [.stMint, .lpMint, .stLeg, .treasury]

theorem Plan.exists_role_of_isOpening {book : AddressBook} {p : Parameters} {rent : Rent}
    {op : Operation} (h : op ∈ all book p rent) (hopening : op.IsOpening) :
    ∃ role ∈ Role.ofTokenProgram, op.target = book.address role := by
  rcases List.mem_append.mp h with hground | hlast
  · rcases List.mem_append.mp hground with haccount | htoken
    · simp only [accountOperations, List.mem_cons, List.not_mem_nil, or_false] at haccount
      rcases haccount with rfl | rfl | rfl | rfl | rfl | rfl | rfl | rfl | rfl | rfl | rfl
      all_goals exact hopening.elim
    · simp only [tokenOperations, List.mem_cons, List.not_mem_nil, or_false] at htoken
      rcases htoken with rfl | rfl | rfl | rfl
      · exact ⟨.stMint, by decide, rfl⟩
      · exact ⟨.lpMint, by decide, rfl⟩
      · exact ⟨.stLeg, by decide, rfl⟩
      · exact ⟨.treasury, by decide, rfl⟩
  · obtain rfl := List.mem_singleton.mp hlast
    exact hopening.elim

namespace Setup

variable {scheme : AddressScheme} {setup : Setup} {book : AddressBook} {store : Store}
  {reader : Reader} {draft : Draft} {index : Nat} {rejection : Rejection}

theorem extend_ne_rejected {stage : Stage} {planned : Except PlanFault (List Operation)} :
    setup.extend stage reader draft planned ≠ .error (.rejected index rejection) := by
  intro h
  cases planned with
  | error fault => cases h
  | ok operations =>
    obtain ⟨address, hfailure⟩ := extend_eq_error h
    cases hfailure

theorem preflight_ne_rejected {rent : Rent} :
    setup.preflight scheme rent reader ≠ .error (.rejected index rejection) := by
  intro h
  simp only [preflight, Except.bind_eq_error_iff] at h
  obtain h | ⟨_, -, h | ⟨_, -, h | ⟨_, -, h | ⟨_, -, h⟩⟩⟩⟩ := h
  · rw [derive] at h
    split at h
    · cases h
    · split at h
      · cases h
      · split at h <;> cases h
  · exact extend_ne_rejected h
  · exact extend_ne_rejected h
  · exact extend_ne_rejected h
  · simp only [afford] at h
    split at h <;> cases h

theorem cost_le_of_fundingNeeded_le {operations : List Operation} {rent : Rent}
    (hrent : rent.IsModest) (hvalid : setup.parameters.IsValid)
    (hkept : operations.Sublist (Plan.all book setup.parameters rent))
    {available : UInt64} (h : fundingNeeded reader operations ≤ available) :
    cost reader operations ≤ available.toNat := by
  have hcost := cost_le_of_sublist reader hkept
  have hbound := Plan.shortfall_lt book reader hrent hvalid
  rw [Plan.cost_all] at hcost
  rw [UInt64.le_iff_toNat_le, toNat_fundingNeeded] at h
  omega

/-- A setup that has drafted its operations is in a position to carry them out. -/
theorem feasible_of_preflight
    (hbook : AddressBook.derive? scheme setup.programId setup.root = some book)
    (hdistinct : book.Distinct) (hpayer : setup.payer ∉ book) (hrent : store.rent.IsModest)
    (h : setup.preflight scheme store.rent store.accounts.find? = .ok draft) :
    draft = ⟨book, setup.agenda book store.rent store.accounts.find?⟩
      ∧ Operation.Feasible store.rent setup.programId setup.payer
        (setup.agenda book store.rent store.accounts.find?) store.accounts := by
  obtain ⟨hprogram, -⟩ := AddressBook.derive?_spec hbook
  obtain ⟨hvalid, -, hclear, hpaid, rfl⟩ := (preflight_eq_ok_iff hbook).mp h
  have hkept := retains_outstanding hclear
  refine ⟨rfl, hkept.feasible hprogram hdistinct hpayer (fun op hop => ?_) ?_⟩
  · exact Operation.awaits_of_status (mem_agenda_iff.mp hop).2
  · rw [Accounts.lamports_find?] at hpaid
    exact cost_le_of_fundingNeeded_le hrent hvalid hkept.sublist hpaid

/-- A setup that nobody interrupts has its batches rejected for a failure that was due, or because
the token program owned one of the pool's accounts before and the account holds less than its rent;
never for an account in use, for want of funds, for what an account holds or whose it is, nor for
the limit. A store that starts out empty satisfies `hrent` by `Rent.isModest_standard`. -/
theorem execute_rejected
    (hassumed : ∀ book, AddressBook.derive? scheme setup.programId setup.root = some book →
      book.Distinct ∧ setup.payer ∉ book)
    (hrent : store.rent.IsModest) (hlimit : store.limit ≠ some 0)
    (h : (setup.execute scheme store).phase = .aborted (.rejected index rejection)) :
    rejection = .unavailable .injected
      ∨ ∃ book role account,
        AddressBook.derive? scheme setup.programId setup.root = some book
          ∧ role ∈ Role.ofTokenProgram ∧ rejection = .notRentExempt (book.address role)
          ∧ store.accounts.find? (book.address role) = some account
          ∧ account.owner = .tokenProgram ∧ account.data ≠ []
          ∧ ¬ store.rent.IsExempt account.lamports account.data.length := by
  rw [(execute_agrees scheme setup store).1] at h
  cases hdraft : setup.preflight scheme store.rent store.accounts.find? with
  | error failure =>
    rw [hdraft] at h
    obtain rfl := Phase.aborted.inj h
    exact absurd hdraft preflight_ne_rejected
  | ok draft =>
    rw [hdraft] at h
    obtain ⟨reason, hrejected, hfailure⟩ := exists_rejection_of_submit h
    obtain ⟨-, rfl⟩ := Failure.rejected.inj hfailure
    obtain ⟨derived, hderive, -⟩ := Except.bind_eq_ok_iff.mp hdraft
    obtain ⟨-, book, hbook, -⟩ := derive_eq_ok_iff.mp hderive
    obtain ⟨hdistinct, hpayer⟩ := hassumed book hbook
    obtain ⟨rfl, hfeasible⟩ := feasible_of_preflight hbook hdistinct hpayer hrent hdraft
    obtain hinjected | happly :=
      Store.rejection_cases (fun _ hbatch => exceeded?_of_mem_batches hlimit hbatch) hrejected
    · exact .inl hinjected
    rw [applyAll_batches] at happly
    obtain ⟨after, hafter⟩ | ⟨op, hop, hstarved, hrefused⟩ := hfeasible.run
    · cases happly.symm.trans hafter
    obtain rfl : rejection = .notRentExempt op.target :=
      Except.error.inj (happly.symm.trans hrefused)
    have hawaits := hfeasible.awaits op hop
    have hlength := Operation.length_pos_of_isFill hstarved.1.isFill (hstarved.admits_free hawaits)
    obtain ⟨role, hrole, htarget⟩ :=
      Plan.exists_role_of_isOpening (mem_agenda_iff.mp hop).1 hstarved.1
    have howner := hstarved.owner_eq hawaits
    have hpoor := hstarved.2.2
    rw [htarget] at hlength howner hpoor ⊢
    exact .inr ⟨book, role, _, hbook, hrole, rfl, store.accounts.find?_of_length_pos hlength,
      howner, List.length_pos_iff.mp hlength, hpoor⟩

end Setup

/-- The token program owns the mint of the sample pool already, and nobody has paid for it. -/
def Store.underpaidSample : Store :=
  Store.sample.setAccount (AddressBook.sample.address .stMint)
    ⟨1, Bytes.zeros Mint.size, .tokenProgram⟩

namespace Setup

theorem assumed_sample (book : AddressBook)
    (h : AddressBook.derive? .standard sample.programId sample.root = some book) :
    book.Distinct ∧ sample.payer ∉ book := by
  obtain rfl : AddressBook.sample = book := Option.some.inj (derive?_sample.symm.trans h)
  exact ⟨AddressBook.distinct_sample, by decide +kernel⟩

theorem execute_underpaidSample :
    (sample.execute .standard Store.underpaidSample).phase
      = .aborted (.rejected 2 (.notRentExempt (AddressBook.sample.address .stMint))) := by
  rw [(execute_agrees ..).1, preflight, derive_sample_of_not_poolExists (by decide +kernel)]
  decide +kernel

theorem execute_rejected_sample :
    (sample.execute .standard Store.underpaidSample).phase
        = .aborted (.rejected 2 (.notRentExempt (AddressBook.sample.address .stMint)))
      ∧ (Rejection.notRentExempt (AddressBook.sample.address .stMint) = .unavailable .injected
        ∨ ∃ book role account,
          AddressBook.derive? .standard sample.programId sample.root = some book
            ∧ role ∈ Role.ofTokenProgram
            ∧ Rejection.notRentExempt (AddressBook.sample.address .stMint)
              = .notRentExempt (book.address role)
            ∧ Store.underpaidSample.accounts.find? (book.address role) = some account
            ∧ account.owner = .tokenProgram ∧ account.data ≠ []
            ∧ ¬ Store.underpaidSample.rent.IsExempt account.lamports account.data.length) :=
  ⟨execute_underpaidSample, execute_rejected assumed_sample Rent.isModest_standard (by decide)
    execute_underpaidSample⟩

end Setup

end StakePool
