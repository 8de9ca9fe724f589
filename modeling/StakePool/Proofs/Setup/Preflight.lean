import StakePool.Proofs.Plan
import StakePool.Proofs.Store.Submission
import StakePool.Setup
/-!
# The steps of a setup

What each step comes to. The drafting steps succeed exactly when nothing is in the way of the
operations they plan, and add those that are outstanding; the last one then submits the draft, whose
batches come to the same as the draft in one piece. Carried out in one go on a store that nobody
else touches, the four steps are `draft` followed by `submit`.
-/

namespace StakePool

theorem length_le_of_mem_chunks {α : Type} {size : Nat} {xs part : List α}
    (h : part ∈ chunks size xs) : part.length ≤ max 1 size := by
  fun_induction chunks size xs with
  | case1 => cases h
  | case2 x rest ih =>
    rcases List.mem_cons.mp h with rfl | hlater
    · simp only [List.length_cons, List.length_take]
      omega
    · exact ih hlater

theorem ne_nil_of_mem_chunks {α : Type} {size : Nat} {xs part : List α}
    (h : part ∈ chunks size xs) : part ≠ [] := by
  fun_induction chunks size xs with
  | case1 => cases h
  | case2 x rest ih =>
    rcases List.mem_cons.mp h with rfl | hlater
    · exact List.cons_ne_nil _ _
    · exact ih hlater

namespace Setup

variable {scheme : AddressScheme} {setup : Setup} {reader : Reader} {book : AddressBook}
  {draft next : Draft} {rent : Rent}

/-- The operations that are still to be carried out, as things stand. -/
def outstanding (setup : Setup) (reader : Reader) (operations : List Operation) : List Operation :=
  operations.filter fun op => op.status reader setup.programId = .pending

/-- Nothing is in the way of the operations. -/
def Unobstructed (setup : Setup) (reader : Reader) (operations : List Operation) : Prop :=
  ∀ op ∈ operations, op.status reader setup.programId ≠ .conflict

theorem unobstructed_append {xs ys : List Operation} :
    setup.Unobstructed reader (xs ++ ys)
      ↔ setup.Unobstructed reader xs ∧ setup.Unobstructed reader ys :=
  List.forall_mem_append

theorem outstanding_append (xs ys : List Operation) :
    setup.outstanding reader (xs ++ ys)
      = setup.outstanding reader xs ++ setup.outstanding reader ys :=
  List.filter_append ..

theorem pending_eq_ok_iff {stage : Stage} {operations result : List Operation} :
    setup.pending stage reader operations = .ok result ↔
      setup.Unobstructed reader operations ∧ result = setup.outstanding reader operations := by
  induction operations generalizing result with
  | nil => simp [pending, Unobstructed, outstanding, eq_comm]
  | cons op rest ih =>
    rw [pending, Unobstructed, List.forall_mem_cons, outstanding, List.filter_cons]
    cases hstatus : op.status reader setup.programId with
    | pending =>
      simp only [Functor.map, Except.map_eq_ok_iff, ih]
      rw [if_pos (decide_eq_true trivial)]
      have hfree : Operation.Status.pending ≠ .conflict := by decide
      constructor
      · rintro ⟨_, ⟨hclear, rfl⟩, rfl⟩
        exact ⟨⟨hfree, hclear⟩, rfl⟩
      · rintro ⟨⟨-, hclear⟩, rfl⟩
        exact ⟨_, ⟨hclear, rfl⟩, rfl⟩
    | applied => simpa [Unobstructed, outstanding] using ih
    | conflict => simp

theorem pending_eq_error {stage : Stage} {operations : List Operation} {failure : Failure}
    (h : setup.pending stage reader operations = .error failure) :
    ∃ address, failure = .occupied stage address := by
  induction operations with
  | nil => cases h
  | cons op rest ih =>
    rw [pending] at h
    cases hstatus : op.status reader setup.programId with
    | pending =>
      rw [hstatus] at h
      cases hrest : setup.pending stage reader rest with
      | ok result =>
        rw [hrest] at h
        cases h
      | error earlier =>
        rw [hrest] at h
        obtain rfl := Except.error.inj h
        exact ih hrest
    | applied =>
      rw [hstatus] at h
      exact ih h
    | conflict =>
      rw [hstatus] at h
      exact ⟨op.target, (Except.error.inj h).symm⟩

theorem extend_eq_ok_iff {stage : Stage} {operations : List Operation} :
    setup.extend stage reader draft (.ok operations) = .ok next ↔
      setup.Unobstructed reader operations
        ∧ next = ⟨draft.book, draft.operations ++ setup.outstanding reader operations⟩ := by
  simp only [extend, Except.map_eq_ok_iff, pending_eq_ok_iff]
  constructor
  · rintro ⟨_, ⟨hclear, rfl⟩, rfl⟩
    exact ⟨hclear, rfl⟩
  · rintro ⟨hclear, rfl⟩
    exact ⟨_, ⟨hclear, rfl⟩, rfl⟩

theorem extend_eq_error {stage : Stage} {operations : List Operation} {failure : Failure}
    (h : setup.extend stage reader draft (.ok operations) = .error failure) :
    ∃ address, failure = .occupied stage address := by
  rw [extend] at h
  cases hpending : setup.pending stage reader operations with
  | ok result =>
    rw [hpending] at h
    cases h
  | error earlier =>
    rw [hpending] at h
    obtain rfl := Except.error.inj h
    exact pending_eq_error hpending

theorem derive_eq_ok_iff :
    setup.derive scheme reader = .ok draft ↔
      setup.parameters.IsValid
        ∧ ∃ book, AddressBook.derive? scheme setup.programId setup.root = some book
          ∧ ¬ setup.PoolExists reader book.pool ∧ draft = ⟨book, []⟩ := by
  rw [derive, Parameters.IsValid]
  cases setup.parameters.breach? with
  | some breach => simp
  | none =>
    cases AddressBook.derive? scheme setup.programId setup.root with
    | none => simp
    | some book => by_cases hexists : setup.PoolExists reader book.pool <;> simp [hexists, eq_comm]

theorem provision_eq_ok_iff (hvalid : setup.parameters.IsValid) :
    setup.provision rent reader draft = .ok next ↔
      setup.Unobstructed reader (Plan.accountOperations draft.book setup.parameters rent)
        ∧ next = ⟨draft.book, draft.operations ++ setup.outstanding reader
          (Plan.accountOperations draft.book setup.parameters rent)⟩ := by
  rw [provision, Plan.provision_eq_ok hvalid, extend_eq_ok_iff]

theorem bootstrap_eq_ok_iff
    (hbook : AddressBook.derive? scheme setup.programId setup.root = some draft.book) :
    setup.bootstrap scheme reader draft = .ok next ↔
      setup.Unobstructed reader (Plan.tokenOperations draft.book)
        ∧ next = ⟨draft.book, draft.operations
          ++ setup.outstanding reader (Plan.tokenOperations draft.book)⟩ := by
  rw [bootstrap, Plan.bootstrap_eq_ok hbook, extend_eq_ok_iff]

theorem complete_eq_ok_iff :
    setup.complete rent reader draft = .ok next ↔
      setup.Unobstructed reader [Plan.recordWrite draft.book setup.parameters rent]
        ∧ next = ⟨draft.book, draft.operations
          ++ setup.outstanding reader [Plan.recordWrite draft.book setup.parameters rent]⟩ :=
  extend_eq_ok_iff

theorem afford_eq_ok_iff :
    setup.afford reader draft = .ok next ↔
      fundingNeeded reader draft.operations ≤ reader.lamports setup.payer ∧ next = draft := by
  simp only [afford]
  split
  · next hpoor => simp [UInt64.not_le.mpr hpoor]
  · next hrich => simp [UInt64.not_lt.mp hrich, eq_comm]

theorem status_recordWrite_of_poolExists {p : Parameters} (h : setup.PoolExists reader book.pool) :
    (Plan.recordWrite book p rent).status reader setup.programId = .conflict := by
  obtain ⟨account, hfound, -, hrecord⟩ := h
  have hlength : 0 < account.data.length :=
    PoolRecord.length_eq_of_isSome hrecord ▸ Nat.zero_lt_succ 551
  rw [Operation.status_of_taken (Plan.recordWrite book p rent) hfound
    (Account.not_isVacant_of_length hlength)]
  exact if_neg fun hblank => PoolRecord.not_isBlank_of_isSome hrecord hblank.2.2

theorem outstanding_recordWrite {p : Parameters}
    (h : setup.Unobstructed reader [Plan.recordWrite book p rent]) :
    setup.outstanding reader [Plan.recordWrite book p rent] = [Plan.recordWrite book p rent] := by
  have hconflict := h _ List.mem_cons_self
  have hpending : (Plan.recordWrite book p rent).status reader setup.programId = .pending := by
    cases hstatus : (Plan.recordWrite book p rent).status reader setup.programId with
    | pending => rfl
    | conflict => exact absurd hstatus hconflict
    | applied => exact absurd hstatus Operation.status_writeRecord_ne_applied
  simp [outstanding, hpending]

/-! ### All steps at once -/

/-- The operations of the plan that are still to be carried out. -/
def agenda (setup : Setup) (book : AddressBook) (rent : Rent) (reader : Reader) :
    List Operation :=
  setup.outstanding reader (Plan.all book setup.parameters rent)

theorem agenda_eq_append
    (h : setup.Unobstructed reader (Plan.all book setup.parameters rent)) :
    setup.agenda book rent reader
      = setup.outstanding reader (Plan.groundwork book setup.parameters rent)
        ++ [Plan.recordWrite book setup.parameters rent] := by
  rw [agenda, Plan.all, outstanding_append, outstanding_recordWrite (unobstructed_append.mp h).2]

theorem mem_agenda_iff {op : Operation} :
    op ∈ setup.agenda book rent reader ↔
      op ∈ Plan.all book setup.parameters rent
        ∧ op.status reader setup.programId = .pending := by
  rw [agenda, outstanding, List.mem_filter, decide_eq_true_iff]

theorem nodup_agenda (h : book.Distinct) : (setup.agenda book rent reader).Nodup :=
  (Plan.nodup_all h).sublist List.filter_sublist

/-- The draft that the steps end up with when nothing changes meanwhile, or why they give up. -/
def preflight (scheme : AddressScheme) (setup : Setup) (rent : Rent) (reader : Reader) :
    Except Failure Draft :=
  setup.derive scheme reader >>= fun draft => setup.provision rent reader draft >>= fun draft =>
    setup.bootstrap scheme reader draft >>= fun draft => setup.complete rent reader draft >>=
      setup.afford reader

theorem preflight_eq_ok_iff
    (hbook : AddressBook.derive? scheme setup.programId setup.root = some book) :
    setup.preflight scheme rent reader = .ok next ↔
      setup.parameters.IsValid ∧ ¬ setup.PoolExists reader book.pool
        ∧ setup.Unobstructed reader (Plan.all book setup.parameters rent)
        ∧ fundingNeeded reader (setup.agenda book rent reader) ≤ reader.lamports setup.payer
        ∧ next = ⟨book, setup.agenda book rent reader⟩ := by
  simp only [preflight, Except.bind_eq_ok_iff, derive_eq_ok_iff, hbook, afford_eq_ok_iff,
    Option.some.injEq, agenda, Plan.all, Plan.groundwork, unobstructed_append, outstanding_append]
  constructor
  · rintro ⟨_, ⟨hvalid, _, rfl, hnew, rfl⟩, _, hprovision, _, hbootstrap, _, hcomplete, hpaid, rfl⟩
    obtain ⟨haccounts, rfl⟩ := (provision_eq_ok_iff hvalid).mp hprovision
    obtain ⟨htokens, rfl⟩ := (bootstrap_eq_ok_iff hbook).mp hbootstrap
    obtain ⟨hrecord, rfl⟩ := complete_eq_ok_iff.mp hcomplete
    exact ⟨hvalid, hnew, ⟨⟨haccounts, htokens⟩, hrecord⟩, hpaid, rfl⟩
  · rintro ⟨hvalid, hnew, ⟨⟨haccounts, htokens⟩, hrecord⟩, hpaid, rfl⟩
    exact ⟨_, ⟨hvalid, book, rfl, hnew, rfl⟩,
      _, (provision_eq_ok_iff hvalid).mpr ⟨haccounts, rfl⟩,
      _, (bootstrap_eq_ok_iff hbook).mpr ⟨htokens, rfl⟩,
      _, complete_eq_ok_iff.mpr ⟨hrecord, rfl⟩, hpaid, rfl⟩

/-- What it comes to when the drafting has ended this way. -/
def conclude (setup : Setup) (store : Store) : Except Failure Draft → Outcome
  | .error failure => .abort failure store
  | .ok draft => setup.submit store.limit draft store

theorem commit_eq_conclude (store : Store) :
    setup.commit store.quote draft store
      = setup.conclude store (setup.complete store.rent store.accounts.find? draft
        >>= setup.afford store.accounts.find?) := by
  rw [commit, Store.quote]
  cases setup.complete store.rent store.accounts.find? draft
      >>= setup.afford store.accounts.find? with
  | error failure => rfl
  | ok draft => rfl

section Execution

variable {quote : Quote} {phase : Phase} {store : Store} {outcome : Outcome} {log : List String}

/-- Two outcomes that differ at most in their logs. -/
def Outcome.Agrees (first second : Outcome) : Prop :=
  first.phase = second.phase ∧ first.store = second.store

theorem Outcome.Agrees.trans {first second third : Outcome} (h : first.Agrees second)
    (hnext : second.Agrees third) : first.Agrees third :=
  ⟨h.1.trans hnext.1, h.2.trans hnext.2⟩

theorem proceed_of_terminal (outcome : Outcome) (h : outcome.phase.IsTerminal) (steps : Nat) :
    (setup.proceed scheme quote steps outcome).Agrees outcome := by
  induction steps generalizing outcome with
  | zero => exact ⟨rfl, rfl⟩
  | succ steps ih =>
    obtain ⟨phase, store, log⟩ := outcome
    cases phase with
    | written pool transactions => exact ih ⟨_, store, log ++ []⟩ trivial
    | aborted failure => exact ih ⟨_, store, log ++ []⟩ trivial
    | unstarted | addressesDerived _ | accountsProvisioned _ | tokensBootstrapped _ => exact h.elim

theorem proceed_succ (steps : Nat) :
    setup.proceed scheme quote (steps + 1) ⟨phase, store, log⟩
      = setup.proceed scheme quote steps
          { setup.step scheme quote phase store with
            log := log ++ (setup.step scheme quote phase store).log } := rfl

theorem proceed_ofDraft {steps : Nat} {result : Except Failure Draft} {after : Draft → Phase}
    {lines : Draft → List String} {rest : Draft → Except Failure Draft}
    (hstep : setup.step scheme quote phase store = .ofDraft store after lines result)
    (hrest : ∀ draft log, (setup.proceed scheme quote steps ⟨after draft, store, log⟩).Agrees
      (setup.conclude store (rest draft))) (log : List String) :
    (setup.proceed scheme quote (steps + 1) ⟨phase, store, log⟩).Agrees
      (setup.conclude store (result >>= rest)) := by
  rw [proceed_succ, hstep]
  cases result with
  | error failure => exact proceed_of_terminal ⟨.aborted failure, store, _⟩ trivial steps
  | ok draft => exact hrest draft _

/-- On the terms of the store the steps come to a submission of what they drafted. -/
theorem execute_agrees (scheme : AddressScheme) (setup : Setup) (store : Store) :
    (setup.execute scheme store).Agrees
      (setup.conclude store (setup.preflight scheme store.rent store.accounts.find?)) := by
  refine proceed_ofDraft rfl (fun derived => ?_) []
  refine proceed_ofDraft rfl fun provisioned => ?_
  refine proceed_ofDraft rfl fun bootstrapped log => ?_
  rw [proceed_succ, step, commit_eq_conclude]
  exact ⟨rfl, rfl⟩

end Execution

/-! ### Submitting a draft -/

section Submission

variable {operations : List Operation} {store : Store} {before after : Accounts}

theorem applyAll_batches (limit : Option Nat) :
    Batch.applyAll rent (setup.batches limit operations) before
      = (Batch.mk setup.programId setup.payer operations).apply rent before := by
  change Batch.applyAll rent
    ((chunks _ operations).map (Batch.mk setup.programId setup.payer)) _ = _
  rw [Batch.applyAll_map_mk, flatten_chunks]

theorem exceeded?_of_mem_batches (hlimit : store.limit ≠ some 0) {batch : Batch}
    (h : batch ∈ setup.batches store.limit operations) : store.exceeded? batch = none := by
  obtain ⟨part, hpart, rfl⟩ := List.mem_map.mp h
  have hlength := length_le_of_mem_chunks hpart
  cases hbound : store.limit with
  | none => simp [Store.exceeded?, hbound]
  | some limit =>
    rw [hbound] at hlimit hlength
    have hpositive : limit ≠ 0 := fun hzero => hlimit (hzero ▸ rfl)
    rw [Option.getD_some] at hlength
    simp only [Store.exceeded?, hbound, Option.filter_eq_none_iff, Option.some.injEq,
      decide_eq_true_eq]
    rintro _ rfl
    omega

theorem store_submit (setup : Setup) (limit : Option Nat) (draft : Draft) (store : Store) :
    (setup.submit limit draft store).store
      = (store.submitAll (setup.batches limit draft.operations)).store := by
  rw [submit]
  split <;> rfl

theorem exists_rejection_of_submit {limit : Option Nat} {draft : Draft} {failure : Failure}
    (h : (setup.submit limit draft store).phase = .aborted failure) :
    ∃ rejection,
      (store.submitAll (setup.batches limit draft.operations)).rejection? = some rejection
        ∧ failure = .rejected
          (store.submitAll (setup.batches limit draft.operations)).accepted.length rejection := by
  rw [submit] at h
  split at h
  · next rejection hrejected => exact ⟨rejection, hrejected, (Phase.aborted.inj h).symm⟩
  · cases h

/-- A submission is given up, or all of the draft has been carried out. -/
theorem submit_cases (setup : Setup) (limit : Option Nat) (draft : Draft) (store : Store) :
    (∃ failure, (setup.submit limit draft store).phase = .aborted failure)
      ∨ (∃ transactions,
          (setup.submit limit draft store).phase = .written draft.book.pool transactions)
        ∧ (Batch.mk setup.programId setup.payer draft.operations).apply store.rent store.accounts
          = .ok (setup.submit limit draft store).store.accounts := by
  rw [submit]
  split
  · exact .inl ⟨_, rfl⟩
  · next haccepted =>
    refine .inr ⟨⟨_, rfl⟩, ?_⟩
    rw [← applyAll_batches limit]
    exact Store.applyAll_of_submitAll haccepted

theorem submit_of_apply (draft : Draft) (hlimit : store.limit ≠ some 0)
    (hfailure : ∀ left, store.failureIn = some left →
      (setup.batches store.limit draft.operations).length ≤ left)
    (h : (Batch.mk setup.programId setup.payer draft.operations).apply store.rent store.accounts
      = .ok after) :
    (∃ transactions,
        (setup.submit store.limit draft store).phase = .written draft.book.pool transactions)
      ∧ (setup.submit store.limit draft store).store.accounts = after
      ∧ (setup.submit store.limit draft store).store.failureIn
        = store.failureIn.map (· - (setup.batches store.limit draft.operations).length) := by
  rw [← applyAll_batches store.limit] at h
  obtain ⟨haccepted, haccounts, hleft⟩ :=
    Store.submitAll_of_applyAll (fun _ hbatch => exceeded?_of_mem_batches hlimit hbatch) hfailure h
  rw [submit, haccepted]
  exact ⟨⟨_, rfl⟩, haccounts, hleft⟩

/-- Batches before the last leave some of the operations to be carried out. -/
theorem exists_split_of_lt {limit : Option Nat} {count : Nat}
    (h : count < (setup.batches limit operations).length) :
    ∃ done rest, operations = done ++ rest ∧ rest ≠ []
      ∧ ∀ rent before, Batch.applyAll rent ((setup.batches limit operations).take count) before
        = (Batch.mk setup.programId setup.payer done).apply rent before := by
  let parts := chunks (limit.getD operations.length) operations
  have hparts : operations = (parts.take count).flatten ++ (parts.drop count).flatten := by
    rw [← List.flatten_append, List.take_append_drop, flatten_chunks]
  have hrest : (parts.drop count).flatten ≠ [] := by
    intro hnil
    obtain ⟨part, hpart⟩ : ∃ part, part ∈ parts.drop count := by
      apply List.exists_mem_of_ne_nil
      rw [ne_eq, List.drop_eq_nil_iff, Nat.not_le]
      simpa [batches] using h
    have hempty := List.flatten_eq_nil_iff.mp hnil part hpart
    exact ne_nil_of_mem_chunks (List.mem_of_mem_drop hpart) hempty
  refine ⟨_, _, hparts, hrest, fun rent before => ?_⟩
  rw [batches, ← List.map_take]
  exact Batch.applyAll_map_mk _

theorem submit_of_failure (draft : Draft) {left : Nat} (hlimit : store.limit ≠ some 0)
    (hfailure : store.failureIn = some left)
    (hleft : left < (setup.batches store.limit draft.operations).length)
    (h : (Batch.mk setup.programId setup.payer draft.operations).apply store.rent store.accounts
      = .ok after) :
    (∃ index, (setup.submit store.limit draft store).phase
        = .aborted (.rejected index (.unavailable .injected)))
      ∧ (setup.submit store.limit draft store).store.failureIn = none
      ∧ ∃ done rest, draft.operations = done ++ rest ∧ rest ≠ []
        ∧ (Batch.mk setup.programId setup.payer done).apply store.rent store.accounts
          = .ok (setup.submit store.limit draft store).store.accounts := by
  obtain ⟨done, rest, hsplit, hrest, happlied⟩ := exists_split_of_lt hleft
  have happly := h
  rw [hsplit, Batch.apply_append_eq_ok_iff] at happly
  obtain ⟨middle, hdone, -⟩ := happly
  obtain ⟨hrejected, haccounts, hspent⟩ := Store.submitAll_of_failure
    (fun _ hbatch => exceeded?_of_mem_batches hlimit hbatch) hfailure hleft
    ((happlied store.rent store.accounts).trans hdone)
  rw [submit, hrejected]
  exact ⟨⟨_, rfl⟩, hspent, done, rest, hsplit, hrest, haccounts ▸ hdone⟩

theorem submit_terms (setup : Setup) (limit : Option Nat) (draft : Draft) (store : Store) :
    (setup.submit limit draft store).store.rent = store.rent
      ∧ (setup.submit limit draft store).store.limit = store.limit := by
  rw [submit]
  split <;> exact Store.submitAll_terms ..

/-- What a setup that wrote its pool has found, and what it has done. -/
theorem execute_written {pool : Key} {transactions : List UInt64}
    (hbook : AddressBook.derive? scheme setup.programId setup.root = some book)
    (h : (setup.execute scheme store).phase = .written pool transactions) :
    pool = book.pool ∧ setup.parameters.IsValid
      ∧ ¬ setup.PoolExists store.accounts.find? book.pool
      ∧ setup.Unobstructed store.accounts.find? (Plan.all book setup.parameters store.rent)
      ∧ (Batch.mk setup.programId setup.payer
          (setup.agenda book store.rent store.accounts.find?)).apply store.rent store.accounts
        = .ok (setup.execute scheme store).store.accounts := by
  obtain ⟨hphase, hstore⟩ := execute_agrees scheme setup store
  rw [hphase] at h
  rw [hstore]
  cases hdraft : setup.preflight scheme store.rent store.accounts.find? with
  | error failure =>
    rw [hdraft] at h
    cases h
  | ok draft =>
    rw [hdraft] at h
    obtain ⟨hvalid, hnew, hclear, -, rfl⟩ := (preflight_eq_ok_iff hbook).mp hdraft
    obtain ⟨failure, haborted⟩ | ⟨⟨_, hwritten⟩, happly⟩ :=
      submit_cases setup store.limit ⟨book, _⟩ store
    · cases haborted.symm.trans h
    · exact ⟨(Phase.written.inj (h.symm.trans hwritten)).1, hvalid, hnew, hclear, happly⟩

theorem find?_pool_of_apply {programId payer : Key} {p : Parameters} {spent : Rent}
    (h : (Batch.mk programId payer (operations ++ [Plan.recordWrite book p rent])).apply spent
      before = .ok after) :
    ∃ account, after.find? book.pool = some account ∧ account.owner = programId
      ∧ account.data = (PoolRecord.initial book p (Plan.pinned rent)).encode := by
  obtain ⟨middle, -, hlast⟩ := Batch.apply_append_eq_ok_iff.mp h
  obtain ⟨_, hwrite, hnil⟩ := Batch.apply_cons_eq_ok_iff.mp hlast
  obtain rfl := Except.ok.inj hnil
  have hadmits := (Operation.apply_eq_ok_iff.mp hwrite).1
  exact ⟨_, Operation.find?_apply_target hwrite id, hadmits.1, rfl⟩

end Submission

end Setup

/-! ### The setup of one pool

Its store keeps batches short, and somebody has sent the reserve a part of its rent in advance. -/

def Parameters.sample : Parameters where
  admin := .ofNat 1
  validatorManager := .ofNat 2
  pauser := .ofNat 3
  minStake := Parameters.minStakeLimit
  rewardFee := ⟨500⟩
  lpLiquidityTarget := 1000000000000
  lpMaxFee := ⟨300⟩
  lpMinFee := ⟨30⟩
  lpTreasuryCut := ⟨2500⟩
  stakeRecordSpare := 0
  validatorRecordSpare := 16
  stakeDeltaWindow := Parameters.minDeltaWindow

def Setup.sample : Setup where
  programId := .stakePoolProgram
  payer := .ofNat 7
  root := AddressBook.sampleRoot
  parameters := .sample

def Store.sample : Store :=
  ((Store.empty (some 4)).airdrop Setup.sample.payer 1000000000).airdrop
    (AddressBook.sample.address .reserve) 890880

namespace Setup

theorem derive?_sample :
    AddressBook.derive? .standard sample.programId sample.root = some .sample :=
  AddressBook.derive?_sample

theorem derive_sample_of_not_poolExists {reader : Reader}
    (h : ¬ sample.PoolExists reader AddressBook.sample.pool) :
    sample.derive .standard reader = .ok ⟨.sample, []⟩ := by
  rw [derive_eq_ok_iff]
  exact ⟨by decide +kernel, .sample, derive?_sample, h, rfl⟩

theorem derive_sample :
    sample.derive .standard Store.sample.accounts.find? = .ok ⟨.sample, []⟩ :=
  derive_sample_of_not_poolExists (by decide +kernel)

theorem execute_sample :
    (sample.execute .standard Store.sample).phase
      = .written AddressBook.sample.pool [1, 2, 3, 4] := by
  rw [(execute_agrees ..).1, preflight, derive_sample]
  decide +kernel

end Setup

end StakePool
