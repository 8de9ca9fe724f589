import StakePool.Proofs.Setup.Preflight
/-!
# What a status says about a submission

A status is read off the target account alone, while a store checks everything that an operation
asks for. The two never contradict each other, because a store takes an operation for a taken
account only where its status is `pending`: that is `statusOfTaken_of_admits`. So what is in
conflict is refused, and what counts as applied is refused as well or changes nothing. In the other
direction, what a store has carried out for a plan counts as applied from then on, and a record
that has been written is in the way of the next one.
-/

namespace StakePool

variable {rent : Rent} {programId payer : Key}

namespace Operation

variable {op : Operation} {accounts before after : Accounts}

theorem statusOfTaken_of_admits {account : Account} (htaken : ¬ account.IsVacant)
    (h : op.Admits rent programId account) : op.statusOfTaken account programId = .pending := by
  cases op with
  | createAccount => exact absurd h.1 htaken
  | fund => exact absurd h htaken
  | openMint mint decimals authority freezeAuthority =>
    obtain ⟨howner, -, -, state, hread, hunused⟩ := h
    simp [statusOfTaken, howner, hread, hunused]
  | openTokenAccount address mint owner =>
    obtain ⟨howner, -, -, state, hread, hunused⟩ := h
    simp [statusOfTaken, howner, hread, hunused]
  | writeRegistry address header =>
    obtain ⟨howner, hlength, hblank⟩ := h
    simp [statusOfTaken, howner, Nat.not_lt.mpr hlength, hblank]
  | writeRecord address record => exact if_pos h

theorem statusOfVacant_eq (op : Operation) (account : Account) :
    op.statusOfVacant account = if op.IsIdle account then .applied else .pending := by
  cases op with
  | fund => rfl
  | createAccount | openMint | openTokenAccount | writeRegistry | writeRecord => rfl

/-- An operation that a store might carry out is outstanding, or there is nothing left to do. -/
theorem status_of_admits (h : op.Admits rent programId (accounts.get op.target)) :
    op.status accounts.find? programId = .pending
      ∨ op.status accounts.find? programId = .applied ∧ op.IsIdle (accounts.get op.target) := by
  cases hfound : accounts.find? op.target with
  | none => exact .inl (by rw [status, hfound])
  | some account =>
    rw [Accounts.get_eq_of_find? hfound] at h ⊢
    by_cases hvacant : account.IsVacant
    · rw [status_of_vacant op hfound hvacant, statusOfVacant_eq]
      by_cases hidle : op.IsIdle account
      · exact .inr ⟨if_pos hidle, hidle⟩
      · exact .inl (if_neg hidle)
    · exact .inl ((status_of_taken op hfound hvacant).trans (statusOfTaken_of_admits hvacant h))

theorem status_ne_conflict_of_apply (h : op.apply rent programId payer before = .ok after) :
    op.status before.find? programId ≠ .conflict := by
  obtain hpending | ⟨happlied, -⟩ := status_of_admits (apply_eq_ok_iff.mp h).1
  · simp [hpending]
  · simp [happlied]

/-- What counts as applied leaves the accounts alone if it is carried out once more. -/
theorem eq_of_apply_of_applied (hstatus : op.status before.find? programId = .applied)
    (h : op.apply rent programId payer before = .ok after) : after = before := by
  obtain ⟨hadmits, -, -, rfl⟩ := apply_eq_ok_iff.mp h
  obtain hpending | ⟨-, hidle⟩ := status_of_admits hadmits
  · rw [hpending] at hstatus
    cases hstatus
  · exact if_pos hidle

theorem status_writeRecord_apply {address : Key} {record : PoolRecord}
    (hwritten : record.IsWritten)
    (h : (writeRecord address record).apply rent programId payer before = .ok after)
    (other : PoolRecord) :
    (writeRecord address other).status after.find? programId = .conflict := by
  have hfound : after.find? address = some { before.get address with data := record.encode } :=
    find?_apply_target h id
  have hsome : (PoolRecord.ofData? record.encode).isSome := by
    rw [PoolRecord.ofData?_encode record hwritten]
    rfl
  rw [status_of_taken (writeRecord address other) hfound]
  · exact if_neg fun hblank => PoolRecord.not_isBlank_of_isSome hsome hblank.2.2
  · apply Account.not_isVacant_of_length
    rw [PoolRecord.length_eq_of_isSome hsome]
    exact Nat.zero_lt_succ 551

end Operation

namespace Plan

variable {book : AddressBook} {p : Parameters} {terms : Rent} {op : Operation}
  {before after : Accounts}

/-- The status that an operation of a plan has once it has been carried out. -/
def statusOnceDone : Operation → Operation.Status
  | .writeRecord .. => .conflict
  | _ => .applied

theorem status_apply_of_mem (hterms : 0 < pinned terms) (hop : op ∈ all book p terms)
    (h : op.apply rent programId payer before = .ok after) :
    op.status after.find? programId = statusOnceDone op := by
  obtain hground | hrecord := List.mem_append.mp hop
  · have hsettles := settles_groundwork hterms op hground
    rw [Operation.status_apply_self hsettles h]
    cases op with
    | writeRecord => exact hsettles.elim
    | createAccount | fund | openMint | openTokenAccount | writeRegistry => rfl
  · obtain rfl := List.mem_singleton.mp hrecord
    have hwritten : (PoolRecord.initial book p (pinned terms)).IsWritten := rfl
    exact Operation.status_writeRecord_apply hwritten h _

end Plan

namespace Store

theorem apply_singleton {op : Operation} {accounts : Accounts} :
    (Batch.mk programId payer [op]).apply rent accounts
      = op.apply rent programId payer accounts := by
  rw [Batch.apply_cons]
  cases op.apply rent programId payer accounts <;> rfl

variable (store : Store)

/-- The status of an operation agrees with what a store makes of it. An operation in conflict is
refused. One that counts as applied is refused, or it leaves all accounts as they were. And once an
operation of any plan has gone through, it counts as applied, or as in conflict if it writes the
record. The terms that the plan was made for have to ask something of a token account, as the rent
of every store that starts out empty does: `Plan.pinned_standard`. -/
theorem status_agrees (programId payer : Key) (op : Operation) :
    let submission := store.submit ⟨programId, payer, [op]⟩
    (op.status store.accounts.find? programId = .conflict →
        ∃ rejection, submission.1 = .error rejection)
      ∧ (op.status store.accounts.find? programId = .applied →
        (∃ rejection, submission.1 = .error rejection) ∨ submission.2.accounts = store.accounts)
      ∧ ∀ scheme book p terms operations, 0 < Plan.pinned terms →
        Plan.operations scheme book p terms = .ok operations → op ∈ operations →
        ∀ number, submission.1 = .ok number →
          op.status submission.2.accounts.find? programId = Plan.statusOnceDone op := by
  intro submission
  have happly {number : UInt64} (hnumber : submission.1 = .ok number) :
      op.apply store.rent programId payer store.accounts = .ok submission.2.accounts :=
    apply_singleton.symm.trans (apply_of_submit_eq_ok hnumber)
  refine ⟨fun hconflict => ?_, fun happlied => ?_, ?_⟩
  · cases hresult : submission.1 with
    | error rejection => exact ⟨rejection, rfl⟩
    | ok number => exact absurd hconflict (Operation.status_ne_conflict_of_apply (happly hresult))
  · cases hresult : submission.1 with
    | error rejection => exact .inl ⟨rejection, rfl⟩
    | ok number => exact .inr (Operation.eq_of_apply_of_applied happlied (happly hresult))
  · intro scheme book p terms operations hterms hplan hop number hnumber
    obtain rfl := Plan.eq_all_of_operations hplan
    exact Plan.status_apply_of_mem hterms hop (happly hnumber)

/-! ### The reserve of one pool -/

/-- The operation of the sample's plan that brings the reserve up to its rent. -/
def topUp : Operation := .fund (AddressBook.sample.address .reserve) (Plan.pinned .standard)

def topUpBatch : Batch := ⟨.stakePoolProgram, Setup.sample.payer, [topUp]⟩

/-- Somebody has taken the address of the reserve. -/
def takenSample : Store :=
  sample.setAccount (AddressBook.sample.address .reserve) ⟨890880, [1], .systemProgram⟩

theorem submit_topUpBatch : (sample.submit topUpBatch).1 = .ok 1 := by rfl

/-- The store after the reserve has been brought up. -/
def toppedUp : Store := (sample.submit topUpBatch).2

theorem status_agrees_sample :
    topUp.status takenSample.accounts.find? .stakePoolProgram = .conflict
      ∧ (∃ rejection, (takenSample.submit topUpBatch).1 = .error rejection)
      ∧ (sample.submit topUpBatch).1 = .ok 1
      ∧ topUp.status toppedUp.accounts.find? .stakePoolProgram = .applied
      ∧ ((∃ rejection, (toppedUp.submit topUpBatch).1 = .error rejection)
        ∨ (toppedUp.submit topUpBatch).2.accounts = toppedUp.accounts) := by
  have hconflict : topUp.status takenSample.accounts.find? .stakePoolProgram = .conflict := by
    decide +kernel
  have hplan : Plan.operations .standard .sample .sample .standard = .ok (Plan.all .sample ..) :=
    Plan.operations_eq_ok AddressBook.derive?_sample (by decide +kernel)
  have hplanned : topUp ∈ Plan.all .sample .sample .standard := by decide +kernel
  obtain ⟨hrefused, -, -⟩ := status_agrees takenSample .stakePoolProgram Setup.sample.payer topUp
  obtain ⟨-, -, hdone⟩ := status_agrees sample .stakePoolProgram Setup.sample.payer topUp
  obtain ⟨-, hkept, -⟩ := status_agrees toppedUp .stakePoolProgram Setup.sample.payer topUp
  have happlied := hdone .standard .sample .sample .standard _ Plan.pinned_standard hplan hplanned 1
    submit_topUpBatch
  exact ⟨hconflict, hrefused hconflict, submit_topUpBatch, happlied, hkept happlied⟩

end Store

end StakePool
