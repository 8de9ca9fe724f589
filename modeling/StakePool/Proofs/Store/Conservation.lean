import StakePool.Proofs.AddressBook
import StakePool.Proofs.Store.Submission
/-!
# What becomes of the lamports

An operation takes from the payer what it adds to its target, so as a rule all lamports stay in the
store. The exception is an operation that is about the payer's own account: its new balance is
written over the charge, and what the payer should have brought comes from nowhere. `total_apply`
says by how much an accepted operation changes the total. So the total never falls, and it stays the
same exactly in those batches that never have the payer pay itself.
-/

namespace StakePool

variable {rent : Rent} {programId payer : Key}

namespace Saturating

theorem toNat_max (a b : UInt64) : (max a b).toNat = a.toNat + (sub64 b a).toNat := by
  rw [toNat_sub64]
  by_cases h : b ≤ a
  · have hle := UInt64.le_iff_toNat_le.mp h
    rw [max_eq_left_of_le h]
    omega
  · have hle := UInt64.lt_iff_toNat_lt.mp (UInt64.not_le.mp h)
    rw [max_eq_right_of_not_le h]
    omega

end Saturating

namespace Accounts

variable {accounts : Accounts} {amount : UInt64}

theorem get_debited_self (accounts : Accounts) (payer : Key) (amount : UInt64) :
    ((accounts.debited payer amount).get payer).lamports
      = (accounts.get payer).lamports - amount := by
  unfold debited
  split
  · next hzero => rw [hzero, UInt64.sub_zero]
  · rw [get_insert_self]

theorem get_debited_of_ne {key : Key} (h : key ≠ payer) :
    (accounts.debited payer amount).get key = accounts.get key := by
  apply get_congr
  rw [find?_debited, if_neg fun hboth => h hboth.1]

theorem total_debited (h : amount ≤ (accounts.get payer).lamports) :
    (accounts.debited payer amount).total + amount.toNat = accounts.total := by
  unfold debited
  split
  · next hzero => rw [hzero, UInt64.toNat_zero, Nat.add_zero]
  · have hinsert := accounts.total_insert payer
      { accounts.get payer with lamports := (accounts.get payer).lamports - amount }
    have hpaid := UInt64.le_iff_toNat_le.mp h
    rw [UInt64.toNat_sub_of_le _ _ h] at hinsert
    dsimp only at hinsert ⊢
    omega

end Accounts

namespace Operation

variable {op : Operation} {before after : Accounts}

/-- The payer would have to bring lamports into its own account. -/
def PaysItself (payer : Key) (op : Operation) (accounts : Accounts) : Prop :=
  op.target = payer ∧ op.fundingNeeded accounts.find? ≠ 0

theorem toNat_lamports_result (op : Operation) (accounts : Accounts) :
    (op.result (accounts.get op.target)).lamports.toNat
      = (accounts.get op.target).lamports.toNat + (op.fundingNeeded accounts.find?).toNat := by
  cases op with
  | createAccount slot address space lamports owner =>
    rw [fundingNeeded_createAccount]
    exact Saturating.toNat_max ..
  | fund address lamports =>
    rw [fundingNeeded_fund]
    exact Saturating.toNat_max ..
  | openMint | openTokenAccount | writeRegistry | writeRecord => rfl

/-- An accepted operation adds to the total what the payer was to bring into its own account. -/
theorem total_apply (h : op.apply rent programId payer before = .ok after) :
    after.total
      = before.total + if op.target = payer then (op.fundingNeeded before.find?).toNat else 0 := by
  obtain ⟨-, -, hpaid, rfl⟩ := apply_eq_ok_iff.mp h
  by_cases hidle : op.IsIdle (before.get op.target)
  · simp [effect, hidle, fundingNeeded_eq_zero_of_isIdle hidle]
  simp only [effect, hidle, if_false]
  have hdebited := Accounts.total_debited hpaid
  have hinsert := (before.debited payer (op.fundingNeeded before.find?)).total_insert op.target
    (op.result (before.get op.target))
  have hresult := toNat_lamports_result op before
  by_cases hself : op.target = payer
  · -- The new balance replaces one that the charge has lowered already.
    have hle := UInt64.le_iff_toNat_le.mp hpaid
    rw [hself, Accounts.get_debited_self, UInt64.toNat_sub_of_le _ _ hpaid] at hinsert
    rw [hself] at hresult
    rw [if_pos hself, hself]
    omega
  · rw [Accounts.get_debited_of_ne hself] at hinsert
    rw [if_neg hself]
    omega

theorem total_le_apply (h : op.apply rent programId payer before = .ok after) :
    before.total ≤ after.total :=
  total_apply h ▸ Nat.le_add_right ..

theorem total_apply_eq_iff (h : op.apply rent programId payer before = .ok after) :
    after.total = before.total ↔ ¬ op.PaysItself payer before := by
  rw [total_apply h, PaysItself, ne_eq, ← UInt64.toNat_inj]
  by_cases hself : op.target = payer <;> simp [hself]

end Operation

namespace Batch

variable {op : Operation} {xs : List Operation} {before after : Accounts}

/-- When the turn of some operation comes, the payer has to bring lamports into its own account. -/
def PaysItself (rent : Rent) (batch : Batch) (accounts : Accounts) : Prop :=
  ∃ earlier op later middle, batch.operations = earlier ++ op :: later
    ∧ (Batch.mk batch.programId batch.payer earlier).apply rent accounts = .ok middle
    ∧ op.PaysItself batch.payer middle

theorem paysItself_cons_iff {middle : Accounts}
    (h : op.apply rent programId payer before = .ok middle) :
    (Batch.mk programId payer (op :: xs)).PaysItself rent before ↔
      op.PaysItself payer before ∨ (Batch.mk programId payer xs).PaysItself rent middle :=
  encounters_cons_iff h

theorem not_paysItself_of_target {batch : Batch}
    (h : ∀ op ∈ batch.operations, op.target = batch.payer →
      ∀ accounts : Accounts, op.fundingNeeded accounts.find? = 0) :
    ¬ batch.PaysItself rent before := by
  rintro ⟨earlier, op, later, middle, hsplit, -, htarget, hneeded⟩
  exact hneeded (h op (hsplit ▸ by simp) htarget middle)

/-- The total never falls, and it stays the same unless the payer pays itself. -/
theorem total_apply {batch : Batch} (h : batch.apply rent before = .ok after) :
    before.total ≤ after.total
      ∧ (after.total = before.total ↔ ¬ batch.PaysItself rent before) := by
  obtain ⟨programId, payer, operations⟩ := batch
  induction operations generalizing before with
  | nil =>
    obtain rfl := Except.ok.inj h
    exact ⟨Nat.le_refl _, iff_of_true rfl not_encounters_nil⟩
  | cons op rest ih =>
    obtain ⟨middle, hop, hrest⟩ := apply_cons_eq_ok_iff.mp h
    obtain ⟨hlater, hiff⟩ := ih hrest
    have hfirst := Operation.total_le_apply hop
    refine ⟨Nat.le_trans hfirst hlater, ?_⟩
    rw [paysItself_cons_iff hop, not_or, ← hiff, ← Operation.total_apply_eq_iff hop]
    -- Neither part of the run can make up for what the other has added.
    omega

end Batch

namespace Store

variable {store : Store} {batch : Batch} {number : UInt64}

/-- Whatever a store holds and whatever a batch is about: if the batch is accepted, no lamports are
lost, and none are added to the store unless the payer had to bring some into its own account. -/
theorem total_submit (h : (store.submit batch).1 = .ok number) :
    store.accounts.total ≤ (store.submit batch).2.accounts.total
      ∧ ((store.submit batch).2.accounts.total = store.accounts.total
        ↔ ¬ batch.PaysItself store.rent store.accounts) :=
  Batch.total_apply (apply_of_submit_eq_ok h)

/-! ### A payer with 600 lamports -/

def purse : Store := (Store.empty none).airdrop (.ofNat 1) 600

def gift : Batch := ⟨.zero, .ofNat 1, [.fund (.ofNat 2) 250]⟩

theorem total_submit_gift :
    (purse.submit gift).1 = .ok 1
      ∧ (purse.submit gift).2.accounts.total = purse.accounts.total := by
  have haccepted : (purse.submit gift).1 = .ok 1 := by rfl
  have hothers : ∀ op ∈ gift.operations, op.target ≠ gift.payer := by decide +kernel
  have hnever : ¬ gift.PaysItself purse.rent purse.accounts :=
    Batch.not_paysItself_of_target fun op hop hself => absurd hself (hothers op hop)
  exact ⟨haccepted, (total_submit haccepted).2.mpr hnever⟩

/-- The payer is to have 1000 lamports, and is charged the 400 that it lacks. -/
def selfService : Batch := ⟨.zero, .ofNat 1, [.fund (.ofNat 1) 1000]⟩

/-- The charge is lost, and the payer has 400 lamports that were in no account before. -/
theorem submit_selfService :
    (purse.submit selfService).1 = .ok 1 ∧ purse.accounts.total = 600
      ∧ (purse.submit selfService).2.accounts.total = 1000 :=
  ⟨by rfl, by decide +kernel, by decide +kernel⟩

/-- Not every batch that is accepted leaves the total as it is. -/
theorem not_forall_total_submit_eq :
    ¬ ∀ (store : Store) (batch : Batch) (number : UInt64), (store.submit batch).1 = .ok number →
      (store.submit batch).2.accounts.total = store.accounts.total := by
  intro hconserved
  obtain ⟨haccepted, hbefore, hafter⟩ := submit_selfService
  have hsame := hconserved purse selfService 1 haccepted
  rw [hbefore, hafter] at hsame
  cases hsame

end Store

end StakePool
