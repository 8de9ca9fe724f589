import StakePool.Proofs.Records
import StakePool.Proofs.Store.Submission
/-!
# Written records are permanent

No operation of any program touches the owner or the data of an account that holds a written pool
record: accounts are created and funded only where there is no data, the token program opens
accounts of other sizes, and registry headers and records are written only over blank bytes.
Whatever is submitted to a store, the account therefore stays as it is, up to its lamports, which a
batch may spend on its behalf.
-/

namespace StakePool

variable {rent : Rent} {programId payer key owner : Key} {data : Bytes}

/-- The account at a key has this owner and this data, whatever its lamports. -/
def Accounts.Holds (accounts : Accounts) (key owner : Key) (data : Bytes) : Prop :=
  ∃ account, accounts.find? key = some account ∧ account.owner = owner ∧ account.data = data

namespace Operation

variable {op : Operation} {before after : Accounts}

theorem not_admits_of_isSome {account : Account} (h : (PoolRecord.ofData? account.data).isSome) :
    ¬ op.Admits rent programId account := by
  have hlength := PoolRecord.length_eq_of_isSome h
  have htaken : ¬ account.IsVacant :=
    Account.not_isVacant_of_length (hlength ▸ Nat.zero_lt_succ 551)
  intro hadmits
  cases op with
  | createAccount => exact htaken hadmits.1
  | fund => exact htaken hadmits
  | openMint => exact absurd (hlength.symm.trans hadmits.2.1) (by decide)
  | openTokenAccount => exact absurd (hlength.symm.trans hadmits.2.1) (by decide)
  | writeRegistry => exact PoolRecord.not_isBlank_take h _ (by decide) hadmits.2.2
  | writeRecord => exact PoolRecord.not_isBlank_of_isSome h hadmits.2.2

/-- What no operation can be about stays as it is. -/
theorem holds_apply_of_not_admits
    (hkept : ∀ lamports, ¬ op.Admits rent programId ⟨lamports, data, owner⟩)
    (hbefore : before.Holds key owner data)
    (h : op.apply rent programId payer before = .ok after) : after.Holds key owner data := by
  obtain ⟨account, hfound, rfl, rfl⟩ := hbefore
  have htarget : key ≠ op.target := by
    rintro rfl
    have hadmits := (apply_eq_ok_iff.mp h).1
    rw [Accounts.get_eq_of_find? hfound] at hadmits
    exact hkept account.lamports hadmits
  exact exists_find?_apply_of_ne h htarget hfound

theorem holds_apply (hrecord : (PoolRecord.ofData? data).isSome)
    (hbefore : before.Holds key owner data)
    (h : op.apply rent programId payer before = .ok after) : after.Holds key owner data :=
  holds_apply_of_not_admits (fun _ => not_admits_of_isSome hrecord) hbefore h

end Operation

namespace Store

variable {store : Store} (hrecord : (PoolRecord.ofData? data).isSome)
  (hbefore : store.accounts.Holds key owner data)
include hrecord hbefore

theorem holds_submit (batch : Batch) : (store.submit batch).2.accounts.Holds key owner data :=
  submit_induct (fun _ _ _ _ hholds hop => Operation.holds_apply hrecord hholds hop) hbefore

theorem holds_submitAll (batches : List Batch) :
    (store.submitAll batches).store.accounts.Holds key owner data :=
  submitAll_induct (fun _ _ _ _ _ _ hholds hop => Operation.holds_apply hrecord hholds hop) hbefore

omit hrecord in
theorem holds_airdrop (address : Key) (lamports : UInt64) :
    (store.airdrop address lamports).accounts.Holds key owner data := by
  obtain ⟨account, hfound, howner, hdata⟩ := hbefore
  obtain ⟨after, hafter, hgrown⟩ := exists_find?_airdrop hfound address lamports
  exact ⟨after, hafter, hgrown.owner_eq.trans howner, hgrown.data_eq.trans hdata⟩

end Store

end StakePool
