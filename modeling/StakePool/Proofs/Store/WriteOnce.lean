import StakePool.Proofs.Setup.Feasibility
import StakePool.Proofs.Setup.Preflight
import StakePool.Proofs.Store.Permanence
/-!
# Accounts are written once

A batch of any program but the token program can make new accounts, fill in blank ones and spend the
payer's lamports, and that is all. `Account.Retained` says what it leaves of an account that was
there before: the owner and the size of what is taken, the lamports of everybody but the payer, and
all data in which somebody has written. Everything rests on `not_admits_of_sealed`, that no
operation can be about an account of the last kind. A mint, a token account, a registry or a pool
that is there therefore keeps its data for good, whatever programs submit their batches in whatever
order.
-/

namespace StakePool

variable {rent : Rent} {programId payer : Key}

namespace Account

/-- A mint in use. -/
def IsMint (account : Account) : Prop :=
  account.owner = .tokenProgram ∧ (Mint.initialized? account.data).isSome

/-- A token account in use. -/
def IsTokenAccount (account : Account) : Prop :=
  account.owner = .tokenProgram ∧ (TokenAccount.initialized? account.data).isSome

/-- The header at the front of the data is not blank. -/
def HasHeader (account : Account) : Prop :=
  ¬ Bytes.IsBlank (account.data.take RegistryHeader.size)

instance (account : Account) : Decidable account.HasHeader := inferInstanceAs (Decidable (¬ _))

/-- Batches of the program leave the data alone: it is in use by the token program, it belongs to
somebody else, or it has been written already. -/
def Sealed (programId : Key) (account : Account) : Prop :=
  account.IsMint ∨ account.IsTokenAccount
    ∨ (account.owner ≠ programId ∧ account.owner ≠ .tokenProgram ∧ ¬ account.IsVacant)
    ∨ (account.owner = programId ∧ account.HasHeader)

/-- What a batch of a program leaves of an account, which may be the one that pays for it. -/
structure Retained (programId : Key) (pays : Prop) (before after : Account) : Prop where
  owner_eq : ¬ before.IsVacant → after.owner = before.owner
  length_eq : ¬ before.IsVacant → after.data.length = before.data.length
  lamports_le : ¬ pays → before.lamports ≤ after.lamports
  data_eq : before.Sealed programId → after.data = before.data

variable {account before middle after : Account} {pays : Prop}

theorem HasHeader.not_isVacant (h : account.HasHeader) : ¬ account.IsVacant := by
  intro hvacant
  refine h fun byte hbyte => ?_
  rw [hvacant.1] at hbyte
  simp at hbyte

theorem IsMint.length_eq (h : account.IsMint) : account.data.length = Mint.size := by
  obtain ⟨mint, hmint⟩ := Option.isSome_iff_exists.mp h.2
  exact Mint.length_eq_of_ofData? (Option.filter_eq_some_iff.mp hmint).1

theorem IsTokenAccount.exists_read (h : account.IsTokenAccount) :
    ∃ tokens, TokenAccount.ofData? account.data = some tokens
      ∧ tokens.state ≠ .uninitialized := by
  obtain ⟨tokens, htokens⟩ := Option.isSome_iff_exists.mp h.2
  obtain ⟨hread, hstate⟩ := Option.filter_eq_some_iff.mp htokens
  exact ⟨tokens, hread, of_decide_eq_true hstate⟩

theorem IsTokenAccount.length_eq (h : account.IsTokenAccount) :
    account.data.length = TokenAccount.size := by
  obtain ⟨tokens, hread, -⟩ := h.exists_read
  exact TokenAccount.length_eq_of_ofData? hread

theorem Sealed.not_isVacant (h : account.Sealed programId) : ¬ account.IsVacant := by
  rcases h with hmint | htokens | ⟨-, -, htaken⟩ | ⟨-, hheader⟩
  · exact not_isVacant_of_length (hmint.length_eq ▸ Nat.zero_lt_succ 81)
  · exact not_isVacant_of_length (htokens.length_eq ▸ Nat.zero_lt_succ 164)
  · exact htaken
  · exact hheader.not_isVacant

theorem Sealed.congr (h : before.Sealed programId) (howner : after.owner = before.owner)
    (hdata : after.data = before.data) : after.Sealed programId := by
  simpa only [Sealed, IsMint, IsTokenAccount, HasHeader, IsVacant, howner, hdata] using h

theorem isVacant_congr (howner : after.owner = before.owner)
    (hlength : after.data.length = before.data.length) : after.IsVacant ↔ before.IsVacant := by
  rw [IsVacant, IsVacant, howner, ← List.length_eq_zero_iff, ← List.length_eq_zero_iff, hlength]

namespace Retained

theorem refl (programId : Key) (pays : Prop) (account : Account) :
    account.Retained programId pays account :=
  ⟨fun _ => rfl, fun _ => rfl, fun _ => UInt64.le_refl _, fun _ => rfl⟩

theorem trans (hfirst : before.Retained programId pays middle)
    (hsecond : middle.Retained programId pays after) : before.Retained programId pays after := by
  have htaken (h : ¬ before.IsVacant) : ¬ middle.IsVacant :=
    fun hvacant => h ((isVacant_congr (hfirst.owner_eq h) (hfirst.length_eq h)).mp hvacant)
  refine ⟨fun h => ?_, fun h => ?_, fun h => ?_, fun h => ?_⟩
  · rw [hsecond.owner_eq (htaken h), hfirst.owner_eq h]
  · rw [hsecond.length_eq (htaken h), hfirst.length_eq h]
  · exact UInt64.le_trans (hfirst.lamports_le h) (hsecond.lamports_le h)
  · have hdata := hfirst.data_eq h
    rw [hsecond.data_eq (h.congr (hfirst.owner_eq h.not_isVacant) hdata), hdata]

theorem of_pays (h : pays) (howner : after.owner = before.owner)
    (hdata : after.data = before.data) : before.Retained programId pays after :=
  ⟨fun _ => howner, fun _ => congrArg List.length hdata, fun hnot => absurd h hnot, fun _ => hdata⟩

end Retained

end Account

/-! ### One operation -/

namespace Operation

variable {op : Operation} {account : Account} {before after : Accounts} {key : Key}

theorem not_admits_of_isTokenAccount (hprogram : programId ≠ .tokenProgram)
    (h : account.IsTokenAccount) : ¬ op.Admits rent programId account := by
  obtain ⟨tokens, hread, hused⟩ := h.exists_read
  have hlength := h.length_eq
  have htaken : ¬ account.IsVacant :=
    Account.not_isVacant_of_length (hlength ▸ Nat.zero_lt_succ 164)
  intro hadmits
  cases op with
  | createAccount => exact htaken hadmits.1
  | fund => exact htaken hadmits
  | openMint => exact absurd (hlength.symm.trans hadmits.2.1) (by decide)
  | openTokenAccount =>
    obtain ⟨-, -, -, blank, hblank, hunused⟩ := hadmits
    obtain rfl : tokens = blank := Option.some.inj (hread.symm.trans hblank)
    exact hused hunused
  | writeRegistry => exact hprogram (hadmits.1.symm.trans h.1)
  | writeRecord => exact absurd (hlength.symm.trans hadmits.2.1) (by decide)

theorem not_admits_of_foreign (hprogram : account.owner ≠ programId)
    (htoken : account.owner ≠ .tokenProgram) (htaken : ¬ account.IsVacant) :
    ¬ op.Admits rent programId account := by
  intro hadmits
  cases op with
  | createAccount => exact htaken hadmits.1
  | fund => exact htaken hadmits
  | openMint | openTokenAccount => exact htoken hadmits.1
  | writeRegistry | writeRecord => exact hprogram hadmits.1

theorem not_admits_of_hasHeader (htoken : account.owner ≠ .tokenProgram) (h : account.HasHeader) :
    ¬ op.Admits rent programId account := by
  intro hadmits
  cases op with
  | createAccount => exact h.not_isVacant hadmits.1
  | fund => exact h.not_isVacant hadmits
  | openMint | openTokenAccount => exact htoken hadmits.1
  | writeRegistry => exact h hadmits.2.2
  | writeRecord => exact h (Bytes.isBlank_take hadmits.2.2 _)

theorem not_admits_of_sealed (hprogram : programId ≠ .tokenProgram)
    (h : account.Sealed programId) : ¬ op.Admits rent programId account := by
  rcases h with hmint | htokens | ⟨hother, htoken, htaken⟩ | ⟨howner, hheader⟩
  · exact not_admits_of_isMint hmint.2
  · exact not_admits_of_isTokenAccount hprogram htokens
  · exact not_admits_of_foreign hother htoken htaken
  · exact not_admits_of_hasHeader (howner ▸ hprogram) hheader

theorem lamports_le_result (op : Operation) (account : Account) :
    account.lamports ≤ (op.result account).lamports := by
  cases op with
  | createAccount | fund => exact Saturating.le_max_left ..
  | openMint | openTokenAccount | writeRegistry | writeRecord => exact UInt64.le_refl _

/-- What an operation makes of its target. -/
theorem retained_result (hprogram : programId ≠ .tokenProgram) {pays : Prop}
    (h : op.Admits rent programId account) :
    account.Retained programId pays (op.result account) where
  owner_eq htaken := by
    cases op with
    | createAccount => exact absurd h.1 htaken
    | fund => exact absurd h htaken
    | openMint | openTokenAccount | writeRegistry | writeRecord => rfl
  length_eq htaken := by
    cases op with
    | createAccount => exact absurd h.1 htaken
    | fund => exact absurd h htaken
    | openMint | openTokenAccount | writeRegistry | writeRecord =>
      refine length_result_of_isFill ?_ h
      trivial
  lamports_le _ := lamports_le_result op account
  data_eq hsealed := absurd h (not_admits_of_sealed hprogram hsealed)

/-- The step lemma, for any account: it is the target, or it pays, or it is left alone. -/
theorem retained_apply (hprogram : programId ≠ .tokenProgram)
    (hfound : before.find? key = some account)
    (h : op.apply rent programId payer before = .ok after) :
    ∃ kept, after.find? key = some kept ∧ account.Retained programId (key = payer) kept := by
  have hget := Accounts.get_eq_of_find? hfound
  rw [find?_apply h]
  by_cases htarget : key = op.target
  · have hadmits := (apply_eq_ok_iff.mp h).1
    rw [← htarget, hget] at hadmits
    rw [if_pos htarget, hget]
    by_cases hidle : op.IsIdle account
    · rw [if_pos hidle]
      exact ⟨account, hfound, .refl ..⟩
    · rw [if_neg hidle]
      exact ⟨_, rfl, retained_result hprogram hadmits⟩
  · rw [if_neg htarget, Accounts.find?_debited]
    by_cases hpaid : key = payer ∧ op.fundingNeeded before.find? ≠ 0
    · rw [if_pos hpaid, ← hpaid.1, hget]
      exact ⟨_, rfl, .of_pays rfl rfl rfl⟩
    · rw [if_neg hpaid]
      exact ⟨account, hfound, .refl ..⟩

end Operation

/-! ### Batches in a row -/

namespace Account

/-- There is a mint or a token account in use, the record of a pool, or the header of a registry or
anything else that a program other than the token program has written at the front of the data. -/
def IsWritten (account : Account) : Prop :=
  account.IsMint ∨ account.IsTokenAccount ∨ (PoolRecord.ofData? account.data).isSome
    ∨ (account.owner ≠ .tokenProgram ∧ account.HasHeader)

end Account

theorem Operation.not_admits_of_isWritten {op : Operation} {account : Account}
    (hprogram : programId ≠ .tokenProgram) (h : account.IsWritten) :
    ¬ op.Admits rent programId account := by
  rcases h with hmint | htokens | hrecord | ⟨htoken, hheader⟩
  · exact not_admits_of_isMint hmint.2
  · exact not_admits_of_isTokenAccount hprogram htokens
  · exact not_admits_of_isSome hrecord
  · exact not_admits_of_hasHeader htoken hheader

namespace Store

variable {store : Store} {batch : Batch} {batches : List Batch} {key : Key} {account : Account}

theorem retained_submit (hprogram : batch.programId ≠ .tokenProgram)
    (hfound : store.accounts.find? key = some account) :
    ∃ kept, (store.submit batch).2.accounts.find? key = some kept
      ∧ account.Retained batch.programId (key = batch.payer) kept := by
  refine submit_induct (motive := fun accounts => ∃ kept, accounts.find? key = some kept
    ∧ account.Retained batch.programId (key = batch.payer) kept) ?_ ⟨account, hfound, .refl ..⟩
  rintro op - before after ⟨middle, hmiddle, hfirst⟩ happly
  obtain ⟨kept, hkept, hsecond⟩ := Operation.retained_apply hprogram hmiddle happly
  exact ⟨kept, hkept, hfirst.trans hsecond⟩

/-- The store after batches have been submitted one by one, whatever came of each. -/
def submitEach (store : Store) (batches : List Batch) : Store :=
  batches.foldl (fun store batch => (store.submit batch).2) store

theorem holds_submitEach (hprogram : ∀ batch ∈ batches, batch.programId ≠ .tokenProgram)
    (hwritten : account.IsWritten)
    (hholds : store.accounts.Holds key account.owner account.data) :
    (store.submitEach batches).accounts.Holds key account.owner account.data := by
  induction batches generalizing store with
  | nil => exact hholds
  | cons batch rest ih =>
    obtain ⟨hfirst, hrest⟩ := List.forall_mem_cons.mp hprogram
    have hnext : (store.submit batch).2.accounts.Holds key account.owner account.data :=
      submit_induct (fun _ _ _ _ => Operation.holds_apply_of_not_admits fun _ =>
        Operation.not_admits_of_isWritten hfirst hwritten) hholds
    exact ih hrest hnext

/-- An account store of which every account is written once. A batch of any program but the token
program, accepted or not, makes no account disappear; it leaves the owner and the size of what is
taken, the lamports of everybody but its payer, and the data of what is sealed against its program.
And over any number of such batches, of whatever programs, what has been written stays. -/
theorem submit_write_once (store : Store) :
    (∀ batch : Batch, batch.programId ≠ .tokenProgram →
        ∀ key account, store.accounts.find? key = some account →
          ∃ kept, (store.submit batch).2.accounts.find? key = some kept
            ∧ account.Retained batch.programId (key = batch.payer) kept)
      ∧ ∀ batches : List Batch, (∀ batch ∈ batches, batch.programId ≠ .tokenProgram) →
        ∀ key account, store.accounts.find? key = some account → account.IsWritten →
          (store.submitEach batches).accounts.Holds key account.owner account.data :=
  ⟨fun _ hprogram _ _ hfound => retained_submit hprogram hfound,
    fun _ hprogram _ account hfound hwritten =>
      holds_submitEach hprogram hwritten ⟨account, hfound, rfl, rfl⟩⟩

/-! ### A registry that is to be written twice -/

/-- The account of a registry, of a program with the key 9. -/
def writtenRegistry : Account :=
  ⟨0, ((RegistryShape.stakeList 0).header (.ofNat 4)).encode, .ofNat 9⟩

def registered : Store :=
  ((Store.empty none).airdrop (.ofNat 1) 600).setAccount (.ofNat 3) writtenRegistry

/-- The program writes another pool's header over the registry's. -/
def rewriting : Batch :=
  ⟨.ofNat 9, .ofNat 1, [.writeRegistry (.ofNat 3) ((RegistryShape.stakeList 0).header (.ofNat 5))]⟩

def spending : Batch := ⟨.ofNat 9, .ofNat 1, [.fund (.ofNat 2) 250]⟩

theorem submit_write_once_sample :
    registered.accounts.find? (.ofNat 3) = some writtenRegistry
      ∧ writtenRegistry.Sealed rewriting.programId
      ∧ (∃ kept, (registered.submit rewriting).2.accounts.find? (.ofNat 3) = some kept
        ∧ kept.data = writtenRegistry.data)
      ∧ (registered.submitEach [spending, rewriting, spending]).accounts.Holds (.ofNat 3)
        (.ofNat 9) writtenRegistry.data := by
  have hfound : registered.accounts.find? (.ofNat 3) = some writtenRegistry := by decide +kernel
  have hheader : writtenRegistry.HasHeader := by decide +kernel
  have hprogram : ∀ batch ∈ [spending, rewriting, spending], batch.programId ≠ .tokenProgram := by
    decide +kernel
  have hsealed : writtenRegistry.Sealed rewriting.programId := .inr (.inr (.inr ⟨rfl, hheader⟩))
  have hwritten : writtenRegistry.IsWritten := .inr (.inr (.inr ⟨by decide +kernel, hheader⟩))
  obtain ⟨honce, halways⟩ := submit_write_once registered
  obtain ⟨kept, hkept, hretained⟩ := honce rewriting (hprogram _ (by simp)) _ _ hfound
  exact ⟨hfound, hsealed, ⟨kept, hkept, hretained.data_eq hsealed⟩,
    halways _ hprogram _ _ hfound hwritten⟩

end Store

end StakePool
