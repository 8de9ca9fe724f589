import StakePool.Proofs.Chain.Effects
import StakePool.Proofs.Store.WriteOnce
/-!
# When a failure strikes

A store can be told to fail a later submission. Every submission brings the failure nearer, also one
that the store refuses by itself, so the failure strikes after a number of submissions and not after
a number of accepted ones; the two are the same as long as nothing is refused. Where it strikes, it
strikes once and leaves no trace: `submitEach_failAfter` says that the store is then as if the
submission that was struck had not been made.
-/

namespace StakePool

/-! ### Refusals name an account -/

/-- Whoever refuses says which account is to blame. -/
abbrev Except.BlamesAccount {α : Type} (result : Except Rejection α) : Prop :=
  Except.Meets (fun _ => True) (·.address?.isSome) result

namespace Accounts

variable (accounts : Accounts) (rent : Rent) (programId payer address mint owner : Key)

theorem charge_blames (amount : UInt64) : Except.BlamesAccount (accounts.charge payer amount) := by
  simp only [charge]
  split
  · trivial
  split
  · rfl
  · trivial

theorem createAccount_blames (space lamports : UInt64) :
    Except.BlamesAccount (accounts.createAccount rent payer address space lamports owner) := by
  simp only [createAccount]
  split
  · rfl
  split
  · rfl
  · exact (charge_blames ..).map

theorem fund_blames (lamports : UInt64) :
    Except.BlamesAccount (accounts.fund payer address lamports) := by
  simp only [fund]
  split
  · rfl
  split
  · trivial
  · exact (charge_blames ..).map

theorem owned_blames : Except.BlamesAccount (accounts.owned owner address) := by
  rw [owned]
  split
  · rfl
  split
  · trivial
  · rfl

theorem tokenOwned_blames (size : Nat) :
    Except.BlamesAccount (accounts.tokenOwned rent address size) := by
  rw [tokenOwned]
  split
  · next howned => exact (owned_blames ..).of_eq_error howned
  split
  · rfl
  split
  · rfl
  · trivial

theorem openMint_blames (decimals : UInt8) (authority : Key) (freezeAuthority : Option Key) :
    Except.BlamesAccount (accounts.openMint rent mint decimals authority freezeAuthority) := by
  rw [openMint]
  split
  · next howned => exact (tokenOwned_blames ..).of_eq_error howned
  split
  · rfl
  split
  · rfl
  · trivial

theorem openTokenAccount_blames :
    Except.BlamesAccount (accounts.openTokenAccount rent address mint owner) := by
  rw [openTokenAccount]
  split
  · rfl
  split
  · next howned => exact (tokenOwned_blames ..).of_eq_error howned
  split
  · rfl
  split
  · rfl
  · trivial

theorem writeRegistry_blames (header : RegistryHeader) :
    Except.BlamesAccount (accounts.writeRegistry programId address header) := by
  rw [writeRegistry]
  split
  · next howned => exact (owned_blames ..).of_eq_error howned
  split
  · rfl
  split
  · rfl
  · trivial

theorem writeRecord_blames (record : PoolRecord) :
    Except.BlamesAccount (accounts.writeRecord programId address record) := by
  rw [writeRecord]
  split
  · next howned => exact (owned_blames ..).of_eq_error howned
  split
  · rfl
  split
  · rfl
  · trivial

end Accounts

theorem Operation.apply_blames (rent : Rent) (programId payer : Key) (op : Operation)
    (accounts : Accounts) : Except.BlamesAccount (op.apply rent programId payer accounts) := by
  cases op with
  | createAccount => exact Accounts.createAccount_blames ..
  | fund => exact Accounts.fund_blames ..
  | openMint => exact Accounts.openMint_blames ..
  | openTokenAccount => exact Accounts.openTokenAccount_blames ..
  | writeRegistry => exact Accounts.writeRegistry_blames ..
  | writeRecord => exact Accounts.writeRecord_blames ..

theorem Batch.apply_blames (rent : Rent) (batch : Batch) (accounts : Accounts) :
    Except.BlamesAccount (batch.apply rent accounts) := by
  obtain ⟨programId, payer, operations⟩ := batch
  induction operations generalizing accounts with
  | nil => trivial
  | cons op rest ih => exact (op.apply_blames rent programId payer accounts).bind fun _ _ => ih _

namespace Store

variable {store : Store} {batch : Batch} {batches : List Batch} {skipped : Nat}

theorem execute_ne_injected : store.execute batch ≠ .error (.unavailable .injected) := by
  rw [execute]
  split
  · simp
  · intro h
    exact absurd ((batch.apply_blames store.rent store.accounts).of_eq_error h) (by decide)

/-! ### With and without the failure -/

/-- The store with no failure to come. -/
def disarmed (store : Store) : Store := { store with failureIn := none }

/-- A submission that is spared goes as it would with no failure to come, and brings the failure
nearer whether it is accepted or not. -/
theorem submit_of_spared (h : store.failureIn ≠ some 0) :
    store.submit batch = ((store.disarmed.submit batch).1,
      { (store.disarmed.submit batch).2 with failureIn := store.failureIn.map (· - 1) }) := by
  have hnone : store.disarmed.failureIn ≠ some 0 := by simp [disarmed]
  cases hresult : store.execute batch with
  | ok accounts => rw [submit_of_execute_ok h hresult, submit_of_execute_ok hnone hresult]; rfl
  | error rejection =>
    rw [submit_of_execute_error h hresult, submit_of_execute_error hnone hresult]; rfl

theorem submit_eq_injected_iff :
    (store.submit batch).1 = .error (.unavailable .injected) ↔ store.failureIn = some 0 := by
  constructor
  · intro h
    refine Decidable.byContradiction fun hspared => ?_
    cases hresult : store.execute batch with
    | ok accounts => simp [submit_of_execute_ok hspared hresult] at h
    | error rejection =>
      rw [submit_of_execute_error hspared hresult] at h
      exact execute_ne_injected (hresult.trans (congrArg _ (Except.error.inj h)))
  · intro h
    rw [submit_of_failureIn_zero h]

theorem disarmed_submit (store : Store) (batch : Batch) :
    (store.disarmed.submit batch).2.disarmed = (store.disarmed.submit batch).2 := by
  rw [submit_of_spared (by simp [disarmed])]
  rfl

theorem disarmed_submitEach (store : Store) (batches : List Batch) :
    (store.disarmed.submitEach batches).disarmed = store.disarmed.submitEach batches := by
  induction batches generalizing store with
  | nil => rfl
  | cons batch rest ih =>
    have hrest := ih (store.disarmed.submit batch).2
    rwa [disarmed_submit] at hrest

/-- The run lemma: after the failure everything is as if the submission that it struck had not been
made, and before it only the failure is still to come. -/
theorem submitEach_failAfter (store : Store) (skipped : Nat) (batches : List Batch) :
    (store.failAfter skipped).submitEach batches
      = if skipped < batches.length then store.disarmed.submitEach (batches.eraseIdx skipped)
        else (store.disarmed.submitEach batches).failAfter (skipped - batches.length) := by
  induction batches generalizing store skipped with
  | nil => rfl
  | cons batch rest ih =>
    cases skipped with
    | zero => rfl
    | succ skipped =>
      have hnext : ((store.failAfter (skipped + 1)).submit batch).2
          = (store.disarmed.submit batch).2.failAfter skipped := by
        rw [submit_of_spared (by simp [failAfter])]
        rfl
      change (((store.failAfter (skipped + 1)).submit batch).2).submitEach rest = _
      rw [hnext, ih, disarmed_submit, List.eraseIdx_cons_succ, List.length_cons,
        Nat.add_sub_add_right]
      simp only [Nat.add_lt_add_iff_right]
      rfl

theorem disarmed_submitEach_failAfter :
    ((store.failAfter skipped).submitEach batches).disarmed
      = store.disarmed.submitEach (batches.eraseIdx skipped) := by
  rw [submitEach_failAfter]
  split
  · exact disarmed_submitEach ..
  · next hshort =>
    rw [List.eraseIdx_of_length_le (Nat.le_of_not_lt hshort)]
    exact disarmed_submitEach ..

theorem failureIn_submitEach_failAfter :
    ((store.failAfter skipped).submitEach batches).failureIn = some 0
      ↔ batches.length = skipped := by
  rw [submitEach_failAfter]
  split
  · next hlong =>
    rw [← disarmed_submitEach]
    simp [disarmed, Nat.ne_of_gt hlong]
  · next hshort =>
    simp only [failAfter, Option.some.injEq]
    omega

/-! ### Accepted submissions -/

/-- What the store says to each of a number of batches that are submitted one by one. -/
def answers (store : Store) : List Batch → List (Except Rejection UInt64)
  | [] => []
  | batch :: rest => (store.submit batch).1 :: (store.submit batch).2.answers rest

@[simp]
theorem length_answers (store : Store) (batches : List Batch) :
    (store.answers batches).length = batches.length := by
  induction batches generalizing store with
  | nil => rfl
  | cons batch rest ih => simp [answers, ih]

/-- Nothing has been refused. -/
def AcceptsEach (store : Store) (batches : List Batch) : Prop :=
  ∀ answer ∈ store.answers batches, answer.isOk

instance (store : Store) (batches : List Batch) : Decidable (store.AcceptsEach batches) :=
  inferInstanceAs (Decidable (∀ answer ∈ store.answers batches, answer.isOk))

def acceptedAmong (store : Store) (batches : List Batch) : Nat :=
  (store.answers batches).countP (·.isOk)

theorem acceptedAmong_le_length : store.acceptedAmong batches ≤ batches.length :=
  store.length_answers batches ▸ List.countP_le_length

theorem acceptedAmong_eq_length_iff :
    store.acceptedAmong batches = batches.length ↔ store.AcceptsEach batches := by
  rw [acceptedAmong, ← store.length_answers batches, List.countP_eq_length]
  rfl

/-- What is submitted next is the first that comes after a number of accepted batches. -/
structure ComesFirstAfter (store : Store) (count : Nat) (earlier : List Batch) : Prop where
  reached : store.acceptedAmong earlier = count
  first : ∀ shorter, shorter <+: earlier → shorter ≠ earlier → store.acceptedAmong shorter < count

theorem AcceptsEach.comesFirstAfter (h : store.AcceptsEach batches) :
    store.ComesFirstAfter batches.length batches where
  reached := acceptedAmong_eq_length_iff.mpr h
  first shorter hbefore hne := by
    have hshorter : shorter.length < batches.length :=
      Nat.lt_of_le_of_ne hbefore.length_le fun heq => hne (hbefore.eq_of_length heq)
    exact Nat.lt_of_le_of_lt acceptedAmong_le_length hshorter

/-- **Where the failure strikes.** A store is told to fail after a number of submissions, and batches
are submitted to it one by one, some of which it may refuse by itself. The failure then strikes one
submission, the one that comes after that number of others, accepted or not. It leaves the store as
it was but for the failure, which does not come again; and but for the failure, the store and its
answers are at all times as if the submission that is struck were not made. So the submission that is
struck is the first to come after that number of accepted ones exactly if nothing has been refused
before, and the first to come after that number of accepted ones is struck exactly then. -/
theorem failAfter_strikes (store : Store) (skipped : Nat) (earlier : List Batch) (batch : Batch) :
    let start := store.failAfter skipped
    let now := start.submitEach earlier
    let spared := store.disarmed.submitEach (earlier.eraseIdx skipped)
    let Struck := (now.submit batch).1 = .error (.unavailable .injected)
    (Struck ↔ earlier.length = skipped)
      ∧ now.disarmed = spared
      ∧ (Struck → (now.submit batch).2 = spared)
      ∧ (¬ Struck → (now.submit batch).1 = (spared.submit batch).1)
      ∧ (Struck → (start.ComesFirstAfter skipped earlier ↔ start.AcceptsEach earlier))
      ∧ (start.ComesFirstAfter skipped earlier → (Struck ↔ start.AcceptsEach earlier)) := by
  intro start now spared Struck
  have hstruck : Struck ↔ now.failureIn = some 0 := submit_eq_injected_iff
  have hlength : Struck ↔ earlier.length = skipped :=
    hstruck.trans failureIn_submitEach_failAfter
  have hdisarmed : now.disarmed = spared := disarmed_submitEach_failAfter
  have haccepts (hfirst : start.ComesFirstAfter skipped earlier) :
      earlier.length = skipped ↔ start.AcceptsEach earlier := by
    rw [← acceptedAmong_eq_length_iff, hfirst.reached, eq_comm]
  refine ⟨hlength, hdisarmed, fun h => ?_, fun h => ?_, fun h => ⟨fun hfirst => ?_, fun hall => ?_⟩,
    fun hfirst => hlength.trans (haccepts hfirst)⟩
  · rw [submit_of_failureIn_zero (hstruck.mp h), ← hdisarmed]
    rfl
  · rw [submit_of_spared fun hzero => h (hstruck.mpr hzero), hdisarmed]
  · exact (haccepts hfirst).mp (hlength.mp h)
  · exact hlength.mp h ▸ hall.comesFirstAfter

/-! ### A payer that cannot pay -/

/-- The key 1 has 600 lamports. -/
def funded : Store := (Store.empty none).airdrop (.ofNat 1) 600

/-- The payer gives more than it has. -/
def overdraft : Batch := ⟨.ofNat 9, .ofNat 1, [.fund (.ofNat 2) 1000]⟩

/-- The second submission is struck, after one that is refused and after one that is accepted. -/
theorem failAfter_strikes_samples :
    ((((funded.failAfter 1).submitEach [overdraft]).submit spending).1
          = .error (.unavailable .injected)
        ∧ (((funded.failAfter 1).submitEach [overdraft]).submit spending).2
          = funded.disarmed.submitEach [overdraft]
        ∧ ¬ (funded.failAfter 1).ComesFirstAfter 1 [overdraft])
      ∧ (((funded.failAfter 1).submitEach [spending]).submit spending).1
          = .error (.unavailable .injected)
        ∧ (funded.failAfter 1).ComesFirstAfter 1 [spending] := by
  have hrefused : ¬ (funded.failAfter 1).AcceptsEach [overdraft] := by decide +kernel
  have haccepted : (funded.failAfter 1).AcceptsEach [spending] := by decide +kernel
  obtain ⟨hstruck, -, hkept, -, hfirst, -⟩ := failAfter_strikes funded 1 [overdraft] spending
  obtain ⟨hstruck', -, -, -, hfirst', -⟩ := failAfter_strikes funded 1 [spending] spending
  have h := hstruck.mpr rfl
  have h' := hstruck'.mpr rfl
  exact ⟨⟨h, hkept h, fun hcount => hrefused ((hfirst h).mp hcount)⟩, h', (hfirst' h').mpr haccepted⟩

/-- The failure strikes although no submission has been accepted yet. -/
theorem not_forall_strikes_first :
    ¬ ∀ (store : Store) (skipped : Nat) (earlier : List Batch) (batch : Batch),
      (((store.failAfter skipped).submitEach earlier).submit batch).1
          = .error (.unavailable .injected)
        ↔ (store.failAfter skipped).ComesFirstAfter skipped earlier := by
  intro h
  have hstruck : (((funded.failAfter 1).submitEach [overdraft]).submit spending).1
      = .error (.unavailable .injected) := submit_eq_injected_iff.mpr (by decide +kernel)
  have hnone : (funded.failAfter 1).acceptedAmong [overdraft] = 0 := by decide +kernel
  have hfirst := (h funded 1 [overdraft] spending).mp hstruck
  exact absurd (hnone.symm.trans hfirst.reached) (by decide)

end Store

end StakePool
