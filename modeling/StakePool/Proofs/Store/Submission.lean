import StakePool.Chunks
import StakePool.Proofs.Operation.Effect
import StakePool.Store
/-!
# Batches and submissions

What a store makes of batches submitted one after another. Without an injected failure in the way,
batches that keep the limit are accepted exactly when all their operations go through in order,
wherever the batches begin and end; a failure cuts the sequence before the batch it strikes. What
every single operation keeps, a batch keeps, and a submission, and a sequence of them.
-/

namespace StakePool

variable {rent : Rent} {programId payer : Key}

namespace Batch

variable {before after : Accounts} {op : Operation} {xs ys : List Operation}

theorem apply_cons :
    (Batch.mk programId payer (op :: xs)).apply rent before
      = op.apply rent programId payer before >>= (Batch.mk programId payer xs).apply rent := rfl

theorem apply_append :
    (Batch.mk programId payer (xs ++ ys)).apply rent before
      = (Batch.mk programId payer xs).apply rent before
          >>= (Batch.mk programId payer ys).apply rent :=
  List.foldlM_append

theorem apply_cons_eq_ok_iff :
    (Batch.mk programId payer (op :: xs)).apply rent before = .ok after ↔
      ∃ middle, op.apply rent programId payer before = .ok middle
        ∧ (Batch.mk programId payer xs).apply rent middle = .ok after := by
  rw [apply_cons, Except.bind_eq_ok_iff]

theorem apply_append_eq_ok_iff :
    (Batch.mk programId payer (xs ++ ys)).apply rent before = .ok after ↔
      ∃ middle, (Batch.mk programId payer xs).apply rent before = .ok middle
        ∧ (Batch.mk programId payer ys).apply rent middle = .ok after := by
  rw [apply_append, Except.bind_eq_ok_iff]

/-- What no operation of a batch disturbs, the batch keeps. -/
theorem apply_induct {batch : Batch} {motive : Accounts → Prop}
    (hstep : ∀ op ∈ batch.operations, ∀ before after, motive before →
      op.apply rent batch.programId batch.payer before = .ok after → motive after)
    (hbefore : motive before) (h : batch.apply rent before = .ok after) : motive after := by
  obtain ⟨programId, payer, operations⟩ := batch
  induction operations generalizing before with
  | nil =>
    obtain rfl := Except.ok.inj h
    exact hbefore
  | cons op rest ih =>
    obtain ⟨middle, hop, hrest⟩ := apply_cons_eq_ok_iff.mp h
    have hmiddle := hstep op List.mem_cons_self before middle hbefore hop
    exact ih hmiddle (fun op hop => hstep op (List.mem_cons_of_mem _ hop)) hrest

theorem find?_apply_of_ne {batch : Batch} {key : Key}
    (htarget : ∀ op ∈ batch.operations, key ≠ op.target) (hpayer : key ≠ batch.payer)
    (h : batch.apply rent before = .ok after) : after.find? key = before.find? key :=
  apply_induct (motive := fun accounts => accounts.find? key = before.find? key)
    (fun op hop _ _ hsame happly =>
      (Operation.find?_apply_of_ne happly (htarget op hop) hpayer).trans hsame) rfl h

/-- When the turn of some operation comes, it meets the accounts as described. -/
def Encounters (rent : Rent) (meets : Operation → Accounts → Prop) (batch : Batch)
    (accounts : Accounts) : Prop :=
  ∃ earlier op later middle, batch.operations = earlier ++ op :: later
    ∧ (Batch.mk batch.programId batch.payer earlier).apply rent accounts = .ok middle
    ∧ meets op middle

variable {meets : Operation → Accounts → Prop}

theorem not_encounters_nil : ¬ (Batch.mk programId payer []).Encounters rent meets before := by
  rintro ⟨earlier, op, later, -, hsplit, -⟩
  simp at hsplit

theorem encounters_cons_iff {middle : Accounts}
    (h : op.apply rent programId payer before = .ok middle) :
    (Batch.mk programId payer (op :: xs)).Encounters rent meets before ↔
      meets op before ∨ (Batch.mk programId payer xs).Encounters rent meets middle := by
  constructor
  · rintro ⟨earlier, other, later, reached, hsplit, happly, hmeets⟩
    cases earlier with
    | nil =>
      obtain ⟨rfl, -⟩ := List.cons.inj hsplit
      obtain rfl := Except.ok.inj happly
      exact .inl hmeets
    | cons first earlier =>
      obtain ⟨rfl, rfl⟩ := List.cons.inj hsplit
      obtain ⟨next, hfirst, hrest⟩ := apply_cons_eq_ok_iff.mp happly
      obtain rfl := Except.ok.inj (h.symm.trans hfirst)
      exact .inr ⟨earlier, other, later, reached, rfl, hrest, hmeets⟩
  · rintro (hmeets | ⟨earlier, other, later, reached, rfl, hrest, hmeets⟩)
    · exact ⟨[], op, xs, before, rfl, rfl, hmeets⟩
    · exact ⟨op :: earlier, other, later, reached, rfl, apply_cons_eq_ok_iff.mpr ⟨middle, h, hrest⟩,
        hmeets⟩

/-- The accounts after a sequence of batches, or why the first that is refused is refused. -/
def applyAll (rent : Rent) (batches : List Batch) (accounts : Accounts) :
    Except Rejection Accounts :=
  batches.foldlM (fun accounts batch => batch.apply rent accounts) accounts

theorem applyAll_cons {batch : Batch} {rest : List Batch} :
    applyAll rent (batch :: rest) before = batch.apply rent before >>= applyAll rent rest := rfl

theorem applyAll_cons_eq_ok_iff {batch : Batch} {rest : List Batch} :
    applyAll rent (batch :: rest) before = .ok after ↔
      ∃ middle, batch.apply rent before = .ok middle ∧ applyAll rent rest middle = .ok after := by
  rw [applyAll_cons, Except.bind_eq_ok_iff]

/-- Where the batches of one payer begin and end makes no difference to the accounts. -/
theorem applyAll_map_mk (parts : List (List Operation)) :
    applyAll rent (parts.map (Batch.mk programId payer)) before
      = (Batch.mk programId payer parts.flatten).apply rent before := by
  induction parts generalizing before with
  | nil => rfl
  | cons part rest ih =>
    rw [List.map_cons, applyAll_cons, List.flatten_cons, apply_append]
    congr 1
    funext middle
    exact ih

end Batch

/-- An account has been given lamports, if anything. -/
structure Account.Grown (before after : Account) : Prop where
  owner_eq : after.owner = before.owner
  data_eq : after.data = before.data
  lamports_le : before.lamports ≤ after.lamports

theorem Account.Grown.refl (account : Account) : account.Grown account :=
  ⟨rfl, rfl, UInt64.le_refl _⟩

namespace Store

variable {store : Store} {batch : Batch} {batches : List Batch}

/-! ### Lamports from nowhere -/

theorem grown_airdrop (store : Store) (address : Key) (lamports : UInt64) (key : Key) :
    (store.accounts.get key).Grown ((store.airdrop address lamports).accounts.get key) := by
  rw [airdrop, setAccount]
  by_cases hkey : key = address
  · subst hkey
    rw [Accounts.get_insert_self]
    exact ⟨rfl, rfl, Saturating.le_add64 ..⟩
  · rw [Accounts.get_insert_of_ne _ _ hkey]
    exact .refl _

theorem exists_find?_airdrop {key : Key} {account : Account}
    (hfound : store.accounts.find? key = some account) (address : Key) (lamports : UInt64) :
    ∃ after, (store.airdrop address lamports).accounts.find? key = some after
      ∧ account.Grown after := by
  by_cases hkey : key = address
  · subst hkey
    refine ⟨_, Accounts.find?_insert_self .., ?_⟩
    rw [Accounts.get_eq_of_find? hfound]
    exact ⟨rfl, rfl, Saturating.le_add64 ..⟩
  · exact ⟨account, (Accounts.find?_insert_of_ne _ _ hkey).trans hfound, .refl account⟩

/-! ### One batch -/

theorem submit_of_failureIn_zero (h : store.failureIn = some 0) :
    store.submit batch = (.error (.unavailable .injected), { store with failureIn := none }) := by
  rw [submit, if_pos h]

theorem submit_of_execute_ok {accounts : Accounts} (hfailure : store.failureIn ≠ some 0)
    (h : store.execute batch = .ok accounts) :
    store.submit batch = (.ok (store.submitted + 1),
      { store with
        accounts
        failureIn := store.failureIn.map (· - 1)
        submitted := store.submitted + 1 }) := by
  rw [submit, if_neg hfailure, h]

theorem submit_of_execute_error {rejection : Rejection} (hfailure : store.failureIn ≠ some 0)
    (h : store.execute batch = .error rejection) :
    store.submit batch
      = (.error rejection, { store with failureIn := store.failureIn.map (· - 1) }) := by
  rw [submit, if_neg hfailure, h]

theorem execute_eq_ok_iff {accounts : Accounts} :
    store.execute batch = .ok accounts ↔
      store.exceeded? batch = none ∧ batch.apply store.rent store.accounts = .ok accounts := by
  unfold execute
  cases store.exceeded? batch <;> simp

/-- The three ways in which a submission can end. -/
theorem submit_cases (store : Store) (batch : Batch) :
    (∃ accounts failureIn, store.execute batch = .ok accounts
        ∧ store.submit batch = (.ok (store.submitted + 1),
          { store with accounts, failureIn, submitted := store.submitted + 1 }))
      ∨ ∃ rejection failureIn,
        store.submit batch = (.error rejection, { store with failureIn }) := by
  by_cases hfailure : store.failureIn = some 0
  · exact .inr ⟨_, _, submit_of_failureIn_zero hfailure⟩
  · cases hexecute : store.execute batch with
    | error rejection => exact .inr ⟨_, _, submit_of_execute_error hfailure hexecute⟩
    | ok accounts => exact .inl ⟨_, _, rfl, submit_of_execute_ok hfailure hexecute⟩

theorem apply_of_submit_eq_ok {number : UInt64} (h : (store.submit batch).1 = .ok number) :
    batch.apply store.rent store.accounts = .ok (store.submit batch).2.accounts := by
  obtain ⟨accounts, failureIn, hexecute, hsubmit⟩ | ⟨rejection, failureIn, hsubmit⟩ :=
    submit_cases store batch
  · rw [hsubmit]
    exact (execute_eq_ok_iff.mp hexecute).2
  · rw [hsubmit] at h
    cases h

theorem submit_of_unlimited (hlimit : store.limit = none) (hfailure : store.failureIn = none)
    (batch : Batch) :
    (∃ after, batch.apply store.rent store.accounts = .ok after
        ∧ (store.submit batch).1 = .ok (store.submitted + 1)
        ∧ (store.submit batch).2.accounts = after)
      ∨ ∃ rejection, batch.apply store.rent store.accounts = .error rejection
        ∧ (store.submit batch).1 = .error rejection := by
  have hspared : store.failureIn ≠ some 0 := by simp [hfailure]
  have hexecute : store.execute batch = batch.apply store.rent store.accounts := by
    simp [execute, exceeded?, hlimit]
  cases happly : batch.apply store.rent store.accounts with
  | ok after =>
    rw [submit_of_execute_ok hspared (hexecute.trans happly)]
    exact .inl ⟨after, rfl, rfl, rfl⟩
  | error rejection =>
    rw [submit_of_execute_error hspared (hexecute.trans happly)]
    exact .inr ⟨rejection, rfl, rfl⟩

theorem submit_terms (store : Store) (batch : Batch) :
    (store.submit batch).2.rent = store.rent ∧ (store.submit batch).2.limit = store.limit := by
  obtain ⟨_, _, -, h⟩ | ⟨_, _, h⟩ := submit_cases store batch <;> simp [h]

/-- What no operation of a batch disturbs, a submission of the batch keeps, accepted or not. -/
theorem submit_induct {motive : Accounts → Prop}
    (hstep : ∀ op ∈ batch.operations, ∀ before after, motive before →
      op.apply store.rent batch.programId batch.payer before = .ok after → motive after)
    (h : motive store.accounts) : motive (store.submit batch).2.accounts := by
  obtain ⟨accounts, _, hexecute, hsubmit⟩ | ⟨_, _, hsubmit⟩ := submit_cases store batch
  · rw [hsubmit]
    exact Batch.apply_induct hstep h (execute_eq_ok_iff.mp hexecute).2
  · rw [hsubmit]
    exact h

/-! ### One batch after another -/

theorem submitAll_cons_of_error {rejection : Rejection} {next : Store}
    (h : store.submit batch = (.error rejection, next)) :
    store.submitAll (batch :: batches)
      = { accepted := [], numbers := [], rejection? := some rejection, store := next } := by
  rw [submitAll, h]

theorem submitAll_cons_of_ok {number : UInt64} {next : Store}
    (h : store.submit batch = (.ok number, next)) :
    store.submitAll (batch :: batches)
      = { next.submitAll batches with
          accepted := batch :: (next.submitAll batches).accepted
          numbers := number :: (next.submitAll batches).numbers } := by
  rw [submitAll, h]

theorem submitAll_induct {motive : Accounts → Prop}
    (hstep : ∀ batch ∈ batches, ∀ op ∈ batch.operations, ∀ before after, motive before →
      op.apply store.rent batch.programId batch.payer before = .ok after → motive after)
    (h : motive store.accounts) : motive (store.submitAll batches).store.accounts := by
  induction batches generalizing store with
  | nil => exact h
  | cons batch rest ih =>
    have hnext := submit_induct (hstep batch List.mem_cons_self) h
    have hterms := submit_terms store batch
    cases hsubmit : store.submit batch with
    | mk result next =>
      rw [hsubmit] at hnext hterms
      cases result with
      | error rejection =>
        rw [submitAll_cons_of_error hsubmit]
        exact hnext
      | ok number =>
        rw [submitAll_cons_of_ok hsubmit]
        refine @ih next (fun batch hbatch => ?_) hnext
        rw [hterms.1]
        exact hstep batch (List.mem_cons_of_mem _ hbatch)

theorem applyAll_of_submitAll (h : (store.submitAll batches).rejection? = none) :
    Batch.applyAll store.rent batches store.accounts
      = .ok (store.submitAll batches).store.accounts := by
  induction batches generalizing store with
  | nil => rfl
  | cons batch rest ih =>
    obtain ⟨accounts, failureIn, hexecute, hsubmit⟩ | ⟨_, _, hsubmit⟩ := submit_cases store batch
    · rw [submitAll_cons_of_ok hsubmit] at h ⊢
      rw [Batch.applyAll_cons_eq_ok_iff]
      exact ⟨accounts, (execute_eq_ok_iff.mp hexecute).2, ih h⟩
    · rw [submitAll_cons_of_error hsubmit] at h
      cases h

/-- Batches that keep the limit and go through in order are accepted, unless a failure strikes. -/
theorem submitAll_of_applyAll {after : Accounts}
    (hlimit : ∀ batch ∈ batches, store.exceeded? batch = none)
    (hfailure : ∀ left, store.failureIn = some left → batches.length ≤ left)
    (h : Batch.applyAll store.rent batches store.accounts = .ok after) :
    (store.submitAll batches).rejection? = none
      ∧ (store.submitAll batches).store.accounts = after
      ∧ (store.submitAll batches).store.failureIn
        = store.failureIn.map (· - batches.length) := by
  induction batches generalizing store with
  | nil =>
    obtain rfl := Except.ok.inj h
    exact ⟨rfl, rfl, by simp [submitAll]⟩
  | cons batch rest ih =>
    obtain ⟨middle, hbatch, hrest⟩ := Batch.applyAll_cons_eq_ok_iff.mp h
    have hspared : store.failureIn ≠ some 0 := fun hzero => by
      have := hfailure 0 hzero
      simp at this
    have hsubmit := submit_of_execute_ok hspared
      (execute_eq_ok_iff.mpr ⟨hlimit batch List.mem_cons_self, hbatch⟩)
    rw [submitAll_cons_of_ok hsubmit]
    let next : Store := { store with
      accounts := middle
      failureIn := store.failureIn.map (· - 1)
      submitted := store.submitted + 1 }
    obtain ⟨haccepted, haccounts, hleft⟩ := @ih next
      (fun later hlater => hlimit later (List.mem_cons_of_mem _ hlater))
      (fun left hleft => by
        obtain ⟨earlier, hearlier, rfl⟩ := Option.map_eq_some_iff.mp hleft
        have := hfailure earlier hearlier
        simp only [List.length_cons] at this
        omega)
      hrest
    refine ⟨haccepted, haccounts, ?_⟩
    rw [hleft, Option.map_map]
    congr 1
    funext left
    simp only [Function.comp_apply, List.length_cons]
    omega

theorem submitAll_of_failure {left : Nat} {middle : Accounts}
    (hlimit : ∀ batch ∈ batches, store.exceeded? batch = none)
    (hfailure : store.failureIn = some left) (hleft : left < batches.length)
    (h : Batch.applyAll store.rent (batches.take left) store.accounts = .ok middle) :
    (store.submitAll batches).rejection? = some (.unavailable .injected)
      ∧ (store.submitAll batches).store.accounts = middle
      ∧ (store.submitAll batches).store.failureIn = none := by
  induction batches generalizing store left with
  | nil => cases hleft
  | cons batch rest ih =>
    cases left with
    | zero =>
      obtain rfl := Except.ok.inj h
      rw [submitAll_cons_of_error (submit_of_failureIn_zero hfailure)]
      exact ⟨rfl, rfl, rfl⟩
    | succ left =>
      rw [List.take_succ_cons, Batch.applyAll_cons_eq_ok_iff] at h
      obtain ⟨first, hbatch, hrest⟩ := h
      have hspared : store.failureIn ≠ some 0 := by simp [hfailure]
      have hsubmit := submit_of_execute_ok hspared
        (execute_eq_ok_iff.mpr ⟨hlimit batch List.mem_cons_self, hbatch⟩)
      rw [submitAll_cons_of_ok hsubmit]
      exact ih (fun later hlater => hlimit later (List.mem_cons_of_mem _ hlater))
        (by simp [hfailure]) (Nat.lt_of_succ_lt_succ hleft) hrest

theorem submitAll_terms (store : Store) (batches : List Batch) :
    (store.submitAll batches).store.rent = store.rent
      ∧ (store.submitAll batches).store.limit = store.limit := by
  induction batches generalizing store with
  | nil => exact ⟨rfl, rfl⟩
  | cons batch rest ih =>
    have hterms := submit_terms store batch
    cases hsubmit : store.submit batch with
    | mk result next =>
      rw [hsubmit] at hterms
      cases result with
      | error rejection =>
        rw [submitAll_cons_of_error hsubmit]
        exact hterms
      | ok number =>
        rw [submitAll_cons_of_ok hsubmit]
        have hrest := ih next
        exact ⟨hrest.1.trans hterms.1, hrest.2.trans hterms.2⟩

end Store

end StakePool
