import StakePool.Proofs.AddressBook
import StakePool.Proofs.Operation.Progress
import StakePool.Proofs.Store.Submission
/-!
# Who falls below the rent

An account with data begins with a balance that is exempt from rent, and nothing but paying for
others takes lamports away again. What a payer can afford is asked of its balance alone: that it may
have data of its own, which has to stay covered, is not looked at. `isExempt_apply_iff` says what
one operation does to an account. So an account keeps its exemption through all the airdrops and
submissions of a store exactly as long as it never pays, in a batch that is accepted, more than it
can spare.
-/

namespace StakePool

variable {rent : Rent} {programId payer key : Key}

namespace Account

/-- The balance covers the rent of the data, if there is any. -/
def IsExempt (rent : Rent) (account : Account) : Prop :=
  account.data ≠ [] → rent.IsExempt account.lamports account.data.length

instance (account : Account) : Decidable (account.IsExempt rent) :=
  inferInstanceAs (Decidable (_ → _))

variable {account before after : Account}

theorem isExempt_of_data_eq_nil (h : account.data = []) : account.IsExempt rent :=
  fun hdata => absurd h hdata

theorem isExempt_congr (hlamports : after.lamports = before.lamports)
    (hlength : after.data.length = before.data.length) :
    after.IsExempt rent ↔ before.IsExempt rent := by
  simp only [IsExempt, ne_eq, ← List.length_eq_zero_iff, hlamports, hlength]

theorem IsExempt.mono (h : before.IsExempt rent) (hdata : after.data = before.data)
    (hlamports : before.lamports ≤ after.lamports) : after.IsExempt rent := by
  intro hsome
  rw [hdata] at hsome ⊢
  exact UInt64.le_trans (h hsome) hlamports

end Account

namespace Operation

variable {op : Operation} {target : Account} {before after : Accounts}

/-- What the charge leaves to the payer does not cover the payer's own data. -/
def Overdraws (rent : Rent) (payer : Key) (op : Operation) (accounts : Accounts) : Prop :=
  let account := accounts.get payer
  ¬ Account.IsExempt rent
    { account with lamports := account.lamports - op.fundingNeeded accounts.find? }

theorem isExempt_result_iff (h : op.Admits rent programId target) :
    (op.result target).IsExempt rent ↔ target.IsExempt rent := by
  cases op with
  | createAccount slot address space lamports owner =>
    refine iff_of_true (fun _ => ?_) (Account.isExempt_of_data_eq_nil h.1.1)
    rw [result, Bytes.length_zeros]
    exact h.2
  | fund =>
    exact iff_of_true (Account.isExempt_of_data_eq_nil h.1) (Account.isExempt_of_data_eq_nil h.1)
  | openMint | openTokenAccount | writeRegistry | writeRecord =>
    refine Account.isExempt_congr rfl (length_result_of_isFill ?_ h)
    trivial

theorem not_overdraws_of_target (h : op.Admits rent programId (before.get op.target))
    (hself : op.target = payer) (hexempt : (before.get payer).IsExempt rent) :
    ¬ op.Overdraws rent payer before := by
  rw [Overdraws, Decidable.not_not]
  subst hself
  cases op with
  | createAccount => exact Account.isExempt_of_data_eq_nil h.1.1
  | fund => exact Account.isExempt_of_data_eq_nil h.1
  | openMint | openTokenAccount | writeRegistry | writeRecord =>
    exact hexempt.mono rfl (UInt64.le_of_eq (UInt64.sub_zero _).symm)

/-- The step lemma: an account is exempt afterwards exactly if it was so before and has not been
drawn on for more than it can spare. -/
theorem isExempt_apply_iff (h : op.apply rent programId payer before = .ok after) :
    (after.get key).IsExempt rent
      ↔ (before.get key).IsExempt rent ∧ ¬ (payer = key ∧ op.Overdraws rent payer before) := by
  obtain ⟨hadmits, -, hpaid, -⟩ := apply_eq_ok_iff.mp h
  by_cases htarget : key = op.target
  · subst htarget
    rw [get_apply_target h, isExempt_result_iff hadmits, iff_self_and]
    rintro hexempt ⟨rfl, hoverdraws⟩
    exact not_overdraws_of_target hadmits rfl hexempt hoverdraws
  rw [get_apply_of_ne h htarget]
  by_cases hpays : key = payer
  · subst hpays
    simp only [Overdraws, if_true, true_and, Decidable.not_not, iff_and_self]
    exact fun hleft => hleft.mono rfl (UInt64.sub_le hpaid)
  · rw [if_neg hpays, iff_self_and]
    exact fun _ hboth => hpays hboth.1.symm

end Operation

namespace Batch

variable {batch : Batch} {before after : Accounts}

/-- When the turn of some operation comes, it charges the payer more than the payer can spare. -/
def Overdraws (rent : Rent) (batch : Batch) (accounts : Accounts) : Prop :=
  batch.Encounters rent (fun op => op.Overdraws rent batch.payer) accounts

theorem isExempt_apply_iff (h : batch.apply rent before = .ok after) :
    (after.get key).IsExempt rent
      ↔ (before.get key).IsExempt rent
        ∧ ¬ (batch.payer = key ∧ batch.Overdraws rent before) := by
  obtain ⟨programId, payer, operations⟩ := batch
  unfold Overdraws
  induction operations generalizing before with
  | nil =>
    obtain rfl := Except.ok.inj h
    exact (and_iff_left fun hboth => not_encounters_nil hboth.2).symm
  | cons op rest ih =>
    obtain ⟨middle, hop, hrest⟩ := apply_cons_eq_ok_iff.mp h
    rw [ih hrest, Operation.isExempt_apply_iff hop, encounters_cons_iff hop, and_assoc, ← not_or,
      ← and_or_left]

end Batch

namespace Store

variable {store : Store} {batch : Batch}

/-- The account at the key, if it has data, covers the rent that the store asks for it. -/
def ExemptAt (store : Store) (key : Key) : Prop := (store.accounts.get key).IsExempt store.rent

/-- What is done to a store from outside. -/
inductive Action where
  | airdrop (address : Key) (lamports : UInt64)
  | submit (batch : Batch)

/-- The store after an action, accepted or not. -/
def act (store : Store) : Action → Store
  | .airdrop address lamports => store.airdrop address lamports
  | .submit batch => (store.submit batch).2

def after (store : Store) (actions : List Action) : Store := actions.foldl act store

def Action.payer? : Action → Option Key
  | .airdrop .. => none
  | .submit batch => some batch.payer

/-- A batch is accepted that charges its payer, the account at the key, more than it can spare. -/
def Action.Overdraws (store : Store) (key : Key) : Action → Prop
  | .airdrop .. => False
  | .submit batch =>
    (store.submit batch).1.isOk ∧ batch.payer = key ∧ batch.Overdraws store.rent store.accounts

theorem Action.not_overdraws {action : Action} (h : action.payer? ≠ some key) :
    ¬ action.Overdraws store key := by
  cases action with
  | airdrop => exact not_false
  | submit batch => exact fun hoverdraws => h (congrArg some hoverdraws.2.1)

theorem exemptAt_airdrop (h : store.ExemptAt key) (address : Key) (lamports : UInt64) :
    (store.airdrop address lamports).ExemptAt key := by
  have hgrown := grown_airdrop store address lamports key
  exact Account.IsExempt.mono h hgrown.data_eq hgrown.lamports_le

theorem exemptAt_submit_iff :
    (store.submit batch).2.ExemptAt key
      ↔ store.ExemptAt key ∧ ¬ (Action.submit batch).Overdraws store key := by
  obtain ⟨accounts, failureIn, hexecute, hsubmit⟩ | ⟨rejection, failureIn, hsubmit⟩ :=
    submit_cases store batch
  · simp only [ExemptAt, Action.Overdraws, hsubmit, Except.isOk, Except.toBool, true_and]
    exact Batch.isExempt_apply_iff (execute_eq_ok_iff.mp hexecute).2
  · simp [ExemptAt, Action.Overdraws, hsubmit, Except.isOk, Except.toBool]

/-- An account that is exempt loses its exemption by being overdrawn and by nothing else. -/
theorem exemptAt_act_iff (h : store.ExemptAt key) (action : Action) :
    (store.act action).ExemptAt key ↔ ¬ action.Overdraws store key := by
  cases action with
  | airdrop address lamports => exact iff_of_true (exemptAt_airdrop h address lamports) not_false
  | submit batch => exact exemptAt_submit_iff.trans (and_iff_right h)

/-- The run lemma: the exemption lasts exactly until the account is overdrawn. -/
theorem exemptAt_after_iff (h : store.ExemptAt key) (actions : List Action) :
    (∀ earlier, earlier <+: actions → (store.after earlier).ExemptAt key)
      ↔ ∀ earlier action later, actions = earlier ++ action :: later →
        ¬ action.Overdraws (store.after earlier) key := by
  -- Both sides speak of the first action, which decides whether the rest begins exempt.
  induction actions generalizing store with
  | nil => simp [after, h]
  | cons first rest ih =>
    constructor
    · intro hlasts earlier action later hsplit
      have hnext : (store.act first).ExemptAt key := hlasts [first] (by simp)
      obtain ⟨rfl, hsame⟩ | ⟨earlier, rfl, rfl⟩ := List.cons_eq_append_iff.mp hsplit
      · obtain ⟨rfl, rfl⟩ := List.cons.inj hsame
        exact (exemptAt_act_iff h _).mp hnext
      · refine (ih hnext).mp (fun reached hreached => ?_) earlier action later rfl
        exact hlasts (first :: reached) (List.cons_prefix_cons.mpr ⟨rfl, hreached⟩)
    · intro hspared earlier hearlier
      obtain rfl | ⟨earlier, rfl, hrest⟩ := List.prefix_cons_iff.mp hearlier
      · exact h
      · have hnext := (exemptAt_act_iff h first).mpr (hspared [] first rest rfl)
        refine (ih hnext).mpr (fun reached action later hsplit => ?_) earlier hrest
        exact hspared (first :: reached) action later (by rw [hsplit, List.cons_append])

theorem exemptAt_after_of_payer_ne {actions : List Action} (h : store.ExemptAt key)
    (hpayer : ∀ action ∈ actions, action.payer? ≠ some key) :
    ∀ earlier, earlier <+: actions → (store.after earlier).ExemptAt key :=
  (exemptAt_after_iff h actions).mpr fun _ action _ hsplit =>
    Action.not_overdraws (hpayer action (hsplit ▸ by simp))

/-- **Exemption from rent.** In a new store, with any rent and with or without a limit on batches,
let lamports be given out and batches be submitted in any order. An account is exempt at every
moment, as far as it has data, exactly if no accepted batch ever charges it more than it can spare.
So it can lose its exemption only by paying, and it does lose it whenever it pays too much. -/
theorem exempt_throughout_iff (rent : Rent) (limit : Option Nat) (actions : List Action)
    (key : Key) :
    let start : Store := { Store.empty limit with rent }
    (∀ earlier, earlier <+: actions → (start.after earlier).ExemptAt key)
      ↔ ∀ earlier action later, actions = earlier ++ action :: later →
        ¬ action.Overdraws (start.after earlier) key :=
  exemptAt_after_iff (Account.isExempt_of_data_eq_nil rfl) actions

/-! ### An account that is opened with the least balance and then pays -/

/-- The account 2 gets 16 bytes and the balance that exempts them. -/
def lodging : Batch :=
  ⟨.ofNat 9, .ofNat 1, [.createAccount .config (.ofNat 2) 16 1002240 (.ofNat 9)]⟩

/-- It has nothing to spare, and is to pay all the same. -/
def evicting : Batch := ⟨.ofNat 9, .ofNat 2, [.fund (.ofNat 3) 100]⟩

def moveIn : List Action := [.airdrop (.ofNat 1) 2000000, .submit lodging]

def eviction : List Action := moveIn ++ [.submit evicting]

theorem after_eviction :
    let final := (Store.empty none).after eviction
    final.submitted = 2 ∧ (final.accounts.get (.ofNat 2)).data.length = 16
      ∧ (final.accounts.get (.ofNat 2)).lamports = 1002140
      ∧ final.rent.minimumBalance 16 = 1002240 := by
  decide +kernel

theorem not_exemptAt_after_eviction :
    ¬ ((Store.empty none).after eviction).ExemptAt (.ofNat 2) := by
  obtain ⟨-, hlength, hbalance, hminimum⟩ := after_eviction
  intro hexempt
  have hcovered := hexempt (List.ne_nil_of_length_pos (hlength ▸ Nat.zero_lt_succ 15))
  rw [Rent.IsExempt, hlength, hbalance, hminimum] at hcovered
  exact absurd hcovered (by decide)

/-- The account is exempt as long as somebody else pays, and then it is overdrawn. -/
theorem exempt_throughout_moveIn :
    (∀ earlier, earlier <+: moveIn → ((Store.empty none).after earlier).ExemptAt (.ofNat 2))
      ∧ ∃ earlier action later, eviction = earlier ++ action :: later
        ∧ action.Overdraws ((Store.empty none).after earlier) (.ofNat 2) := by
  constructor
  · have hpayer : ∀ action ∈ moveIn, action.payer? ≠ some (.ofNat 2) := by decide +kernel
    exact (exempt_throughout_iff .standard none moveIn (.ofNat 2)).mpr
      fun _ action _ hsplit => Action.not_overdraws (hpayer action (hsplit ▸ by simp))
  · refine Classical.byContradiction fun hnever => ?_
    refine not_exemptAt_after_eviction
      ((exempt_throughout_iff .standard none eviction (.ofNat 2)).mpr ?_ eviction List.prefix_rfl)
    exact fun earlier action later hsplit hoverdraws =>
      hnever ⟨earlier, action, later, hsplit, hoverdraws⟩

/-- Not all accounts with data are exempt in all stores that can be reached. -/
theorem not_forall_exemptAt :
    ¬ ∀ (rent : Rent) (limit : Option Nat) (actions : List Action) (key : Key),
      (Store.after { Store.empty limit with rent } actions).ExemptAt key :=
  fun hexempt => not_exemptAt_after_eviction (hexempt .standard none eviction (.ofNat 2))

end Store

end StakePool
