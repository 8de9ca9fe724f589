import StakePool.Proofs.Operation.Readiness
import StakePool.Proofs.Setup.Cost
/-!
# Operations that are bound to go through

What a setup looks at beforehand is enough to carry its operations out. `Feasible` says that of a
list of operations and a collection of accounts: every operation is outstanding, what it needs is
there or comes before it in the list, and the payer can afford them all. Nothing that an operation
changes takes that away from the operations after it, so the only one that can be refused is the
opening of a mint or a token account which somebody had allocated with less than its rent.
-/

namespace StakePool

variable {rent : Rent} {programId payer : Key}

theorem Accounts.tokenOwned_eq_error {accounts : Accounts} {address : Key} {size : Nat}
    (howner : (accounts.get address).owner = .tokenProgram)
    (hlength : (accounts.get address).data.length = size) (hpositive : 0 < size)
    (hpoor : ¬ rent.IsExempt (accounts.get address).lamports (accounts.get address).data.length) :
    accounts.tokenOwned rent address size = .error (.notRentExempt address) := by
  have hfound := accounts.find?_of_length_pos (hlength.symm ▸ hpositive)
  have howned : accounts.owned .tokenProgram address = .ok (accounts.get address) :=
    owned_eq_ok_iff.mpr ⟨hfound, howner⟩
  rw [tokenOwned, howned]
  simp only [hlength] at hpoor
  simp [hlength, hpoor]

namespace Operation

variable {op other : Operation} {before after : Accounts} {operations rest : List Operation}

/-- The operation opens an account of the token program. -/
def IsOpening : Operation → Prop
  | openMint .. | openTokenAccount .. => True
  | createAccount .. | fund .. | writeRegistry .. | writeRecord .. => False

/-- The first operation opens the mint of the token account that the second opens. -/
def OpensMintFor : Operation → Operation → Prop
  | openMint mint .., openTokenAccount _ needed _ => mint = needed
  | _, _ => False

/-- A created account is given what exempts it from rent. -/
def Exempts (rent : Rent) : Operation → Prop
  | createAccount _ _ space lamports _ => rent.IsExempt lamports space.toNat
  | _ => True

/-- The target is vacant, or just as far as the operation before this one leaves it. -/
def Awaits (programId : Key) (op : Operation) (accounts : Accounts) : Prop :=
  (accounts.get op.target).IsVacant
    ∨ op.statusOfTaken (accounts.get op.target) programId = .pending

/-- The operation opens an account that has been allocated with less than its rent. -/
def Starved (rent : Rent) (op : Operation) (accounts : Accounts) : Prop :=
  op.IsOpening ∧ ¬ (accounts.get op.target).IsVacant
    ∧ ¬ rent.IsExempt (accounts.get op.target).lamports (accounts.get op.target).data.length

theorem awaits_of_status (h : op.status before.find? programId = .pending) :
    op.Awaits programId before := by
  unfold Awaits
  cases hfound : before.find? op.target with
  | none =>
    left
    rw [Accounts.get, hfound]
    exact Account.isVacant_plain 0
  | some account =>
    rw [Accounts.get_eq_of_find? hfound]
    by_cases hvacant : account.IsVacant
    · exact .inl hvacant
    · rw [status_of_taken op hfound hvacant] at h
      exact .inr h

theorem IsOpening.isFill (h : op.IsOpening) : op.IsFill := by
  cases op with
  | openMint | openTokenAccount => trivial
  | createAccount | fund | writeRegistry | writeRecord => exact h.elim

theorem OpensMintFor.exists_eq (h : op.OpensMintFor other) :
    ∃ mint decimals authority freezeAuthority account owner,
      op = openMint mint decimals authority freezeAuthority
        ∧ other = openTokenAccount account mint owner := by
  cases op with
  | openMint mint decimals authority freezeAuthority =>
    cases other with
    | openTokenAccount account needed owner =>
      obtain rfl : mint = needed := h
      exact ⟨_, _, _, _, _, _, rfl, rfl⟩
    | _ => exact h.elim
  | _ => exact h.elim

/-! ### One operation -/

theorem admits_of_pending (hfill : op.IsFill) {account : Account}
    (h : op.statusOfTaken account programId = .pending)
    (hexempt : op.IsOpening → rent.IsExempt account.lamports account.data.length) :
    op.Admits rent programId account := by
  cases op with
  | createAccount | fund => exact hfill.elim
  | openMint mint decimals authority freezeAuthority =>
    simp only [statusOfTaken] at h
    split at h
    · cases h
    · next howner =>
      cases hread : Mint.ofData? account.data with
      | none => simp [hread] at h
      | some state =>
        have hlength := Mint.length_eq_of_ofData? hread
        refine ⟨Decidable.not_not.mp howner, hlength, hexempt trivial, state, hread, ?_⟩
        cases hstate : state.isInitialized with
        | false => rfl
        | true =>
          simp only [hread, hstate, not_true_eq_false, if_false] at h
          split at h <;> cases h
  | openTokenAccount address mint owner =>
    simp only [statusOfTaken] at h
    split at h
    · cases h
    · next howner =>
      cases hread : TokenAccount.ofData? account.data with
      | none => simp [hread] at h
      | some state =>
        have hlength := TokenAccount.length_eq_of_ofData? hread
        refine ⟨Decidable.not_not.mp howner, hlength, hexempt trivial, state, hread, ?_⟩
        by_cases hstate : state.state = .uninitialized
        · exact hstate
        · simp only [hread, hstate, if_false] at h
          split at h <;> cases h
  | writeRegistry address header =>
    simp only [statusOfTaken] at h
    split at h
    · cases h
    · next hfits =>
      rw [not_or, ne_eq, Decidable.not_not, Nat.not_lt] at hfits
      refine ⟨hfits.1, hfits.2, ?_⟩
      by_cases hblank : Bytes.IsBlank (account.data.take RegistryHeader.size)
      · exact hblank
      · simp only [hblank, if_false] at h
        split at h <;> cases h
  | writeRecord address record =>
    simp only [statusOfTaken] at h
    split at h
    · next hblank => exact hblank
    · cases h

/-- An outstanding operation is admitted once its account is there, unless it is an opening that
finds too little rent. -/
theorem Awaits.admits (hawaits : op.Awaits programId before) (hexempts : op.Exempts rent)
    (hallocated : op.IsFill → ¬ (before.get op.target).IsVacant)
    (hfed : ¬ op.Starved rent before) : op.Admits rent programId (before.get op.target) := by
  have hfilled (hfill : op.IsFill) : op.Admits rent programId (before.get op.target) := by
    have htaken := hallocated hfill
    refine admits_of_pending hfill (hawaits.resolve_left htaken) fun hopening => ?_
    exact Decidable.not_not.mp fun hpoor => hfed ⟨hopening, htaken, hpoor⟩
  cases op with
  | createAccount slot address space lamports owner =>
    rcases hawaits with hvacant | hpending
    · exact ⟨hvacant, UInt64.le_trans hexempts (Saturating.le_max_right ..)⟩
    · simp only [statusOfTaken] at hpending
      split at hpending <;> cases hpending
  | fund address lamports => exact hawaits.resolve_right fun hpending => by cases hpending
  | openMint | openTokenAccount | writeRegistry | writeRecord => exact hfilled trivial

theorem not_admits_of_isMint {account : Account} (h : (Mint.initialized? account.data).isSome) :
    ¬ op.Admits rent programId account := by
  obtain ⟨mint, hmint⟩ := Option.isSome_iff_exists.mp h
  obtain ⟨hread, hstate⟩ := Option.filter_eq_some_iff.mp hmint
  have hlength := Mint.length_eq_of_ofData? hread
  have htaken : ¬ account.IsVacant :=
    Account.not_isVacant_of_length (hlength ▸ Nat.zero_lt_succ 81)
  intro hadmits
  cases op with
  | createAccount => exact htaken hadmits.1
  | fund => exact htaken hadmits
  | openMint =>
    obtain ⟨-, -, -, blank, hblank, hunused⟩ := hadmits
    obtain rfl : mint = blank := Option.some.inj (hread.symm.trans hblank)
    exact absurd (hstate.symm.trans hunused) (by decide)
  | openTokenAccount => exact absurd (hlength.symm.trans hadmits.2.1) (by decide)
  | writeRegistry => exact absurd (hlength ▸ hadmits.2.1) (by decide)
  | writeRecord => exact absurd (hlength.symm.trans hadmits.2.1) (by decide)

theorem hasMint_apply {key : Key} (hmint : before.HasMint key)
    (h : op.apply rent programId payer before = .ok after) : after.HasMint key := by
  obtain ⟨howner, hdata⟩ := hmint
  have htarget : key ≠ op.target := by
    rintro rfl
    exact not_admits_of_isMint hdata (apply_eq_ok_iff.mp h).1
  have hpositive : 0 < (before.get key).data.length := by
    obtain ⟨mint, hread⟩ := Option.isSome_iff_exists.mp hdata
    rw [Mint.length_eq_of_ofData? (Option.filter_eq_some_iff.mp hread).1]
    exact Nat.zero_lt_succ 81
  obtain ⟨kept, hkept, hkeptOwner, hkeptData⟩ :=
    exists_find?_apply_of_ne h htarget (before.find?_of_length_pos hpositive)
  rw [Accounts.HasMint, Accounts.get_eq_of_find? hkept, hkeptOwner, hkeptData]
  exact ⟨howner, hdata⟩

theorem hasItsMint_apply (hmint : other.HasItsMint before)
    (h : op.apply rent programId payer before = .ok after) : other.HasItsMint after := by
  cases other with
  | openTokenAccount => exact hasMint_apply hmint h
  | createAccount | fund | openMint | writeRegistry | writeRecord => trivial

theorem OpensMintFor.hasItsMint_apply (hmint : op.OpensMintFor other)
    (h : op.apply rent programId payer before = .ok after) : other.HasItsMint after := by
  obtain ⟨mint, _, _, _, _, _, rfl, rfl⟩ := hmint.exists_eq
  have hadmits := (apply_eq_ok_iff.mp h).1
  have hget := get_apply_target h
  rw [target] at hget
  rw [HasItsMint, Accounts.HasMint, hget]
  exact ⟨hadmits.1, by simp [result, Mint.initialized?, Mint.opened]⟩

theorem Starved.admits_free (hstarved : op.Starved rent before)
    (hawaits : op.Awaits programId before) :
    op.Admits ⟨fun _ => 0⟩ programId (before.get op.target) :=
  admits_of_pending hstarved.1.isFill (hawaits.resolve_left hstarved.2.1) fun _ => UInt64.zero_le

theorem Starved.owner_eq (hstarved : op.Starved rent before)
    (hawaits : op.Awaits programId before) : (before.get op.target).owner = .tokenProgram := by
  have hfree := hstarved.admits_free hawaits
  cases op with
  | createAccount | fund | writeRegistry | writeRecord => exact hstarved.1.elim
  | openMint | openTokenAccount => exact hfree.1

theorem Starved.apply_eq_error (hstarved : op.Starved rent before)
    (hawaits : op.Awaits programId before) (hmint : op.HasItsMint before) :
    op.apply rent programId payer before = .error (.notRentExempt op.target) := by
  have hfree := hstarved.admits_free hawaits
  obtain ⟨hopening, htaken, hpoor⟩ := hstarved
  cases op with
  | createAccount | fund | writeRegistry | writeRecord => exact hopening.elim
  | openMint mint decimals authority freezeAuthority =>
    have hrefused : before.tokenOwned rent mint Mint.size = .error (.notRentExempt mint) :=
      Accounts.tokenOwned_eq_error hfree.1 hfree.2.1 (Nat.zero_lt_succ 81) hpoor
    rw [apply, Accounts.openMint, hrefused]
    rfl
  | openTokenAccount address mint owner =>
    have hrefused : before.tokenOwned rent address TokenAccount.size
        = .error (.notRentExempt address) :=
      Accounts.tokenOwned_eq_error hfree.1 hfree.2.1 (Nat.zero_lt_succ 164) hpoor
    have hused : ¬ ¬ before.HasMint mint := not_not_intro hmint
    rw [apply, Accounts.openTokenAccount, if_neg hused, hrefused]
    rfl

namespace Ready

variable (h : op.Ready rent programId before)
include h

theorem pending : op.statusOfTaken (before.get op.target) programId = .pending := by
  obtain ⟨lamports, size, owner, hget, hfits, -⟩ := h
  rw [hget]
  exact statusOfTaken_blank hfits lamports

theorem not_isVacant : ¬ (before.get op.target).IsVacant := by
  obtain ⟨lamports, size, owner, hget, hfits, -⟩ := h
  rw [hget]
  apply Account.not_isVacant_of_length
  simpa using hfits.pos

theorem isExempt :
    rent.IsExempt (before.get op.target).lamports (before.get op.target).data.length := by
  obtain ⟨lamports, size, owner, hget, -, hexempt⟩ := h
  simpa [hget] using hexempt

end Ready

/-! ### The whole list -/

/-- What it takes for all operations of a list to be carried out one after another. -/
structure Feasible (rent : Rent) (programId payer : Key) (operations : List Operation)
    (accounts : Accounts) : Prop where
  plan : operations.Pairwise (Precedes programId)
  mints_first : operations.Pairwise fun first second => ¬ second.OpensMintFor first
  payer_ne : ∀ op ∈ operations, op.target ≠ payer
  exempts : ∀ op ∈ operations, op.Exempts rent
  awaits : ∀ op ∈ operations, op.Awaits programId accounts
  allocated : ∀ fill ∈ operations, fill.IsFill → ¬ (accounts.get fill.target).IsVacant
    ∨ ∃ op ∈ operations, op.MakesRoomFor programId fill
  minted : ∀ opening ∈ operations, opening.HasItsMint accounts
    ∨ ∃ op ∈ operations, op.OpensMintFor opening
  paid : Setup.cost accounts.find? operations ≤ (accounts.get payer).lamports.toNat

namespace Feasible

variable (hfeasible : Feasible rent programId payer (op :: rest) before)
include hfeasible

theorem not_isVacant_head (hfill : op.IsFill) : ¬ (before.get op.target).IsVacant := by
  rcases hfeasible.allocated op List.mem_cons_self hfill with htaken | ⟨create, hcreate, hroom⟩
  · exact htaken
  -- The creation would have to come first, but the fill is at the head.
  rcases List.mem_cons.mp hcreate with rfl | hlater
  · exact absurd hfill hroom.not_isFill
  rcases List.rel_of_pairwise_cons hfeasible.plan hlater with hne | hback
  · exact absurd hroom.target_eq.symm hne
  · exact absurd hfill hback.not_isFill

theorem hasItsMint_head : op.HasItsMint before := by
  rcases hfeasible.minted op List.mem_cons_self with hmint | ⟨opening, hopening, hmint⟩
  · exact hmint
  rcases List.mem_cons.mp hopening with rfl | hlater
  · obtain ⟨_, _, _, _, _, _, hfirst, hsecond⟩ := hmint.exists_eq
    cases hfirst.symm.trans hsecond
  · exact absurd hmint (List.rel_of_pairwise_cons hfeasible.mints_first hlater)

theorem fundingNeeded_head_le : op.fundingNeeded before.find? ≤ (before.get payer).lamports := by
  have hpaid := hfeasible.paid
  rw [Setup.cost] at hpaid
  rw [UInt64.le_iff_toNat_le]
  omega

/-- The first operation goes through, unless it opens an account without the rent. -/
theorem head :
    (∃ after, op.apply rent programId payer before = .ok after)
      ∨ op.Starved rent before
        ∧ op.apply rent programId payer before = .error (.notRentExempt op.target) := by
  have hawaits := hfeasible.awaits op List.mem_cons_self
  have hmint := hfeasible.hasItsMint_head
  by_cases hstarved : op.Starved rent before
  · exact .inr ⟨hstarved, hstarved.apply_eq_error hawaits hmint⟩
  · have hadmits := hawaits.admits (hfeasible.exempts op List.mem_cons_self)
      hfeasible.not_isVacant_head hstarved
    exact .inl ⟨_, apply_eq_ok_iff.mpr
      ⟨hadmits, hmint, hfeasible.fundingNeeded_head_le, rfl⟩⟩

/-- The step lemma: what an operation leaves of a feasible list is feasible after it. -/
theorem tail (h : op.apply rent programId payer before = .ok after) :
    Feasible rent programId payer rest after where
  plan := hfeasible.plan.of_cons
  mints_first := hfeasible.mints_first.of_cons
  payer_ne other hother := hfeasible.payer_ne other (List.mem_cons_of_mem op hother)
  exempts other hother := hfeasible.exempts other (List.mem_cons_of_mem op hother)
  awaits other hother := by
    have hpayer := hfeasible.payer_ne other (List.mem_cons_of_mem op hother)
    rcases List.rel_of_pairwise_cons hfeasible.plan hother with hne | hroom
    · rw [Awaits, Accounts.get_congr (find?_apply_of_ne h hne.symm hpayer)]
      exact hfeasible.awaits other (List.mem_cons_of_mem op hother)
    · exact .inr (ready_apply_create hroom h).pending
  allocated fill hmem hfill := by
    have hpayer := hfeasible.payer_ne fill (List.mem_cons_of_mem op hmem)
    rcases List.rel_of_pairwise_cons hfeasible.plan hmem with hne | hroom
    · rw [Accounts.get_congr (find?_apply_of_ne h hne.symm hpayer)]
      rcases hfeasible.allocated fill (List.mem_cons_of_mem op hmem) hfill with
        htaken | ⟨create, hcreate, hroom⟩
      · exact .inl htaken
      · rcases List.mem_cons.mp hcreate with rfl | hlater
        · exact absurd hroom.target_eq hne
        · exact .inr ⟨create, hlater, hroom⟩
    · exact .inl (ready_apply_create hroom h).not_isVacant
  minted opening hmem := by
    rcases hfeasible.minted opening (List.mem_cons_of_mem op hmem) with
      hmint | ⟨first, hfirst, hopens⟩
    · exact .inl (hasItsMint_apply hmint h)
    · rcases List.mem_cons.mp hfirst with rfl | hlater
      · exact .inl (hopens.hasItsMint_apply h)
      · exact .inr ⟨first, hlater, hopens⟩
  paid := by
    have hcost := Setup.cost_apply hfeasible.plan hfeasible.payer_ne h
    have hpaid := hfeasible.paid
    omega

end Feasible

/-- The run lemma: a feasible list goes through, unless it opens an account that was allocated
without its rent before the list was begun. -/
theorem Feasible.run (hfeasible : Feasible rent programId payer operations before) :
    (∃ after, (Batch.mk programId payer operations).apply rent before = .ok after)
      ∨ ∃ op ∈ operations, op.Starved rent before
        ∧ (Batch.mk programId payer operations).apply rent before
          = .error (.notRentExempt op.target) := by
  induction operations generalizing before with
  | nil => exact .inl ⟨before, rfl⟩
  | cons op rest ih =>
    rw [Batch.apply_cons]
    obtain ⟨middle, hop⟩ | ⟨hstarved, hop⟩ := hfeasible.head
    · rw [hop]
      obtain ⟨after, hrest⟩ | ⟨other, hother, hstarved, hrest⟩ := ih (hfeasible.tail hop)
      · exact .inl ⟨after, hrest⟩
      · refine .inr ⟨other, List.mem_cons_of_mem op hother, ?_, hrest⟩
        -- The list itself creates accounts with their rent, so this one was there before.
        rcases List.rel_of_pairwise_cons hfeasible.plan hother with hne | hroom
        · have hpayer := hfeasible.payer_ne other (List.mem_cons_of_mem op hother)
          rwa [Starved, Accounts.get_congr (find?_apply_of_ne hop hne.symm hpayer)] at hstarved
        · exact absurd (ready_apply_create hroom hop).isExempt hstarved.2.2
    · rw [hop]
      exact .inr ⟨op, List.mem_cons_self, hstarved, rfl⟩

end Operation

end StakePool
