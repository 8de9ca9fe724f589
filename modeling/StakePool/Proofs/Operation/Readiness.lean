import StakePool.Proofs.Operation.Progress
/-!
# Accounts ready to be filled in

A plan creates an account before it fills it in and touches it at no time in between. So whatever a
store held at the start, an account is blank, exempt and of the right kind when its fill comes up,
and a fill is refused only for want of something else. `Prepared` is the invariant of a run that
says so for all that is left of a plan.
-/

namespace StakePool

namespace Operation

variable {rent : Rent} {programId payer : Key} {op other : Operation} {before after : Accounts}

/-- The target of a fill is blank and exempt, and just of the kind that the operation fills in. -/
def Ready (rent : Rent) (programId : Key) (op : Operation) (accounts : Accounts) : Prop :=
  ∃ lamports size owner, accounts.get op.target = ⟨lamports, Bytes.zeros size, owner⟩
    ∧ op.Fits programId size owner ∧ rent.IsExempt lamports size

theorem Ready.admits (h : op.Ready rent programId before) :
    op.Admits rent programId (before.get op.target) := by
  obtain ⟨lamports, size, owner, hget, hfits, hexempt⟩ := h
  rw [hget]
  have hlength : (Bytes.zeros size).length = size := by simp
  cases op with
  | createAccount | fund => exact hfits.elim
  | openMint =>
    obtain ⟨rfl, rfl⟩ := hfits
    exact ⟨rfl, hlength, hlength.symm ▸ hexempt, Mint.blank, Mint.ofData?_zeros, rfl⟩
  | openTokenAccount =>
    obtain ⟨rfl, rfl⟩ := hfits
    exact ⟨rfl, hlength, hlength.symm ▸ hexempt, TokenAccount.blank, TokenAccount.ofData?_zeros,
      rfl⟩
  | writeRegistry =>
    obtain ⟨hsize, rfl⟩ := hfits
    exact ⟨rfl, hlength.symm ▸ hsize, Bytes.isBlank_take (Bytes.isBlank_zeros size) _⟩
  | writeRecord =>
    obtain ⟨rfl, rfl⟩ := hfits
    exact ⟨rfl, hlength, Bytes.isBlank_zeros _⟩

theorem Ready.mint_eq {mint authority : Key} {decimals : UInt8} {freezeAuthority : Option Key}
    (h : (openMint mint decimals authority freezeAuthority).Ready rent programId before) :
    ∃ lamports, before.get mint = ⟨lamports, Bytes.zeros Mint.size, .tokenProgram⟩
      ∧ rent.IsExempt lamports Mint.size := by
  obtain ⟨lamports, _, _, hget, ⟨rfl, rfl⟩, hexempt⟩ := h
  exact ⟨lamports, hget, hexempt⟩

theorem Ready.tokenAccount_eq {account mint owner : Key}
    (h : (openTokenAccount account mint owner).Ready rent programId before) :
    ∃ lamports, before.get account = ⟨lamports, Bytes.zeros TokenAccount.size, .tokenProgram⟩
      ∧ rent.IsExempt lamports TokenAccount.size := by
  obtain ⟨lamports, _, _, hget, ⟨rfl, rfl⟩, hexempt⟩ := h
  exact ⟨lamports, hget, hexempt⟩

theorem ready_apply_create (hroom : op.MakesRoomFor programId other)
    (h : op.apply rent programId payer before = .ok after) : other.Ready rent programId after := by
  obtain ⟨slot, space, lamports, owner, rfl, hfits⟩ := hroom
  have hget := get_apply_target h
  have hexempt := (apply_eq_ok_iff.mp h).1.2
  exact ⟨_, space.toNat, owner, hget, hfits, hexempt⟩

theorem Ready.apply_of_ne (hready : other.Ready rent programId before)
    (htarget : other.target ≠ op.target) (hpayer : other.target ≠ payer)
    (h : op.apply rent programId payer before = .ok after) : other.Ready rent programId after := by
  obtain ⟨lamports, size, owner, hget, hready⟩ := hready
  refine ⟨lamports, size, owner, ?_, hready⟩
  rw [Accounts.get_congr (find?_apply_of_ne h htarget hpayer), hget]

/-- Every fill that is left finds its account ready, or the account is still to be created. -/
def Prepared (rent : Rent) (programId : Key) (operations : List Operation)
    (accounts : Accounts) : Prop :=
  ∀ fill ∈ operations, fill.IsFill →
    fill.Ready rent programId accounts ∨ ∃ op ∈ operations, op.MakesRoomFor programId fill

theorem MakesRoomFor.not_isFill (h : op.MakesRoomFor programId other) : ¬ op.IsFill := by
  obtain ⟨slot, space, lamports, owner, rfl, -⟩ := h
  exact id

variable {rest : List Operation}

/-- In a plan the fill whose turn it is finds its account ready. -/
theorem Prepared.head (hprepared : Prepared rent programId (op :: rest) before)
    (hplan : (op :: rest).Pairwise (Precedes programId)) (hfill : op.IsFill) :
    op.Ready rent programId before := by
  rcases hprepared op List.mem_cons_self hfill with hready | ⟨create, hcreate, hroom⟩
  · exact hready
  -- The creation would have to come first, but the fill is at the head.
  rcases List.mem_cons.mp hcreate with rfl | hlater
  · exact absurd hfill hroom.not_isFill
  rcases List.rel_of_pairwise_cons hplan hlater with hne | hback
  · exact absurd hroom.target_eq.symm hne
  · exact absurd hfill hback.not_isFill

/-- The step lemma: what an operation leaves of a plan is as prepared as the plan was. -/
theorem Prepared.tail (hprepared : Prepared rent programId (op :: rest) before)
    (hplan : (op :: rest).Pairwise (Precedes programId))
    (hpayer : ∀ other ∈ rest, other.target ≠ payer)
    (h : op.apply rent programId payer before = .ok after) :
    Prepared rent programId rest after := by
  intro fill hmem hfill
  rcases hprepared fill (List.mem_cons_of_mem op hmem) hfill with hready | ⟨create, hcreate, hroom⟩
  · left
    rcases List.rel_of_pairwise_cons hplan hmem with hne | hroom
    · exact hready.apply_of_ne hne.symm (hpayer fill hmem) h
    · exact ready_apply_create hroom h
  · rcases List.mem_cons.mp hcreate with rfl | hlater
    · exact .inl (ready_apply_create hroom h)
    · exact .inr ⟨create, hlater, hroom⟩

end Operation

end StakePool
