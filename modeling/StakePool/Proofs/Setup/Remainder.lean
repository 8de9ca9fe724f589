import StakePool.Proofs.Setup.Audited
import StakePool.Proofs.Setup.Feasibility
/-!
# What is left of a plan

A draft keeps the operations of the plan that are still to be carried out and drops those that have
been. What it dropped has left behind whatever the rest of the plan relies on: an account to be
filled in, a mint for a token account. So a draft that the payer can afford is feasible.
-/

namespace StakePool

namespace Plan

variable {book : AddressBook} {p : Parameters} {rent : Rent}

/-- A plan opens a mint before the token accounts that need it. -/
theorem pairwise_not_opensMintFor :
    (all book p rent).Pairwise fun first second => ¬ second.OpensMintFor first := by
  simp [all, groundwork, accountOperations, tokenOperations, recordWrite, create,
    Operation.OpensMintFor]

theorem exempts_all : ∀ op ∈ all book p rent, op.Exempts rent := by
  simp [all, groundwork, accountOperations, tokenOperations, recordWrite, create,
    Operation.Exempts, Rent.IsExempt]

theorem exists_openMint {account mint owner : Key}
    (h : .openTokenAccount account mint owner ∈ all book p rent) :
    ∃ decimals authority freezeAuthority,
      Operation.openMint mint decimals authority freezeAuthority ∈ all book p rent := by
  have hmint : mint = book.address .stMint := by
    simp [all, groundwork, accountOperations, tokenOperations, recordWrite, create] at h
    obtain ⟨-, rfl, -⟩ | ⟨-, rfl, -⟩ := h <;> rfl
  subst hmint
  exact ⟨stDecimals, book.address .stMintAuthority, none,
    by simp [all, groundwork, tokenOperations]⟩

end Plan

namespace Setup

variable {setup : Setup} {book : AddressBook} {rent : Rent} {reader : Reader}
  {planned kept : List Operation} {accounts : Accounts}

/-- Some operations of a plan, in its order, of which only applied ones have been dropped. -/
structure Retains (setup : Setup) (reader : Reader) (planned kept : List Operation) : Prop where
  sublist : kept.Sublist planned
  dropped : ∀ op ∈ planned, op ∉ kept → op.status reader setup.programId = .applied

theorem retains_outstanding (hclear : setup.Unobstructed reader planned) :
    setup.Retains reader planned (setup.outstanding reader planned) where
  sublist := List.filter_sublist
  dropped op hop hdropped := by
    cases hstatus : op.status reader setup.programId with
    | applied => rfl
    | conflict => exact absurd hstatus (hclear op hop)
    | pending =>
      refine absurd ?_ hdropped
      simp [outstanding, hop, hstatus]

namespace Retains

variable (hkept : setup.Retains accounts.find? (Plan.all book setup.parameters rent) kept)
include hkept

theorem mem {op : Operation} (h : op ∈ kept) : op ∈ Plan.all book setup.parameters rent :=
  hkept.sublist.mem h

/-- A draft that fills in an account creates it, or finds it there. -/
theorem allocated (hprogram : book.programId = setup.programId) {fill : Operation}
    (hmem : fill ∈ kept) (hfill : fill.IsFill) :
    ¬ (accounts.get fill.target).IsVacant
      ∨ ∃ op ∈ kept, op.MakesRoomFor setup.programId fill := by
  obtain ⟨create, hcreate, hroom⟩ := Plan.exists_makesRoomFor (hkept.mem hmem) hfill
  rw [hprogram] at hroom
  by_cases hdone : create ∈ kept
  · exact .inr ⟨create, hdone, hroom⟩
  · have happlied := hkept.dropped create hcreate hdone
    obtain ⟨slot, space, lamports, owner, rfl, hfits⟩ := hroom
    obtain ⟨account, hfound, -, hlength⟩ := Operation.exists_of_createAccount_applied happlied
    left
    rw [Accounts.get_eq_of_find? hfound]
    exact Account.not_isVacant_of_length (hlength ▸ hfits.pos)

/-- A draft that opens a token account opens its mint first, or finds it in use. -/
theorem minted {opening : Operation} (hmem : opening ∈ kept) :
    opening.HasItsMint accounts ∨ ∃ op ∈ kept, op.OpensMintFor opening := by
  cases opening with
  | createAccount | fund | openMint | writeRegistry | writeRecord => exact .inl trivial
  | openTokenAccount address mint owner =>
    obtain ⟨decimals, authority, freezeAuthority, hopen⟩ := Plan.exists_openMint (hkept.mem hmem)
    by_cases hdone : .openMint mint decimals authority freezeAuthority ∈ kept
    · exact .inr ⟨_, hdone, rfl⟩
    · obtain ⟨account, hfound, howner, hread⟩ :=
        Operation.exists_of_openMint_applied (hkept.dropped _ hopen hdone)
      left
      rw [Operation.HasItsMint, Accounts.HasMint, Accounts.get_eq_of_find? hfound, hread]
      exact ⟨howner, rfl⟩

theorem feasible (hprogram : book.programId = setup.programId) (hdistinct : book.Distinct)
    (hpayer : setup.payer ∉ book) (hawaits : ∀ op ∈ kept, op.Awaits setup.programId accounts)
    (hpaid : cost accounts.find? kept ≤ (accounts.get setup.payer).lamports.toNat) :
    Operation.Feasible rent setup.programId setup.payer kept accounts where
  plan := by
    rw [← hprogram]
    exact (Plan.pairwise_all hdistinct).sublist hkept.sublist
  mints_first := Plan.pairwise_not_opensMintFor.sublist hkept.sublist
  payer_ne op hop heq := hpayer (heq ▸ Plan.target_mem (hkept.mem hop))
  exempts op hop := Plan.exempts_all op (hkept.mem hop)
  awaits := hawaits
  allocated fill hmem hfill := hkept.allocated hprogram hmem hfill
  minted opening hmem := hkept.minted hmem
  paid := hpaid

end Retains

end Setup

end StakePool
