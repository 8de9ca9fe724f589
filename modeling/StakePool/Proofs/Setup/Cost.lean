import StakePool.Proofs.Plan
import StakePool.Setup
/-!
# What a plan costs

The payer puts up what the accounts of a plan lack of their rent. `Setup.cost` adds that up without
a limit, while a setup adds it up in one word that stops at the largest; under a modest schedule of
rent the two are the same. Carrying out an operation does not change what a later one of the plan
costs, so a whole plan can be priced beforehand, and its price is the `Plan.shortfall` of the nine
accounts.
-/

namespace StakePool

namespace Setup

/-- The sum of what the operations cost, without a limit. -/
def cost (reader : Reader) : List Operation → Nat
  | [] => 0
  | op :: rest => (op.fundingNeeded reader).toNat + cost reader rest

theorem cost_congr {reader reader' : Reader} {operations : List Operation}
    (h : ∀ op ∈ operations, op.fundingNeeded reader = op.fundingNeeded reader') :
    cost reader operations = cost reader' operations := by
  induction operations with
  | nil => rfl
  | cons op rest ih =>
    rw [cost, cost, h op List.mem_cons_self, ih fun op hop => h op (List.mem_cons_of_mem _ hop)]

theorem cost_le_of_sublist (reader : Reader) {kept operations : List Operation}
    (h : kept.Sublist operations) : cost reader kept ≤ cost reader operations := by
  induction h with
  | slnil => exact Nat.le_refl 0
  | cons op _ ih => exact Nat.le_trans ih (Nat.le_add_left ..)
  | cons_cons op _ ih => exact Nat.add_le_add_left ih _

theorem toNat_fundingNeeded (reader : Reader) (operations : List Operation) :
    (fundingNeeded reader operations).toNat = min (cost reader operations) (UInt64.size - 1) := by
  suffices hfold : ∀ sum : UInt64, (operations.foldl (fun sum op =>
      Saturating.add64 sum (op.fundingNeeded reader)) sum).toNat
        = min (sum.toNat + cost reader operations) (UInt64.size - 1) by
    simpa [fundingNeeded] using hfold 0
  induction operations with
  | nil =>
    intro sum
    have hsum : sum.toNat < UInt64.size := sum.toNat_lt
    simp only [List.foldl_nil, cost]
    omega
  | cons op rest ih =>
    intro sum
    rw [List.foldl_cons, ih, Saturating.toNat_add64, cost]
    omega

theorem toNat_fundingNeeded_le (reader : Reader) (operations : List Operation) :
    (fundingNeeded reader operations).toNat ≤ cost reader operations :=
  Nat.le_trans (Nat.le_of_eq (toNat_fundingNeeded reader operations)) (Nat.min_le_left ..)

end Setup

namespace Operation

variable {rent : Rent} {programId payer : Key} {op other : Operation} {before after : Accounts}

theorem fundingNeeded_of_isFill {reader : Reader} (h : op.IsFill) :
    op.fundingNeeded reader = 0 := by
  cases op with
  | createAccount | fund => exact h.elim
  | openMint | openTokenAccount | writeRegistry | writeRecord => rfl

/-- An operation does not change what a later one of the plan costs. -/
theorem fundingNeeded_apply (hplan : op.Precedes programId other) (hpayer : other.target ≠ payer)
    (h : op.apply rent programId payer before = .ok after) :
    other.fundingNeeded after.find? = other.fundingNeeded before.find? := by
  obtain hne | ⟨slot, space, lamports, owner, -, hfits⟩ := hplan
  · have hsame := find?_apply_of_ne h hne.symm hpayer
    cases other with
    | createAccount | fund =>
      simp only [fundingNeeded, Reader.lamports, target] at hsame ⊢
      rw [hsame]
    | openMint | openTokenAccount | writeRegistry | writeRecord => rfl
  · rw [fundingNeeded_of_isFill hfits.isFill, fundingNeeded_of_isFill hfits.isFill]

end Operation

namespace Setup

variable {rent : Rent} {programId payer : Key} {op : Operation} {rest : List Operation}
  {before after : Accounts}

/-- What an operation costs has gone from the cost of the plan and from the payer's balance. -/
theorem cost_apply (hplan : (op :: rest).Pairwise (Operation.Precedes programId))
    (hpayer : ∀ other ∈ op :: rest, other.target ≠ payer)
    (h : op.apply rent programId payer before = .ok after) :
    cost before.find? (op :: rest) + (after.get payer).lamports.toNat
      = cost after.find? rest + (before.get payer).lamports.toNat := by
  have hrest : cost after.find? rest = cost before.find? rest := by
    apply cost_congr
    intro other hother
    exact Operation.fundingNeeded_apply (List.rel_of_pairwise_cons hplan hother)
      (hpayer other (List.mem_cons_of_mem _ hother)) h
  have hpaid := (Operation.apply_eq_ok_iff.mp h).2.2.1
  have hle := UInt64.le_iff_toNat_le.mp hpaid
  have hleft : (after.get payer).lamports.toNat
      = (before.get payer).lamports.toNat - (op.fundingNeeded before.find?).toNat := by
    rw [Operation.get_apply_of_ne h (hpayer op List.mem_cons_self).symm, if_pos rfl,
      UInt64.toNat_sub_of_le _ _ hpaid]
  rw [hrest, hleft, cost]
  omega

end Setup

/-- Operations of a plan that go through have been paid for. -/
theorem Batch.cost_le_of_apply {rent : Rent} {programId payer : Key} {operations : List Operation}
    {before after : Accounts} (hplan : operations.Pairwise (Operation.Precedes programId))
    (hpayer : ∀ op ∈ operations, op.target ≠ payer)
    (h : (Batch.mk programId payer operations).apply rent before = .ok after) :
    Setup.cost before.find? operations ≤ (before.get payer).lamports.toNat := by
  induction operations generalizing before with
  | nil => exact Nat.zero_le _
  | cons op rest ih =>
    obtain ⟨middle, hop, hrest⟩ := apply_cons_eq_ok_iff.mp h
    have hlater := ih hplan.of_cons (fun op hmem => hpayer op (List.mem_cons_of_mem _ hmem)) hrest
    have hcost := Setup.cost_apply hplan hpayer hop
    omega

/-! ### The price of a pool -/

namespace Rent

/-- Nine accounts of any size that can be created in one go are paid from one balance. -/
def IsModest (rent : Rent) : Prop :=
  ∀ size ≤ maxCreatedSpace.toNat, 9 * (rent.minimumBalance size).toNat < UInt64.size

theorem isModest_standard : standard.IsModest := by
  intro size hsize
  have hbound : size ≤ 10240 := hsize
  have hperYear : (UInt64.ofNat (accountOverhead + size) * 3480).toNat = (128 + size) * 3480 := by
    rw [UInt64.toNat_mul, accountOverhead, UInt64.toNat_ofNat_of_lt' (by simp [UInt64.size]; omega)]
    exact Nat.mod_eq_of_lt (by change (128 + size) * 3480 < 2 ^ 64; omega)
  have hlog : ((128 + size) * 3480).log2 < 53 := (Nat.log2_lt (by omega)).mpr (by omega)
  have hexact : nearestDouble ((128 + size) * 3480) = (128 + size) * 3480 :=
    nearestDouble_of_log2_lt hlog
  have hbalance : (standard.minimumBalance size).toNat = (128 + size) * 6960 := by
    simp only [standard, ofPrice, Binary64.two, Binary64.scale, hperYear, hexact, Nat.mul_one,
      Bool.false_eq_true, if_false]
    change (UInt64.ofNat (min (((128 + size) * 3480) <<< 1) (2 ^ 64 - 1))).toNat = _
    rw [Nat.shiftLeft_eq, Nat.min_eq_left (by omega), UInt64.toNat_ofNat_of_lt' (by
      change _ < 2 ^ 64; omega)]
    omega
  rw [hbalance]
  change _ < 2 ^ 64
  omega

end Rent

namespace Plan

variable {book : AddressBook} {p : Parameters} {rent : Rent} {reader : Reader}

/-- The nine accounts of a pool and how much data each has to be exempt for. -/
def footprint (p : Parameters) : List (Slot × Nat) := [
  (.config, PoolRecord.size),
  (.role .reserve, TokenAccount.size),
  (.role .solLeg, TokenAccount.size),
  (.role .stakeList, p.stakeList.space.toNat),
  (.role .validatorList, p.validatorList.space.toNat),
  (.role .stMint, Mint.size),
  (.role .lpMint, Mint.size),
  (.role .stLeg, TokenAccount.size),
  (.role .treasury, TokenAccount.size)]

/-- What accounts of these sizes lack of being exempt, as things stand. -/
def lacking (book : AddressBook) (rent : Rent) (reader : Reader) : List (Slot × Nat) → Nat
  | [] => 0
  | (slot, size) :: rest =>
    ((rent.minimumBalance size).toNat - (reader.lamports (book.slot slot).address).toNat)
      + lacking book rent reader rest

/-- What the nine accounts lack together. -/
def shortfall (book : AddressBook) (p : Parameters) (rent : Rent) (reader : Reader) : Nat :=
  lacking book rent reader (footprint p)

theorem cost_all : Setup.cost reader (all book p rent) = shortfall book p rent reader := by
  have hrecord : (UInt64.ofNat PoolRecord.size).toNat = PoolRecord.size := rfl
  have hmint : (UInt64.ofNat Mint.size).toNat = Mint.size := rfl
  have htokens : (UInt64.ofNat TokenAccount.size).toNat = TokenAccount.size := rfl
  simp only [all, groundwork, accountOperations, tokenOperations, recordWrite, create, pinned,
    hrecord, hmint, htokens]
  simp [Setup.cost, Operation.fundingNeeded, shortfall, lacking, footprint,
    AddressBook.address_eq_slot]

theorem size_le_of_mem_footprint (hvalid : p.IsValid) {entry : Slot × Nat}
    (h : entry ∈ footprint p) : entry.2 ≤ maxCreatedSpace.toNat := by
  obtain ⟨-, -, -, -, -, -, -, hstake, hvalidator⟩ := Parameters.isValid_iff.mp hvalid
  have hrecord : PoolRecord.size ≤ maxCreatedSpace.toNat := by decide
  have hmint : Mint.size ≤ maxCreatedSpace.toNat := by decide
  have htokens : TokenAccount.size ≤ maxCreatedSpace.toNat := by decide
  rw [UInt64.le_iff_toNat_le] at hstake hvalidator
  suffices hall : ∀ entry ∈ footprint p, entry.2 ≤ maxCreatedSpace.toNat from hall entry h
  simp only [footprint, List.forall_mem_cons, List.not_mem_nil, false_imp_iff, implies_true,
    and_true]
  exact ⟨hrecord, htokens, htokens, hstake, hvalidator, hmint, hmint, htokens, htokens⟩

theorem lacking_le (book : AddressBook) (reader : Reader) (hrent : rent.IsModest)
    {entries : List (Slot × Nat)} (hsize : ∀ entry ∈ entries, entry.2 ≤ maxCreatedSpace.toNat) :
    lacking book rent reader entries ≤ entries.length * ((UInt64.size - 1) / 9) := by
  induction entries with
  | nil => exact Nat.zero_le _
  | cons entry rest ih =>
    obtain ⟨hentry, hrest⟩ := List.forall_mem_cons.mp hsize
    have hfirst := hrent entry.2 hentry
    have hlater := ih hrest
    rw [lacking, List.length_cons, Nat.add_mul, Nat.one_mul]
    omega

theorem shortfall_lt (book : AddressBook) (reader : Reader) (hrent : rent.IsModest)
    (hvalid : p.IsValid) : shortfall book p rent reader < UInt64.size :=
  Nat.lt_of_le_of_lt
    (lacking_le book reader hrent fun _ hentry => size_le_of_mem_footprint hvalid hentry)
    (by decide : 9 * ((UInt64.size - 1) / 9) < UInt64.size)

end Plan

end StakePool
