import StakePool.Plan
import StakePool.Proofs.AddressBook
import StakePool.Proofs.Operation.Progress
import StakePool.Proofs.Records
/-!
# The shape of a plan

For valid parameters and derived addresses there is a plan, and it is one fixed list of sixteen
operations, `Plan.all`. When the addresses of the pool are distinct, no two of its operations are
about the same account unless one creates what the other fills in. Every operation except the write
of the record counts as applied once it has been carried out.
-/

namespace StakePool

namespace Parameters

variable {p : Parameters}

private theorem ite_some_eq_none_iff {α : Type} {c : Prop} [Decidable c] {a : α} {rest : Option α} :
    (if c then some a else rest) = none ↔ ¬ c ∧ rest = none := by
  by_cases hc : c <;> simp [hc]

theorem isValid_iff :
    p.IsValid ↔
      p.rewardFee.IsValid ∧ p.lpMaxFee.IsValid ∧ p.lpMinFee.IsValid
        ∧ p.lpMinFee.basisPoints ≤ p.lpMaxFee.basisPoints ∧ p.lpTreasuryCut.IsValid
        ∧ minStakeLimit ≤ p.minStake ∧ minDeltaWindow ≤ p.stakeDeltaWindow
        ∧ p.stakeList.space ≤ maxCreatedSpace ∧ p.validatorList.space ≤ maxCreatedSpace := by
  simp only [IsValid, breach?, ite_some_eq_none_iff, Decidable.not_not, UInt32.not_lt,
    UInt64.not_lt, and_true]

end Parameters

namespace Plan

/-- The mints and the token accounts. -/
def tokenOperations (book : AddressBook) : List Operation := [
  .openMint (book.address .stMint) stDecimals (book.address .stMintAuthority) none,
  .openMint (book.address .lpMint) lpDecimals (book.address .lpMintAuthority) none,
  .openTokenAccount (book.address .stLeg) (book.address .stMint) (book.address .stLegAuthority),
  .openTokenAccount (book.address .treasury) (book.address .stMint) book.pool]

/-- The operations up to the write of the record. -/
def groundwork (book : AddressBook) (p : Parameters) (rent : Rent) : List Operation :=
  accountOperations book p rent ++ tokenOperations book

/-- The whole plan. -/
def all (book : AddressBook) (p : Parameters) (rent : Rent) : List Operation :=
  groundwork book p rent ++ [recordWrite book p rent]

variable {scheme : AddressScheme} {programId root : Key} {book : AddressBook} {p : Parameters}
  {rent : Rent}

theorem openMint_eq_ok {mint authority : Key} {decimals : UInt8} (h : scheme.OffCurve authority) :
    openMint scheme mint decimals authority none
      = .ok (.openMint mint decimals authority none) := by
  simp [openMint, h]
  rfl

theorem openTokenAccount_eq_ok {account mint owner : Key} (h : scheme.OffCurve owner) :
    openTokenAccount scheme account mint owner = .ok (.openTokenAccount account mint owner) := by
  simp [openTokenAccount, h]
  rfl

theorem bootstrap_eq_ok (h : AddressBook.derive? scheme programId root = some book) :
    bootstrap scheme book = .ok (tokenOperations book) := by
  have hrole (role : Role) : scheme.OffCurve (book.address role) :=
    AddressBook.offCurve_slot h (.role role)
  have hpool : scheme.OffCurve book.pool := AddressBook.offCurve_slot h .config
  rw [bootstrap, openMint_eq_ok (hrole .stMintAuthority), openMint_eq_ok (hrole .lpMintAuthority),
    openTokenAccount_eq_ok (hrole .stLegAuthority), openTokenAccount_eq_ok hpool]
  rfl

theorem provision_eq_ok (h : p.IsValid) :
    provision book p rent = .ok (accountOperations book p rent) := by
  obtain ⟨-, -, -, -, -, -, -, hstake, hvalidator⟩ := Parameters.isValid_iff.mp h
  have hrecord : UInt64.ofNat PoolRecord.size ≤ maxCreatedSpace := by decide
  have hmint : UInt64.ofNat Mint.size ≤ maxCreatedSpace := by decide
  have htokens : UInt64.ofNat TokenAccount.size ≤ maxCreatedSpace := by decide
  simp [provision, accountOperations, create, IsCreatable, hstake, hvalidator, hrecord, hmint,
    htokens]

theorem operations_eq_ok (hbook : AddressBook.derive? scheme programId root = some book)
    (hvalid : p.IsValid) : operations scheme book p rent = .ok (all book p rent) := by
  rw [operations, provision_eq_ok hvalid, bootstrap_eq_ok hbook]
  rfl

section Drawn

variable {op : Operation}

theorem openMint_eq {mint authority : Key} {decimals : UInt8} {freeze : Option Key}
    (h : openMint scheme mint decimals authority freeze = .ok op) :
    op = .openMint mint decimals authority freeze := by
  simp only [openMint] at h
  split at h
  · cases h
  · cases freeze with
    | none => exact (Except.ok.inj h).symm
    | some key =>
      dsimp only at h
      split at h
      · cases h
      · exact (Except.ok.inj h).symm

theorem openTokenAccount_eq {account mint owner : Key}
    (h : openTokenAccount scheme account mint owner = .ok op) :
    op = .openTokenAccount account mint owner := by
  simp only [openTokenAccount] at h
  split at h
  · cases h
  · exact (Except.ok.inj h).symm

/-- Wherever there is a plan, for whatever parameters and addresses, it is the whole one. -/
theorem eq_all_of_operations {drawn : List Operation}
    (h : operations scheme book p rent = .ok drawn) : drawn = all book p rent := by
  obtain ⟨accounts, haccounts, h⟩ := Except.bind_eq_ok_iff.mp h
  obtain ⟨tokens, htokens, h⟩ := Except.bind_eq_ok_iff.mp h
  obtain ⟨stMint, hstMint, htokens⟩ := Except.bind_eq_ok_iff.mp htokens
  obtain ⟨lpMint, hlpMint, htokens⟩ := Except.bind_eq_ok_iff.mp htokens
  obtain ⟨stLeg, hstLeg, htokens⟩ := Except.bind_eq_ok_iff.mp htokens
  obtain ⟨treasury, htreasury, htokens⟩ := Except.bind_eq_ok_iff.mp htokens
  obtain rfl := openMint_eq hstMint
  obtain rfl := openMint_eq hlpMint
  obtain rfl := openTokenAccount_eq hstLeg
  obtain rfl := openTokenAccount_eq htreasury
  obtain rfl := Except.ok.inj htokens
  obtain rfl := Except.ok.inj h
  simp only [provision] at haccounts
  split at haccounts
  · obtain rfl := Except.ok.inj haccounts
    rfl
  · cases haccounts

end Drawn

theorem create_makesRoomFor {slot : Slot} {space : UInt64} {owner : Key} {op : Operation}
    (htarget : op.target = (book.slot slot).address)
    (hfits : op.Fits programId space.toNat owner) :
    (create book rent slot space owner).MakesRoomFor programId op := by
  refine ⟨slot, space, rent.minimumBalance space.toNat, owner, ?_, hfits⟩
  rw [htarget, create]

/-- No two operations of a plan get in each other's way. -/
theorem pairwise_all (hdistinct : book.Distinct) :
    (all book p rent).Pairwise (Operation.Precedes book.programId) := by
  simp only [all, groundwork, accountOperations, tokenOperations, recordWrite, create,
    AddressBook.address_eq_slot, AddressBook.pool_eq_slot]
  -- Distinct addresses settle every pair but the seven that share a slot.
  simp only [List.cons_append, List.nil_append, List.pairwise_cons, List.mem_cons, List.not_mem_nil,
    or_false, forall_eq_or_imp, forall_eq, Operation.Precedes, Operation.target, ne_eq,
    hdistinct.address_inj, Slot.role.injEq, reduceCtorEq, not_false_eq_true, true_or,
    not_true_eq_false, false_or, true_and, and_true, List.Pairwise.nil, false_imp_iff, implies_true]
  exact ⟨create_makesRoomFor rfl ⟨rfl, rfl⟩,
    create_makesRoomFor rfl ⟨p.stakeList.size_le_space, rfl⟩,
    create_makesRoomFor rfl ⟨p.validatorList.size_le_space, rfl⟩,
    create_makesRoomFor rfl ⟨rfl, rfl⟩, create_makesRoomFor rfl ⟨rfl, rfl⟩,
    create_makesRoomFor rfl ⟨rfl, rfl⟩, create_makesRoomFor rfl ⟨rfl, rfl⟩⟩

/-- Whatever a plan fills in it creates as well. -/
theorem exists_makesRoomFor {fill : Operation} (h : fill ∈ all book p rent) (hfill : fill.IsFill) :
    ∃ op ∈ all book p rent, op.MakesRoomFor book.programId fill := by
  have hcreate (slot : Slot) (space : UInt64) (owner : Key) {fill : Operation}
      (htarget : fill.target = (book.slot slot).address)
      (hfits : fill.Fits book.programId space.toNat owner)
      (hmem : create book rent slot space owner ∈ accountOperations book p rent) :
      ∃ op ∈ all book p rent, op.MakesRoomFor book.programId fill :=
    ⟨_, List.mem_append_left _ (List.mem_append_left _ hmem), create_makesRoomFor htarget hfits⟩
  rcases List.mem_append.mp h with hground | hlast
  · rcases List.mem_append.mp hground with haccount | htoken
    · simp only [accountOperations, List.mem_cons, List.not_mem_nil, or_false] at haccount
      rcases haccount with rfl | rfl | rfl | rfl | rfl | rfl | rfl | rfl | rfl | rfl | rfl
      case inr.inr.inr.inr.inr.inl =>
        exact hcreate (.role .stakeList) _ _ rfl ⟨p.stakeList.size_le_space, rfl⟩
          (by simp [accountOperations])
      case inr.inr.inr.inr.inr.inr.inl =>
        exact hcreate (.role .validatorList) _ _ rfl ⟨p.validatorList.size_le_space, rfl⟩
          (by simp [accountOperations])
      all_goals exact hfill.elim
    · simp only [tokenOperations, List.mem_cons, List.not_mem_nil, or_false] at htoken
      rcases htoken with rfl | rfl | rfl | rfl
      · exact hcreate (.role .stMint) (UInt64.ofNat Mint.size) _ rfl ⟨rfl, rfl⟩
          (by simp [accountOperations])
      · exact hcreate (.role .lpMint) (UInt64.ofNat Mint.size) _ rfl ⟨rfl, rfl⟩
          (by simp [accountOperations])
      · exact hcreate (.role .stLeg) (UInt64.ofNat TokenAccount.size) _ rfl ⟨rfl, rfl⟩
          (by simp [accountOperations])
      · exact hcreate (.role .treasury) (UInt64.ofNat TokenAccount.size) _ rfl ⟨rfl, rfl⟩
          (by simp [accountOperations])
  · obtain rfl := List.mem_singleton.mp hlast
    exact hcreate .config (UInt64.ofNat PoolRecord.size) _ rfl ⟨rfl, rfl⟩
      (by simp [accountOperations])

theorem eq_or_precedes (hdistinct : book.Distinct) {op other : Operation}
    (hop : op ∈ all book p rent) (hother : other ∈ all book p rent) :
    op = other ∨ other.Precedes book.programId op ∨ op.Precedes book.programId other := by
  have hplan : (all book p rent).Pairwise _ := pairwise_all hdistinct
  refine List.Pairwise.forall_of_forall_of_flip (R := fun op other => op = other ∨
    other.Precedes book.programId op ∨ op.Precedes book.programId other) (fun _ _ => .inl rfl)
    (hplan.imp fun hprecedes => .inr (.inr hprecedes))
    (hplan.imp fun hprecedes => .inr (.inl hprecedes)) hop hother

theorem nodup_all (hdistinct : book.Distinct) : (all book p rent).Nodup := by
  refine (pairwise_all hdistinct).imp fun {op other} hprecedes heq => ?_
  subst heq
  obtain hne | ⟨slot, space, lamports, owner, hcreate, hfits⟩ := hprecedes
  · exact hne rfl
  · rw [hcreate] at hfits
    exact hfits

theorem target_mem {op : Operation} (h : op ∈ all book p rent) : op.target ∈ book := by
  have hall : ∀ op ∈ all book p rent, op.target ∈ book := by
    simp [all, groundwork, accountOperations, tokenOperations, recordWrite, create,
      Operation.target]
  exact hall op h

theorem pinned_standard : 0 < pinned .standard := by decide +kernel

theorem settles_groundwork (hrent : 0 < pinned rent) :
    ∀ op ∈ groundwork book p rent, op.Settles := by
  have hregistry (shape : RegistryShape) : 0 < shape.space.toNat :=
    Nat.lt_of_lt_of_le (Nat.zero_lt_succ 87) shape.size_le_space
  have hstake : ¬ Bytes.IsBlank (p.stakeList.header book.pool).encode :=
    p.stakeList.not_isBlank_header book.pool RegistryShape.not_isBlank_stakeListDiscriminator
  have hvalidator : ¬ Bytes.IsBlank (p.validatorList.header book.pool).encode :=
    p.validatorList.not_isBlank_header book.pool
      RegistryShape.not_isBlank_validatorListDiscriminator
  have hcreate {slot : Slot} {size : UInt64} {owner : Key} (hsize : 0 < size.toNat) :
      (create book rent slot size owner).Settles := hsize
  simp only [groundwork, accountOperations, tokenOperations, List.cons_append, List.nil_append,
    List.forall_mem_cons]
  refine ⟨hcreate (by decide), hrent, hrent, hcreate (hregistry _), hcreate (hregistry _), hstake,
    hvalidator, hcreate (by decide), hcreate (by decide), hcreate (by decide), hcreate (by decide),
    trivial, trivial, trivial, trivial, ?_⟩
  exact fun _ hnil => nomatch hnil

/-- After a run of some operations of a plan exactly those have moved on. -/
theorem status_of_apply {payer : Key} {before after : Accounts} {done : List Operation}
    {op : Operation} (hdistinct : book.Distinct) (hpayer : payer ∉ book)
    (hdone : ∀ other ∈ done, other ∈ all book p rent) (hop : op ∈ all book p rent)
    (hsettles : op ∈ done → op.Settles)
    (h : (Batch.mk book.programId payer done).apply rent before = .ok after) :
    op.status after.find? book.programId
      = if op ∈ done then .applied else op.status before.find? book.programId := by
  have htarget : op.target ≠ payer := fun heq => hpayer (heq ▸ target_mem hop)
  exact Operation.status_batch
    (fun other hother => eq_or_precedes hdistinct (hdone other hother) hop) hsettles htarget h

end Plan

end StakePool
