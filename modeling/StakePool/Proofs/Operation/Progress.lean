import StakePool.Operation.Status
import StakePool.Proofs.Store.Submission
/-!
# The status of operations along a run

How the operations of a plan stand after some of them have been carried out. In a plan two
operations have the same target only where the first makes the account that the second fills in, and
then carrying out one of them does not change how the other stands: an account to be filled in looks
to a later operation just like a vacant one, and filling it in leaves its size and its owner alone.
So after a run exactly the operations of the run have moved on, and they count as applied.
Everything about resuming a setup rests on `status_batch`.
-/

namespace StakePool

variable {rent : Rent} {programId payer : Key}

namespace Operation

/-- The operation fills in accounts of this size and owner. -/
def Fits (programId : Key) : Operation → (size : Nat) → (owner : Key) → Prop
  | openMint .., size, owner => size = Mint.size ∧ owner = .tokenProgram
  | openTokenAccount .., size, owner => size = TokenAccount.size ∧ owner = .tokenProgram
  | writeRegistry .., size, owner => RegistryHeader.size ≤ size ∧ owner = programId
  | writeRecord .., size, owner => size = PoolRecord.size ∧ owner = programId
  | createAccount .., _, _ | fund .., _, _ => False

/-- The first operation creates a blank account of just the kind that the second fills in. -/
def MakesRoomFor (programId : Key) (first second : Operation) : Prop :=
  ∃ slot space lamports owner,
    first = createAccount slot second.target space lamports owner
      ∧ second.Fits programId space.toNat owner

/-- In a plan the first operation may come somewhere before the second. -/
def Precedes (programId : Key) (first second : Operation) : Prop :=
  first.target ≠ second.target ∨ first.MakesRoomFor programId second

/-- Once carried out, the operation counts as applied. -/
def Settles : Operation → Prop
  | createAccount _ _ space .. => 0 < space.toNat
  | fund _ lamports => 0 < lamports
  | writeRegistry _ header => ¬ Bytes.IsBlank header.encode
  | writeRecord .. => False
  | openMint .. | openTokenAccount .. => True

variable {op other : Operation} {before after : Accounts}

theorem status_congr {reader reader' : Reader} (h : reader op.target = reader' op.target) :
    op.status reader programId = op.status reader' programId := by
  rw [status, status, h]

theorem status_of_vacant (op : Operation) {reader : Reader} {account : Account}
    (hfound : reader op.target = some account) (hvacant : account.IsVacant) :
    op.status reader programId = op.statusOfVacant account := by
  rw [status, hfound]
  exact if_pos hvacant

theorem status_of_taken (op : Operation) {reader : Reader} {account : Account}
    (hfound : reader op.target = some account) (htaken : ¬ account.IsVacant) :
    op.status reader programId = op.statusOfTaken account programId := by
  rw [status, hfound]
  exact if_neg htaken

theorem status_writeRecord_ne_applied {address : Key} {record : PoolRecord} {reader : Reader} :
    (writeRecord address record).status reader programId ≠ .applied := by
  cases hfound : reader address with
  | none => simp [status, target, hfound]
  | some account =>
    by_cases hvacant : account.IsVacant
    · rw [status_of_vacant _ hfound hvacant]
      simp [statusOfVacant]
    · rw [status_of_taken _ hfound hvacant, statusOfTaken]
      split <;> simp

theorem find?_apply_target (h : op.apply rent programId payer before = .ok after)
    (hbusy : ¬ op.IsIdle (before.get op.target)) :
    after.find? op.target = some (op.result (before.get op.target)) := by
  rw [find?_apply h, if_pos rfl, if_neg hbusy]

end Operation

namespace Bytes

theorem isBlank_take {data : Bytes} (h : data.IsBlank) (size : Nat) :
    IsBlank (data.take size) :=
  fun byte hmem => h byte (List.mem_of_mem_take hmem)

end Bytes

/-- What the token program reads in data that is still blank. -/
def Mint.blank : Mint := ⟨none, 0, 0, false, none⟩

theorem Mint.ofData?_zeros : Mint.ofData? (Bytes.zeros Mint.size) = some Mint.blank := by
  decide +kernel

/-- What the token program reads in data that is still blank. -/
def TokenAccount.blank : TokenAccount := ⟨.zero, .zero, 0, none, .uninitialized, none, 0, none⟩

theorem TokenAccount.ofData?_zeros :
    TokenAccount.ofData? (Bytes.zeros TokenAccount.size) = some TokenAccount.blank := by
  decide +kernel

namespace Operation

variable {op other : Operation} {before after : Accounts}

theorem status_fund_apply {address : Key} {lamports : UInt64} (hpositive : 0 < lamports)
    (h : (fund address lamports).apply rent programId payer before = .ok after) :
    (fund address lamports).status after.find? programId = .applied := by
  have hvacant : (before.get address).IsVacant := (apply_eq_ok_iff.mp h).1
  have hget : after.get address = { before.get address with
      lamports := max (before.get address).lamports lamports } := get_apply_target h
  have hle := Saturating.le_max_right (before.get address).lamports lamports
  have hfound : after.find? address = some (after.get address) := by
    apply Accounts.find?_eq_some_get
    intro hplain
    rw [hplain] at hget
    rw [← show (Account.plain 0).lamports = max (before.get address).lamports lamports by rw [hget]]
      at hle
    exact absurd hpositive (UInt64.not_lt.mpr hle)
  rw [status_of_vacant _ hfound (by rw [hget]; exact hvacant), hget]
  exact if_pos hle

/-- The operation fills in an account that is there already. -/
def IsFill : Operation → Prop
  | createAccount .. | fund .. => False
  | openMint .. | openTokenAccount .. | writeRegistry .. | writeRecord .. => True

theorem owner_result_of_isFill (hfill : op.IsFill) (account : Account) :
    (op.result account).owner = account.owner := by
  cases op with
  | createAccount | fund => exact hfill.elim
  | openMint | openTokenAccount | writeRegistry | writeRecord => rfl

theorem length_result_of_isFill (hfill : op.IsFill) {account : Account}
    (hadmits : op.Admits rent programId account) :
    (op.result account).data.length = account.data.length := by
  cases op with
  | createAccount | fund => exact hfill.elim
  | openMint => exact (Mint.length_writeOver _ _).trans hadmits.2.1.symm
  | openTokenAccount => exact (TokenAccount.length_writeOver _ _).trans hadmits.2.1.symm
  | writeRegistry address header =>
    exact Bytes.length_overwrite
      (Nat.le_trans (Nat.le_of_eq (RegistryHeader.layout.length_encode header)) hadmits.2.1)
  | writeRecord address record =>
    exact (PoolRecord.layout.length_encode record).trans hadmits.2.1.symm

theorem length_pos_of_isFill (hfill : op.IsFill) {account : Account}
    (hadmits : op.Admits rent programId account) : 0 < account.data.length := by
  cases op with
  | createAccount | fund => exact hfill.elim
  | openMint => exact hadmits.2.1 ▸ Nat.zero_lt_succ 81
  | openTokenAccount => exact hadmits.2.1 ▸ Nat.zero_lt_succ 164
  | writeRegistry => exact Nat.lt_of_lt_of_le (Nat.zero_lt_succ 87) hadmits.2.1
  | writeRecord => exact hadmits.2.1 ▸ Nat.zero_lt_succ 551

theorem not_isIdle_of_isFill (hfill : op.IsFill) (account : Account) : ¬ op.IsIdle account := by
  cases op with
  | createAccount | fund => exact hfill.elim
  | openMint | openTokenAccount | writeRegistry | writeRecord => exact id

theorem statusOfTaken_result (hfill : op.IsFill) (hsettles : op.Settles) {account : Account}
    (hadmits : op.Admits rent programId account) :
    op.statusOfTaken (op.result account) programId = .applied := by
  cases op with
  | createAccount | fund => exact hfill.elim
  | writeRecord => exact hsettles.elim
  | openMint mint decimals authority freezeAuthority =>
    simp [statusOfTaken, result, hadmits.1, Mint.opened]
  | openTokenAccount address mint owner =>
    simp [statusOfTaken, result, hadmits.1, TokenAccount.opened]
  | writeRegistry address header =>
    have hlength : header.encode.length = RegistryHeader.size :=
      RegistryHeader.layout.length_encode header
    have hfront : (Bytes.overwrite header.encode account.data).take RegistryHeader.size
        = header.encode := List.take_left' hlength
    have hsize := length_result_of_isFill hfill hadmits
    simp only [result] at hsize
    simp only [statusOfTaken, result, hadmits.1, hfront, hsize, Nat.not_lt.mpr hadmits.2.1,
      ne_eq, not_true_eq_false, or_self, if_false, if_true]
    exact if_neg hsettles

/-- An operation that has been carried out counts as applied. -/
theorem status_apply_self (hsettles : op.Settles)
    (h : op.apply rent programId payer before = .ok after) :
    op.status after.find? programId = .applied := by
  have hadmits := (apply_eq_ok_iff.mp h).1
  have hfilled (hfill : op.IsFill) : op.status after.find? programId = .applied := by
    rw [status_of_taken _ (find?_apply_target h (not_isIdle_of_isFill hfill _))]
    · exact statusOfTaken_result hfill hsettles hadmits
    · apply Account.not_isVacant_of_length
      rw [length_result_of_isFill hfill hadmits]
      exact length_pos_of_isFill hfill hadmits
  cases op with
  | fund address lamports => exact status_fund_apply hsettles h
  | createAccount slot address space lamports owner =>
    have hspace : 0 < space.toNat := hsettles
    rw [status_of_taken _ (find?_apply_target h id)]
    · simp [result, statusOfTaken]
    · apply Account.not_isVacant_of_length
      simpa [result] using hspace
  | openMint | openTokenAccount | writeRegistry => exact hfilled trivial
  | writeRecord => exact hsettles.elim

theorem status_apply_of_ne (htarget : other.target ≠ op.target) (hpayer : other.target ≠ payer)
    (h : op.apply rent programId payer before = .ok after) :
    other.status after.find? programId = other.status before.find? programId :=
  status_congr (find?_apply_of_ne h htarget hpayer)

theorem Fits.isFill {size : Nat} {owner : Key} (h : op.Fits programId size owner) : op.IsFill := by
  cases op with
  | createAccount | fund => exact h.elim
  | openMint | openTokenAccount | writeRegistry | writeRecord => trivial

theorem Fits.pos {size : Nat} {owner : Key} (h : op.Fits programId size owner) : 0 < size := by
  cases op with
  | createAccount | fund => exact h.elim
  | openMint => exact h.1 ▸ Nat.zero_lt_succ 81
  | openTokenAccount => exact h.1 ▸ Nat.zero_lt_succ 164
  | writeRegistry => exact Nat.lt_of_lt_of_le (Nat.zero_lt_succ 87) h.1
  | writeRecord => exact h.1 ▸ Nat.zero_lt_succ 551

theorem statusOfVacant_of_isFill (hfill : op.IsFill) (account : Account) :
    op.statusOfVacant account = .pending := by
  cases op with
  | createAccount | fund => exact hfill.elim
  | openMint | openTokenAccount | writeRegistry | writeRecord => rfl

theorem statusOfTaken_blank {size : Nat} {owner : Key} (h : op.Fits programId size owner)
    (lamports : UInt64) :
    op.statusOfTaken ⟨lamports, Bytes.zeros size, owner⟩ programId = .pending := by
  cases op with
  | createAccount | fund => exact h.elim
  | openMint =>
    obtain ⟨rfl, rfl⟩ := h
    simp [statusOfTaken, Mint.ofData?_zeros, Mint.blank]
  | openTokenAccount =>
    obtain ⟨rfl, rfl⟩ := h
    simp [statusOfTaken, TokenAccount.ofData?_zeros, TokenAccount.blank]
  | writeRegistry =>
    obtain ⟨hsize, rfl⟩ := h
    simp [statusOfTaken, Nat.not_lt.mpr hsize, Bytes.isBlank_take (Bytes.isBlank_zeros size)]
  | writeRecord =>
    obtain ⟨rfl, rfl⟩ := h
    simp [statusOfTaken, Bytes.isBlank_zeros]

/-- Filling in an account leaves the status of the operation that created it alone. -/
theorem status_create_apply_fill (hroom : other.MakesRoomFor programId op)
    (h : op.apply rent programId payer before = .ok after) :
    other.status after.find? programId = other.status before.find? programId := by
  obtain ⟨slot, space, lamports, owner, rfl, hfits⟩ := hroom
  have hfill := hfits.isFill
  have hadmits := (apply_eq_ok_iff.mp h).1
  have hpos := length_pos_of_isFill hfill hadmits
  have hlength := length_result_of_isFill hfill hadmits
  have hbefore : before.find? op.target = some (before.get op.target) :=
    before.find?_of_length_pos hpos
  have hafter := find?_apply_target h (not_isIdle_of_isFill hfill _)
  rw [status_of_taken (createAccount slot op.target space lamports owner) hbefore
      (Account.not_isVacant_of_length hpos),
    status_of_taken (createAccount slot op.target space lamports owner) hafter
      (Account.not_isVacant_of_length (hlength ▸ hpos))]
  simp only [statusOfTaken, owner_result_of_isFill hfill, hlength]

theorem status_fill_apply_create (hroom : op.MakesRoomFor programId other)
    (h : op.apply rent programId payer before = .ok after) :
    other.status after.find? programId = other.status before.find? programId := by
  obtain ⟨slot, space, lamports, owner, rfl, hfits⟩ := hroom
  have hvacant : (before.get other.target).IsVacant := (apply_eq_ok_iff.mp h).1.1
  have hbefore : other.status before.find? programId = .pending := by
    cases hfound : before.find? other.target with
    | none => rw [status, hfound]
    | some account =>
      rw [Accounts.get_eq_of_find? hfound] at hvacant
      rw [status_of_vacant _ hfound hvacant, statusOfVacant_of_isFill hfits.isFill]
  have hafter := find?_apply_target h id
  rw [hbefore, status_of_taken other hafter]
  · exact statusOfTaken_blank hfits _
  · apply Account.not_isVacant_of_length
    simpa [result] using hfits.pos

theorem MakesRoomFor.target_eq (h : op.MakesRoomFor programId other) :
    op.target = other.target := by
  obtain ⟨slot, space, lamports, owner, rfl, -⟩ := h
  rfl

/-- Operations of one plan do not get in each other's way. -/
theorem status_apply (hplan : other.Precedes programId op ∨ op.Precedes programId other)
    (hpayer : other.target ≠ payer) (h : op.apply rent programId payer before = .ok after) :
    other.status after.find? programId = other.status before.find? programId := by
  obtain (hne | hroom) | (hne | hroom) := hplan
  · exact status_apply_of_ne hne hpayer h
  · exact status_create_apply_fill hroom h
  · exact status_apply_of_ne hne.symm hpayer h
  · exact status_fill_apply_create hroom h

/-- After a run exactly the operations of the run have moved on. -/
theorem status_batch {operations : List Operation}
    (hplan : ∀ op ∈ operations,
      op = other ∨ other.Precedes programId op ∨ op.Precedes programId other)
    (hsettles : other ∈ operations → other.Settles) (hpayer : other.target ≠ payer)
    (h : (Batch.mk programId payer operations).apply rent before = .ok after) :
    other.status after.find? programId
      = if other ∈ operations then .applied else other.status before.find? programId := by
  induction operations generalizing before with
  | nil =>
    obtain rfl := Except.ok.inj h
    simp
  | cons op rest ih =>
    obtain ⟨middle, hop, hrest⟩ := Batch.apply_cons_eq_ok_iff.mp h
    rw [ih (fun op hop => hplan op (List.mem_cons_of_mem _ hop))
      (fun hmem => hsettles (List.mem_cons_of_mem _ hmem)) hrest]
    by_cases hlater : other ∈ rest
    · rw [if_pos hlater, if_pos (List.mem_cons_of_mem _ hlater)]
    · rw [if_neg hlater]
      by_cases hnow : op = other
      · subst hnow
        rw [if_pos List.mem_cons_self, status_apply_self (hsettles List.mem_cons_self) hop]
      · have hnotmem : other ∉ op :: rest := by
          simp only [List.mem_cons, not_or]
          exact ⟨fun heq => hnow heq.symm, hlater⟩
        rw [if_neg hnotmem]
        exact status_apply ((hplan op List.mem_cons_self).resolve_left hnow) hpayer hop

end Operation

end StakePool
