import Mathlib.Data.List.Forall2
import Mathlib.Tactic.SplitIfs
import StakePool.Chain.Runtime
import StakePool.Proofs.Chain.Contract
import StakePool.Proofs.Operation.Progress
/-!
# The two programs on the chain

`Runtime.faithful` keeps the contract that the program relies on. The programs themselves answer a
call as soon as its accounts are passed along and its signatures are in order
(`programs_run_eq_ok_iff`), and the ledger lets an answer pass that breaks none of its rules
(`guarded_run_eq_ok_iff`). What the rules add can be seen without looking at the programs: whatever
they answer, lamports only leave accounts of the program that was called (`owner_of_charged`).
-/

namespace StakePool

theorem Account.breach?_eq_none_iff {program : Key} {isWritable : Bool} {before after : Account} :
    Account.breach? program isWritable before after = none
      ↔ (isWritable ∨ after = before)
        ∧ (before.owner = program ∨ before.lamports ≤ after.lamports ∧ after.data = before.data
          ∧ after.owner = before.owner)
        ∧ (after.owner = before.owner ∨ after.data.IsBlank)
        ∧ after.data.length ≤ before.data.length + maxCreatedSpace.toNat := by
  simp only [breach?, ← UInt64.not_lt]
  split_ifs <;> simp <;> grind

namespace Chain

variable {scheme : AddressScheme} {programId : Key} {rent : Rent} {past : List Invocation}
  {invocation : Invocation} {cells after : Cells}

/-! ### What the programs do to the cells -/

theorem maxCreatedSpace_le : maxCreatedSpace ≤ Cells.maxSpace := by decide

namespace Cells

variable {payer target mint : Handle} {lamports space : UInt64} {owner : Key}

theorem allocate_eq_ok_iff :
    cells.allocate target space = .ok after
      ↔ ((cells.get target).IsVacant ∧ space ≤ maxSpace)
        ∧ cells.put target { cells.get target with data := Bytes.zeros space.toNat } = after := by
  simp only [allocate, Except.ite_error_eq_ok_iff, Decidable.not_not, UInt64.not_lt,
    Except.ok.injEq, and_assoc]

theorem transfer_eq_ok_iff (hapart : payer.cell ≠ target.cell) :
    cells.transfer payer target lamports = .ok after
      ↔ (cells.get payer).data = [] ∧ lamports ≤ (cells.get payer).lamports
        ∧ (cells.get target).lamports.toNat + lamports.toNat < UInt64.size
        ∧ (cells.charge payer lamports).put target
          { cells.get target with lamports := (cells.get target).lamports + lamports } = after := by
  simp only [transfer, get_put_of_ne hapart.symm, Except.ite_error_eq_ok_iff, ne_eq,
    Decidable.not_not, UInt64.not_lt, Nat.not_le, Except.ok.injEq, charge]

theorem createAccount_eq_ok_iff (hapart : payer.cell ≠ target.cell)
    (htarget : target.cell < cells.length) :
    cells.createAccount payer target lamports space owner = .ok after
      ↔ ((cells.get target).lamports = 0 ∧ (cells.get target).IsVacant ∧ space ≤ maxSpace
          ∧ (cells.get payer).data = [] ∧ lamports ≤ (cells.get payer).lamports)
        ∧ (cells.charge payer lamports).put target
          ⟨lamports, Bytes.zeros space.toNat, owner⟩ = after := by
  simp only [createAccount, Except.ite_error_eq_ok_iff, ne_eq, Decidable.not_not, and_assoc]
  refine and_congr_right fun hempty => ?_
  -- The transfer finds the target furnished and the payer as it was.
  let furnished := cells.put target ⟨0, Bytes.zeros space.toNat, owner⟩
  have hfurnished (allocated : Cells) (h : cells.put target
      { cells.get target with data := Bytes.zeros space.toNat } = allocated) :
      allocated.assign target owner = furnished := by
    rw [← h, assign, get_put_self htarget, put_put]
    dsimp only
    rw [hempty]
  have htransfer : furnished.transfer payer target lamports = .ok after
      ↔ (cells.get payer).data = [] ∧ lamports ≤ (cells.get payer).lamports
        ∧ (cells.charge payer lamports).put target
          ⟨lamports, Bytes.zeros space.toNat, owner⟩ = after := by
    have hroom : (0 : UInt64).toNat + lamports.toNat < UInt64.size := by
      rw [UInt64.toNat_zero, Nat.zero_add]
      exact lamports.toNat_lt
    rw [transfer_eq_ok_iff hapart, charge, get_put_self htarget, get_put_of_ne hapart,
      and_iff_right hroom, put_comm hapart.symm, put_put, UInt64.zero_add]
    rfl
  rw [Except.bind_eq_ok_iff, ← htransfer]
  simp only [allocate_eq_ok_iff]
  constructor
  · rintro ⟨allocated, ⟨⟨hvacant, hspace⟩, h⟩, hafter⟩
    exact ⟨hvacant, hspace, hfurnished allocated h ▸ hafter⟩
  · rintro ⟨hvacant, hspace, hafter⟩
    exact ⟨_, ⟨⟨hvacant, hspace⟩, rfl⟩, (hfurnished _ rfl).symm ▸ hafter⟩

theorem openMint_of_blank {lamports : UInt64}
    (hblank : cells.get mint = ⟨lamports, Bytes.zeros Mint.size, .tokenProgram⟩)
    (hexempt : rent.IsExempt lamports Mint.size) (decimals : UInt8) (authority : Key)
    (freezeAuthority : Option Key) :
    cells.openMint rent mint decimals authority freezeAuthority
      = .ok (cells.put mint { cells.get mint with
        data := (Mint.opened decimals authority freezeAuthority).writeOver
          (cells.get mint).data }) := by
  have hclosed : ¬ Mint.blank.isInitialized := Bool.false_ne_true
  simp only [openMint, hblank, Mint.ofData?_zeros, Bytes.length_zeros]
  rw [if_neg hclosed, if_neg (not_not.mpr hexempt)]
  rfl

theorem openTokenAccount_of_blank {lamports : UInt64} (hnative : mint.key ≠ .nativeMint)
    (hblank : cells.get target = ⟨lamports, Bytes.zeros TokenAccount.size, .tokenProgram⟩)
    (hexempt : rent.IsExempt lamports TokenAccount.size) :
    cells.openTokenAccount rent target mint owner = .ok after
      ↔ ((cells.get mint).owner = .tokenProgram ∧ (Mint.initialized? (cells.get mint).data).isSome)
        ∧ cells.put target { cells.get target with
          data := (TokenAccount.opened mint.key owner).writeOver (cells.get target).data }
            = after := by
  have hclosed : TokenAccount.blank.state = .uninitialized := rfl
  simp only [openTokenAccount, hblank, TokenAccount.ofData?_zeros, Bytes.length_zeros]
  rw [if_neg (not_not.mpr hclosed), if_neg (not_not.mpr hexempt), if_neg hnative]
  simp only [Except.ite_error_eq_ok_iff, ne_eq, Decidable.not_not, Option.isNone_iff_eq_none,
    Option.isSome_iff_ne_none, Except.ok.injEq, and_assoc]

end Cells

/-! ### Accounts that are granted -/

namespace Invocation

/-- These are the handles that are passed along for the accounts of the call. -/
def Resolves (invocation : Invocation) (handles : List Handle) : Prop :=
  List.Forall₂ (fun access handle => invocation.handle? access.key = some handle)
    invocation.call.accesses handles

/-- The handle is good for what the access asks for. -/
def Entitles (scheme : AddressScheme) (programId : Key) (invocation : Invocation)
    (access : Access) (handle : Handle) : Prop :=
  (access.isSigner → handle.isSigner ∨ invocation.SignsFor scheme programId access.key)
    ∧ (access.isWritable → handle.isWritable)

theorem grant_eq_ok_iff {access : Access} {handle : Handle} :
    invocation.grant scheme programId access = .ok handle
      ↔ invocation.handle? access.key = some handle
        ∧ (access.isSigner → handle.isSigner ∨ invocation.SignsFor scheme programId access.key) := by
  rw [grant]
  cases invocation.handle? access.key with
  | none => simp
  | some found =>
    simp only [Except.ite_error_eq_ok_iff, Except.ok.injEq, Option.some.injEq]
    rw [and_comm]
    refine and_congr_right fun heq => ?_
    subst heq
    tauto

theorem breach?_eq_none_iff :
    invocation.breach? cells after = none
      ↔ ∀ access ∈ invocation.call.accesses, ∀ handle, invocation.handle? access.key = some handle →
        Account.breach? invocation.program access.isWritable (cells.get handle) (after.get handle)
          = none := by
  simp [breach?, List.findSome?_eq_none_iff]

theorem Resolves.unique {handles others : List Handle} (h : invocation.Resolves handles)
    (hothers : invocation.Resolves others) : others = handles :=
  List.right_unique_forall₂' (fun _ _ _ hfirst hsecond =>
    Option.some.inj (hfirst.symm.trans hsecond)) hothers h

theorem Resolves.forall {handles : List Handle} {R : Access → Handle → Prop}
    (h : invocation.Resolves handles) (hall : List.Forall₂ R invocation.call.accesses handles) :
    ∀ access ∈ invocation.call.accesses, ∀ handle, invocation.handle? access.key = some handle →
      R access handle := by
  rw [Resolves] at h
  generalize invocation.call.accesses = accesses at h hall
  induction h with
  | nil => simp
  | cons hfirst hrest ih =>
    cases hall with
    | cons hhead htail =>
      refine List.forall_mem_cons.mpr ⟨fun handle hhandle => ?_, ih htail⟩
      obtain rfl := Option.some.inj (hfirst.symm.trans hhandle)
      exact hhead

end Invocation

theorem mapM_eq_ok_iff {ε α β : Type} {f : α → Except ε β} {as : List α} {bs : List β} :
    as.mapM f = .ok bs ↔ List.Forall₂ (fun a b => f a = .ok b) as bs := by
  induction as generalizing bs with
  | nil => simp [pure, Except.pure, eq_comm]
  | cons a rest ih =>
    simp only [List.mapM_cons, Except.bind_eq_ok_iff, List.forall₂_cons_left_iff, ih, pure,
      Except.pure, Except.ok.injEq]
    constructor
    · rintro ⟨b, hb, others, hrest, rfl⟩
      exact ⟨b, others, hb, hrest, rfl⟩
    · rintro ⟨b, others, hb, hrest, rfl⟩
      exact ⟨b, hb, others, hrest, rfl⟩

namespace Runtime

theorem programs_run_eq_ok_iff :
    (programs scheme programId rent).run past invocation cells = .ok after
      ↔ invocation.program = invocation.call.program
        ∧ ∃ granted, List.Forall₂ (fun access handle =>
            invocation.grant scheme programId access = .ok handle) invocation.call.accesses granted
          ∧ invocation.call.answer rent cells granted = .ok after := by
  simp only [programs, Except.ite_throw_eq_ok_iff, Except.bind_eq_ok_iff, mapM_eq_ok_iff, ne_eq,
    Decidable.not_not]

theorem guarded_run_eq_ok_iff {runtime : Runtime} :
    runtime.guarded.run past invocation cells = .ok after
      ↔ ¬ invocation.Escalates ∧ runtime.run past invocation cells = .ok after
        ∧ invocation.breach? cells after = none := by
  simp only [guarded, Except.ite_throw_eq_ok_iff, Except.bind_eq_ok_iff]
  refine and_congr_right fun _ => ?_
  constructor
  · rintro ⟨answered, hrun, hpassed⟩
    cases hbreach : invocation.breach? cells answered with
    | none =>
      rw [hbreach] at hpassed
      obtain rfl := Except.ok.inj hpassed
      exact ⟨hrun, hbreach⟩
    | some error =>
      rw [hbreach] at hpassed
      cases hpassed
  · rintro ⟨hrun, hbreach⟩
    exact ⟨after, hrun, by rw [hbreach]; rfl⟩

/-- Lamports are only taken from accounts of the program that was called. -/
theorem owner_of_charged {runtime : Runtime} {access : Access} {handle : Handle}
    (h : runtime.guarded.run past invocation cells = .ok after)
    (haccess : access ∈ invocation.call.accesses)
    (hhandle : invocation.handle? access.key = some handle)
    (hcharged : (after.get handle).lamports < (cells.get handle).lamports) :
    (cells.get handle).owner = invocation.program := by
  obtain ⟨-, -, hbreach⟩ := guarded_run_eq_ok_iff.mp h
  have hlawful := Invocation.breach?_eq_none_iff.mp hbreach access haccess handle hhandle
  obtain ⟨-, hown | ⟨hkept, -⟩, -⟩ := Account.breach?_eq_none_iff.mp hlawful
  · exact hown
  · exact absurd hcharged (UInt64.not_lt.mpr hkept)

/-- A call goes through if the program accepts it, the handles are good for it and what comes of it
is lawful. -/
theorem faithful_answers (handles : List Handle) (possible : Prop) {allowed condition : Prop}
    {effect : Cells} (hprogram : invocation.program = invocation.call.program)
    (hresolves : invocation.Resolves handles)
    (hanswer : ∀ after, invocation.call.answer rent cells handles = .ok after
      ↔ possible ∧ effect = after)
    (hcondition : possible → condition) (hpossible : allowed → condition → possible)
    (hentitles : allowed →
      List.Forall₂ (invocation.Entitles scheme programId) invocation.call.accesses handles)
    (hlawful : allowed → condition → List.Forall₂ (fun access handle =>
      Account.breach? invocation.program access.isWritable (cells.get handle) (effect.get handle)
        = none) invocation.call.accesses handles) :
    Answers ((faithful scheme programId rent).run past invocation cells) allowed condition
      effect where
  given hallowed hc := by
    have hentitled := hentitles hallowed
    have hheld : ¬ invocation.Escalates := by
      intro hescalates
      obtain ⟨access, haccess, hwritable, handle, hhandle, hreadonly⟩ := hescalates
      exact hreadonly ((hresolves.forall hentitled access haccess handle hhandle).2 hwritable)
    have hgranted : List.Forall₂ (fun access handle =>
        invocation.grant scheme programId access = .ok handle) invocation.call.accesses handles :=
      List.forall₂_iff_zip.mpr ⟨hresolves.length_eq, fun hmem => Invocation.grant_eq_ok_iff.mpr
        ⟨List.forall₂_zip hresolves hmem, (List.forall₂_zip hentitled hmem).1⟩⟩
    have hanswered := (hanswer effect).mpr ⟨hpossible hallowed hc, rfl⟩
    exact guarded_run_eq_ok_iff.mpr ⟨hheld,
      programs_run_eq_ok_iff.mpr ⟨hprogram, handles, hgranted, hanswered⟩,
      Invocation.breach?_eq_none_iff.mpr (hresolves.forall (hlawful hallowed hc))⟩
  only after hafter := by
    obtain ⟨-, hrun, -⟩ := guarded_run_eq_ok_iff.mp hafter
    obtain ⟨-, granted, hgranted, hanswered⟩ := programs_run_eq_ok_iff.mp hrun
    obtain rfl := hresolves.unique
      (hgranted.imp fun _ _ hgrant => (Invocation.grant_eq_ok_iff.mp hgrant).1)
    obtain ⟨hp, rfl⟩ := (hanswer after).mp hanswered
    exact ⟨hcondition hp, rfl⟩

section Calls

variable (past : List Invocation) {payer target mint : Handle} (system token : Handle)
  {lamports : UInt64} (space : UInt64) (owner : Key) (seeds : List Bytes)

theorem faithful_createAccount (hapart : cells.HoldsApart [payer, target])
    (hempty : (cells.get target).lamports = 0) :
    Answers ((faithful scheme programId rent).run past
        (.createAccount payer target system lamports space owner seeds) cells)
      (payer.IsChargeable (cells.get payer) ∧ target.isWritable
        ∧ scheme.create? seeds programId = some target.key ∧ space ≤ maxCreatedSpace)
      ((cells.get target).IsVacant ∧ lamports ≤ (cells.get payer).lamports)
      ((cells.charge payer lamports).put target ⟨lamports, Bytes.zeros space.toNat, owner⟩) := by
  have hne := hapart.apart.1
  obtain ⟨hcharged, hcreated⟩ := hapart.get_charged lamports
    ⟨lamports, Bytes.zeros space.toNat, owner⟩
  refine faithful_answers [payer, target] _ rfl ?resolves
    (fun after => Cells.createAccount_eq_ok_iff hapart.apart.2 (hapart.cell_lt target (by simp)))
    (fun h => ⟨h.2.1, h.2.2.2.2⟩) ?possible ?entitles ?lawful
  case resolves =>
    simp [Invocation.Resolves, Invocation.createAccount, Call.accesses, Invocation.handle?, hne]
  case possible =>
    intro hallowed hcondition
    obtain ⟨hpayer, -, -, hspace⟩ := hallowed
    obtain ⟨hvacant, hreach⟩ := hcondition
    exact ⟨hempty, hvacant, UInt64.le_trans hspace maxCreatedSpace_le, hpayer.data_eq, hreach⟩
  case entitles =>
    intro hallowed
    obtain ⟨hpayer, hwritable, hseeds, -⟩ := hallowed
    simp [Invocation.Entitles, Invocation.SignsFor, Invocation.createAccount, Call.accesses,
      hpayer.signed, hpayer.writable, hwritable, hseeds]
  case lawful =>
    intro hallowed hcondition
    obtain ⟨hpayer, -, -, hspace⟩ := hallowed
    have hvacant := hcondition.1
    simp [Invocation.createAccount, Call.accesses, Account.breach?_eq_none_iff, hcharged, hcreated,
      hpayer.owner_eq, hvacant.2, Bytes.isBlank_zeros, hvacant.1, UInt64.le_iff_toNat_le.mp hspace]

theorem faithful_transfer (hapart : cells.HoldsApart [payer, target])
    (hroom : (cells.get target).lamports.toNat + lamports.toNat < UInt64.size) :
    Answers ((faithful scheme programId rent).run past (.transfer payer target system lamports)
        cells)
      (payer.IsChargeable (cells.get payer) ∧ target.isWritable)
      (lamports ≤ (cells.get payer).lamports)
      ((cells.charge payer lamports).put target
        { cells.get target with lamports := (cells.get target).lamports + lamports }) := by
  have hne := hapart.apart.1
  have hanswer (after : Cells) : cells.transfer payer target lamports = .ok after
      ↔ ((cells.get payer).data = [] ∧ lamports ≤ (cells.get payer).lamports)
        ∧ (cells.charge payer lamports).put target
          { cells.get target with lamports := (cells.get target).lamports + lamports } = after := by
    rw [Cells.transfer_eq_ok_iff hapart.apart.2, and_iff_right hroom, and_assoc]
  obtain ⟨hcharged, hcredited⟩ := hapart.get_charged lamports
    { cells.get target with lamports := (cells.get target).lamports + lamports }
  have hgrows : (cells.get target).lamports ≤ (cells.get target).lamports + lamports := by
    rw [UInt64.le_iff_toNat_le, UInt64.toNat_add, Nat.mod_eq_of_lt hroom]
    omega
  refine faithful_answers [payer, target] _ rfl ?resolves hanswer (fun h => h.2)
    (fun hallowed hreach => ⟨hallowed.1.data_eq, hreach⟩) ?entitles ?lawful
  case resolves =>
    simp [Invocation.Resolves, Invocation.transfer, Call.accesses, Invocation.handle?, hne]
  case entitles =>
    intro hallowed
    obtain ⟨hpayer, hwritable⟩ := hallowed
    simp [Invocation.Entitles, Invocation.transfer, Call.accesses, hpayer.signed, hpayer.writable,
      hwritable]
  case lawful =>
    intro hallowed hreach
    have hpayer := hallowed.1
    simp [Invocation.transfer, Call.accesses, Account.breach?_eq_none_iff, hcharged, hcredited,
      hpayer.owner_eq, hgrows]

theorem faithful_allocate (hcell : target.cell < cells.length) :
    Answers ((faithful scheme programId rent).run past (.allocate target system space seeds) cells)
      (target.isWritable ∧ scheme.create? seeds programId = some target.key
        ∧ space ≤ maxCreatedSpace)
      (cells.get target).IsVacant
      (cells.put target { cells.get target with data := Bytes.zeros space.toNat }) := by
  refine faithful_answers [target] _ rfl ?resolves (fun after => Cells.allocate_eq_ok_iff)
    (fun h => h.1) (fun hallowed hvacant =>
      ⟨hvacant, UInt64.le_trans hallowed.2.2 maxCreatedSpace_le⟩) ?entitles ?lawful
  case resolves =>
    simp [Invocation.Resolves, Invocation.allocate, Call.accesses, Invocation.handle?]
  case entitles =>
    intro hallowed
    obtain ⟨hwritable, hseeds, -⟩ := hallowed
    simp [Invocation.Entitles, Invocation.SignsFor, Invocation.allocate, Call.accesses, hwritable,
      hseeds]
  case lawful =>
    intro hallowed hvacant
    have hspace := UInt64.le_iff_toNat_le.mp hallowed.2.2
    simp [Invocation.allocate, Call.accesses, Account.breach?_eq_none_iff,
      Cells.get_put_self hcell, hvacant.1, hvacant.2, hspace]

theorem faithful_assign (hcell : target.cell < cells.length) :
    Answers ((faithful scheme programId rent).run past (.assign target system owner seeds) cells)
      (target.isWritable ∧ scheme.create? seeds programId = some target.key
        ∧ (cells.get target).owner = .systemProgram ∧ (cells.get target).data.IsBlank)
      True
      (cells.put target { cells.get target with owner }) := by
  have hanswer (after : Cells) :
      (.ok (cells.assign target owner) : Except ChainError Cells) = .ok after
        ↔ True ∧ cells.put target { cells.get target with owner } = after := by
    rw [true_and, Except.ok.injEq, Cells.assign]
  refine faithful_answers [target] True rfl ?resolves hanswer id (fun _ => id) ?entitles ?lawful
  case resolves =>
    simp [Invocation.Resolves, Invocation.assign, Call.accesses, Invocation.handle?]
  case entitles =>
    intro hallowed
    obtain ⟨hwritable, hseeds, -⟩ := hallowed
    simp [Invocation.Entitles, Invocation.SignsFor, Invocation.assign, Call.accesses, hwritable,
      hseeds]
  case lawful =>
    intro hallowed _
    obtain ⟨-, -, howner, hblank⟩ := hallowed
    simp [Invocation.assign, Call.accesses, Account.breach?_eq_none_iff, Cells.get_put_self hcell,
      howner, hblank]

theorem faithful_openMint (htoken : token.key = .tokenProgram) (hcell : mint.cell < cells.length)
    (hblank : cells.get mint = ⟨lamports, Bytes.zeros Mint.size, .tokenProgram⟩)
    (hexempt : rent.IsExempt lamports Mint.size) (decimals : UInt8) (authority : Key)
    (freezeAuthority : Option Key) :
    Answers ((faithful scheme programId rent).run past
        (.openMint mint token decimals authority freezeAuthority) cells)
      mint.isWritable True
      (cells.put mint { cells.get mint with
        data := (Mint.opened decimals authority freezeAuthority).writeOver
          (cells.get mint).data }) := by
  have hanswer (after : Cells) :
      cells.openMint rent mint decimals authority freezeAuthority = .ok after
        ↔ True ∧ cells.put mint { cells.get mint with
          data := (Mint.opened decimals authority freezeAuthority).writeOver
            (cells.get mint).data } = after := by
    rw [Cells.openMint_of_blank hblank hexempt, true_and, Except.ok.injEq]
  refine faithful_answers [mint] True htoken ?resolves hanswer id (fun _ => id) ?entitles ?lawful
  case resolves =>
    simp [Invocation.Resolves, Invocation.openMint, Call.accesses, Invocation.handle?]
  case entitles =>
    intro hwritable
    simp [Invocation.Entitles, Invocation.openMint, Call.accesses, hwritable]
  case lawful =>
    intro _ _
    simp [Invocation.openMint, Call.accesses, Account.breach?_eq_none_iff,
      Cells.get_put_self hcell, hblank, htoken]

theorem faithful_openTokenAccount (htoken : token.key = .tokenProgram)
    (hnative : mint.key ≠ .nativeMint) (hapart : cells.HoldsApart [target, mint])
    (hblank : cells.get target = ⟨lamports, Bytes.zeros TokenAccount.size, .tokenProgram⟩)
    (hexempt : rent.IsExempt lamports TokenAccount.size) :
    Answers ((faithful scheme programId rent).run past (.openTokenAccount target mint token owner)
        cells)
      target.isWritable
      ((cells.get mint).owner = .tokenProgram ∧ (Mint.initialized? (cells.get mint).data).isSome)
      (cells.put target { cells.get target with
        data := (TokenAccount.opened mint.key owner).writeOver (cells.get target).data }) := by
  have hne := hapart.apart.1
  have hcell := hapart.cell_lt target (by simp)
  refine faithful_answers [target, mint] _ htoken ?resolves
    (fun after => Cells.openTokenAccount_of_blank hnative hblank hexempt) id (fun _ => id) ?entitles
    ?lawful
  case resolves =>
    simp [Invocation.Resolves, Invocation.openTokenAccount, Call.accesses, Invocation.handle?, hne]
  case entitles =>
    intro hwritable
    simp [Invocation.Entitles, Invocation.openTokenAccount, Call.accesses, hwritable]
  case lawful =>
    intro _ _
    simp [Invocation.openTokenAccount, Call.accesses, Account.breach?_eq_none_iff,
      Cells.get_put_self hcell, Cells.get_put_of_ne hapart.apart.2.symm, hblank, htoken]

end Calls

theorem faithful_isFaithful (scheme : AddressScheme) (programId : Key) (rent : Rent) :
    (faithful scheme programId rent).IsFaithful scheme programId rent where
  owner_of_charged := owner_of_charged
  createAccount past _ _ _ system _ space owner seeds :=
    faithful_createAccount past system space owner seeds
  transfer past _ _ _ system _ := faithful_transfer past system
  allocate past _ _ system space seeds := faithful_allocate past system space seeds
  assign past _ _ system owner seeds := faithful_assign past system owner seeds
  openMint past _ _ _ decimals authority freezeAuthority _ htoken hcell hblank hexempt :=
    faithful_openMint past _ htoken hcell hblank hexempt decimals authority freezeAuthority
  openTokenAccount past _ _ _ _ owner _ := faithful_openTokenAccount past _ owner

end Runtime

end Chain

end StakePool
