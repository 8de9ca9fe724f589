import StakePool.Proofs.Setup.Coherence
import StakePool.Proofs.Setup.Rejected
import StakePool.Request
/-!
# Setups and gifts

Anybody can send lamports to the addresses of a pool before it exists and while it is being set up.
A gift makes no address taken and undoes nothing that has been applied, so the drafts that the steps
make on balances which change meanwhile still retain every operation that is to be carried out.
Whether a setup on vacant addresses writes its pool is then decided by one number, the shortfall of
the nine accounts when the last step begins.
-/

namespace StakePool

namespace Store

variable {store : Store} {gifts : List (Key × UInt64)}

/-- Lamports given to addresses one after another. -/
def give (store : Store) (gifts : List (Key × UInt64)) : Store :=
  gifts.foldl (fun store (address, lamports) => store.airdrop address lamports) store

theorem give_append (store : Store) (first second : List (Key × UInt64)) :
    store.give (first ++ second) = (store.give first).give second :=
  List.foldl_append

theorem give_induct {motive : Store → Prop}
    (hstep : ∀ store address lamports, motive store → motive (store.airdrop address lamports))
    (h : motive store) (gifts : List (Key × UInt64)) : motive (store.give gifts) := by
  induction gifts generalizing store with
  | nil => exact h
  | cons gift rest ih => exact ih (hstep store gift.1 gift.2 h)

theorem give_terms (store : Store) (gifts : List (Key × UInt64)) :
    (store.give gifts).rent = store.rent ∧ (store.give gifts).limit = store.limit
      ∧ (store.give gifts).failureIn = store.failureIn :=
  give_induct (motive := fun given => given.rent = store.rent ∧ given.limit = store.limit
    ∧ given.failureIn = store.failureIn) (fun _ _ _ h => h) ⟨rfl, rfl, rfl⟩ gifts

theorem isVacant_airdrop {key : Key} (h : (store.accounts.get key).IsVacant) (address : Key)
    (lamports : UInt64) : ((store.airdrop address lamports).accounts.get key).IsVacant := by
  have hgrown := grown_airdrop store address lamports key
  exact ⟨hgrown.data_eq.trans h.1, hgrown.owner_eq.trans h.2⟩

theorem status_airdrop {op : Operation} {programId : Key}
    (h : op.status store.accounts.find? programId = .applied) (address : Key) (lamports : UInt64) :
    op.status (store.airdrop address lamports).accounts.find? programId = .applied := by
  by_cases hkey : op.target ≠ address
  · rw [← h]
    exact Operation.status_congr (Accounts.find?_insert_of_ne _ _ hkey)
  rw [ne_eq, Decidable.not_not] at hkey
  subst hkey
  have hafter : (store.airdrop op.target lamports).accounts.find? op.target
      = some { store.accounts.get op.target with
        lamports := Saturating.add64 (store.accounts.get op.target).lamports lamports } :=
    Accounts.find?_insert_self ..
  cases hfound : store.accounts.find? op.target with
  | none => simp [Operation.status, hfound] at h
  | some account =>
    rw [Accounts.get_eq_of_find? hfound] at hafter
    by_cases hvacant : account.IsVacant
    · rw [Operation.status_of_vacant op hfound hvacant] at h
      rw [Operation.status_of_vacant op hafter hvacant]
      cases op with
      | fund address needed =>
        simp only [Operation.statusOfVacant] at h ⊢
        split at h
        · next henough => exact if_pos (UInt64.le_trans henough (Saturating.le_add64 ..))
        · cases h
      | createAccount | openMint | openTokenAccount | writeRegistry | writeRecord => cases h
    · rw [Operation.status_of_taken op hfound hvacant] at h
      rw [Operation.status_of_taken op hafter hvacant, ← h]
      cases op <;> rfl

end Store

namespace Plan

variable {book : AddressBook} {p : Parameters} {rent : Rent}

theorem exists_slot {op : Operation} (h : op ∈ all book p rent) :
    ∃ slot ∈ Request.slots, op.target = (book.slot slot).address := by
  have hall : ∀ op ∈ all book p rent,
      op.target ∈ Request.slots.map fun slot => (book.slot slot).address := by
    simp [all, groundwork, accountOperations, tokenOperations, recordWrite, create,
      Operation.target, Request.slots, AddressBook.address_eq_slot, AddressBook.pool_eq_slot]
  obtain ⟨slot, hslot, htarget⟩ := List.mem_map.mp (hall op h)
  exact ⟨slot, hslot, htarget.symm⟩

end Plan

/-- The nine accounts of a pool are vacant, whatever lamports they hold. -/
def AddressBook.Vacant (book : AddressBook) (accounts : Accounts) : Prop :=
  ∀ slot ∈ Request.slots, (accounts.get (book.slot slot).address).IsVacant

namespace AddressBook.Vacant

variable {setup : Setup} {book : AddressBook} {accounts : Accounts} {rent : Rent} {p : Parameters}
  {op : Operation} {programId : Key}

theorem give {store : Store} (h : book.Vacant store.accounts) (gifts : List (Key × UInt64)) :
    book.Vacant (store.give gifts).accounts :=
  Store.give_induct (motive := fun store => book.Vacant store.accounts)
    (fun _ address lamports hvacant slot hslot =>
      Store.isVacant_airdrop (hvacant slot hslot) address lamports) h gifts

variable (h : book.Vacant accounts)
include h

theorem target (hop : op ∈ Plan.all book p rent) : (accounts.get op.target).IsVacant := by
  obtain ⟨slot, hslot, htarget⟩ := Plan.exists_slot hop
  rw [htarget]
  exact h slot hslot

theorem unobstructed : setup.Unobstructed accounts.find? (Plan.all book p rent) := by
  intro op hop
  have hvacant := h.target hop
  cases hfound : accounts.find? op.target with
  | none => simp [Operation.status, hfound]
  | some account =>
    rw [Accounts.get_eq_of_find? hfound] at hvacant
    rw [Operation.status_of_vacant op hfound hvacant]
    cases op with
    | fund address lamports =>
      rw [Operation.statusOfVacant]
      split <;> decide
    | createAccount | openMint | openTokenAccount | writeRegistry | writeRecord =>
      show Operation.Status.pending ≠ .conflict
      decide

theorem fundingNeeded_of_applied (hop : op ∈ Plan.all book p rent)
    (happlied : op.status accounts.find? programId = .applied) :
    op.fundingNeeded accounts.find? = 0 := by
  have hvacant := h.target hop
  cases hfound : accounts.find? op.target with
  | none => simp [Operation.status, hfound] at happlied
  | some account =>
    rw [Accounts.get_eq_of_find? hfound] at hvacant
    rw [Operation.status_of_vacant op hfound hvacant] at happlied
    cases op with
    | fund address lamports =>
      rw [Operation.statusOfVacant] at happlied
      split at happlied
      · next henough =>
        have hget : accounts.get address = account := Accounts.get_eq_of_find? hfound
        rw [Operation.fundingNeeded_fund, hget]
        exact Saturating.sub64_eq_zero_iff.mpr henough
      · cases happlied
    | createAccount | openMint | openTokenAccount | writeRegistry | writeRecord => cases happlied

theorem not_poolExists : ¬ setup.PoolExists accounts.find? book.pool := by
  rintro ⟨account, hfound, -, hrecord⟩
  have hvacant : (accounts.get book.pool).IsVacant := h .config (by decide)
  rw [Accounts.get_eq_of_find? hfound] at hvacant
  have hlength := PoolRecord.length_eq_of_isSome hrecord
  rw [hvacant.1] at hlength
  exact absurd hlength (by decide)

end AddressBook.Vacant

namespace Setup

variable {scheme : AddressScheme} {setup : Setup} {book : AddressBook} {store : Store}
  {phase : Phase} {rent : Rent} {reader reader' : Reader}

theorem cost_eq_of_sublist {kept planned : List Operation} (hkept : kept.Sublist planned)
    (hnodup : planned.Nodup)
    (hfree : ∀ op ∈ planned, op ∉ kept → op.fundingNeeded reader = 0) :
    cost reader kept = cost reader planned := by
  induction hkept with
  | slnil => rfl
  | cons op hsublist ih =>
    obtain ⟨hnew, hnodup⟩ := List.nodup_cons.mp hnodup
    have hop := hfree op List.mem_cons_self fun hmem => hnew (hsublist.mem hmem)
    rw [cost, hop, ih hnodup fun other hother => hfree other (List.mem_cons_of_mem _ hother)]
    exact (Nat.zero_add _).symm
  | cons_cons op _ ih =>
    obtain ⟨hnew, hnodup⟩ := List.nodup_cons.mp hnodup
    rw [cost, cost, ih hnodup fun other hother hdropped => ?_]
    refine hfree other (List.mem_cons_of_mem _ hother) fun hmem => ?_
    rcases List.mem_cons.mp hmem with rfl | hlater
    · exact hnew hother
    · exact hdropped hlater

namespace Retains

variable {planned kept : List Operation}

theorem append {more later : List Operation} (h : setup.Retains reader planned kept)
    (hmore : setup.Retains reader more later) :
    setup.Retains reader (planned ++ more) (kept ++ later) where
  sublist := h.sublist.append hmore.sublist
  dropped op hop hdropped := by
    rw [List.mem_append, not_or] at hdropped
    rcases List.mem_append.mp hop with hfirst | hsecond
    · exact h.dropped op hfirst hdropped.1
    · exact hmore.dropped op hsecond hdropped.2

theorem give {store : Store} (h : setup.Retains store.accounts.find? planned kept)
    (gifts : List (Key × UInt64)) :
    setup.Retains (store.give gifts).accounts.find? planned kept where
  sublist := h.sublist
  dropped op hop hdropped :=
    Store.give_induct (motive := fun store =>
        op.status store.accounts.find? setup.programId = .applied)
      (fun _ address lamports happlied => Store.status_airdrop happlied address lamports)
      (h.dropped op hop hdropped) gifts

end Retains

/-- How far a setup on vacant addresses has got, and that it has dropped nothing which is still to
be done. -/
def Underway (setup : Setup) (book : AddressBook) (rent : Rent) (reader : Reader) : Phase → Prop
  | .unstarted => True
  | .addressesDerived draft => draft = ⟨book, []⟩
  | .accountsProvisioned draft =>
    draft.book = book
      ∧ setup.Retains reader (Plan.accountOperations book setup.parameters rent) draft.operations
  | .tokensBootstrapped draft =>
    draft.book = book
      ∧ setup.Retains reader (Plan.groundwork book setup.parameters rent) draft.operations
  | .written .. | .aborted _ => False

theorem Underway.give (h : setup.Underway book rent store.accounts.find? phase)
    (gifts : List (Key × UInt64)) :
    setup.Underway book rent (store.give gifts).accounts.find? phase := by
  cases phase with
  | unstarted | addressesDerived | written | aborted => exact h
  | accountsProvisioned | tokensBootstrapped => exact ⟨h.1, h.2.give gifts⟩

/-- The step lemma: on vacant addresses every step but the last goes on, and only reads. -/
theorem Underway.step (hbook : AddressBook.derive? scheme setup.programId setup.root = some book)
    (hvalid : setup.parameters.IsValid) (hvacant : book.Vacant store.accounts)
    (h : setup.Underway book store.rent store.accounts.find? phase) (hearly : 1 < phase.stepsLeft) :
    (setup.step scheme store.quote phase store).store = store
      ∧ setup.Underway book store.rent store.accounts.find?
        (setup.step scheme store.quote phase store).phase
      ∧ (setup.step scheme store.quote phase store).phase.stepsLeft + 1 = phase.stepsLeft := by
  have hclear : setup.Unobstructed store.accounts.find?
      (Plan.all book setup.parameters store.rent) := hvacant.unobstructed
  rw [Plan.all, Plan.groundwork, unobstructed_append, unobstructed_append] at hclear
  obtain ⟨⟨haccounts, htokens⟩, -⟩ := hclear
  cases phase with
  | unstarted =>
    have hderive : setup.derive scheme store.accounts.find? = .ok ⟨book, []⟩ :=
      derive_eq_ok_iff.mpr ⟨hvalid, book, hbook, hvacant.not_poolExists, rfl⟩
    rw [Setup.step, hderive]
    exact ⟨rfl, rfl, rfl⟩
  | addressesDerived draft =>
    obtain rfl : draft = ⟨book, []⟩ := h
    rw [Setup.step, Store.quote, (provision_eq_ok_iff hvalid).mpr ⟨haccounts, rfl⟩]
    exact ⟨rfl, ⟨rfl, retains_outstanding haccounts⟩, rfl⟩
  | accountsProvisioned draft =>
    obtain ⟨rfl, hkept⟩ := h
    rw [Setup.step, (bootstrap_eq_ok_iff hbook).mpr ⟨htokens, rfl⟩]
    exact ⟨rfl, ⟨rfl, hkept.append (retains_outstanding htokens)⟩, rfl⟩
  | tokensBootstrapped => exact absurd hearly (Nat.lt_irrefl 1)
  | written | aborted => exact h.elim

/-- One step, taken after some gifts. -/
def stepAmid (scheme : AddressScheme) (setup : Setup) (outcome : Outcome)
    (gifts : List (Key × UInt64)) : Outcome :=
  let store := outcome.store.give gifts
  let next := setup.step scheme store.quote outcome.phase store
  { next with log := outcome.log ++ next.log }

/-- One step for every list of gifts, which are given just before it. -/
def proceedAmid (scheme : AddressScheme) (setup : Setup) (outcome : Outcome)
    (schedule : List (List (Key × UInt64))) : Outcome :=
  schedule.foldl (setup.stepAmid scheme) outcome

/-- The run lemma: on vacant addresses the steps before the last leave the store to the gifts. -/
theorem Underway.proceedAmid {outcome : Outcome} {schedule : List (List (Key × UInt64))}
    (hbook : AddressBook.derive? scheme setup.programId setup.root = some book)
    (hvalid : setup.parameters.IsValid) (hvacant : book.Vacant outcome.store.accounts)
    (h : setup.Underway book outcome.store.rent outcome.store.accounts.find? outcome.phase)
    (hleft : outcome.phase.stepsLeft = schedule.length + 1) :
    (setup.proceedAmid scheme outcome schedule).store = outcome.store.give schedule.flatten
      ∧ ∃ draft, (setup.proceedAmid scheme outcome schedule).phase = .tokensBootstrapped draft
        ∧ draft.book = book
        ∧ setup.Retains (outcome.store.give schedule.flatten).accounts.find?
          (Plan.groundwork book setup.parameters outcome.store.rent) draft.operations := by
  induction schedule generalizing outcome with
  | nil =>
    obtain ⟨phase, store, log⟩ := outcome
    cases phase with
    | tokensBootstrapped draft => exact ⟨rfl, draft, rfl, h⟩
    | unstarted | addressesDerived | accountsProvisioned | written | aborted => cases hleft
  | cons gifts rest ih =>
    obtain ⟨hrent, -⟩ := Store.give_terms outcome.store gifts
    have hgiven := h.give gifts
    rw [← hrent] at hgiven
    obtain ⟨hstore, hnext, hsteps⟩ := hgiven.step hbook hvalid (hvacant.give gifts)
      (by rw [hleft, List.length_cons]; omega)
    have hstore : (setup.stepAmid scheme outcome gifts).store = outcome.store.give gifts := hstore
    have hlater := @ih (setup.stepAmid scheme outcome gifts)
    rw [hstore, ← Store.give_append, hrent] at hlater
    rw [hrent] at hnext
    refine hlater (hvacant.give gifts) hnext ?_
    rw [hleft] at hsteps
    exact Nat.succ.inj hsteps

variable {draft : Draft}

theorem Retains.cost_eq_shortfall {kept : List Operation} (hdistinct : book.Distinct)
    (hvacant : book.Vacant store.accounts)
    (hkept : setup.Retains store.accounts.find? (Plan.all book setup.parameters rent) kept) :
    cost store.accounts.find? kept
      = Plan.shortfall book setup.parameters rent store.accounts.find? := by
  rw [← Plan.cost_all]
  exact cost_eq_of_sublist hkept.sublist (Plan.nodup_all hdistinct) fun op hop hdropped =>
    hvacant.fundingNeeded_of_applied hop (hkept.dropped op hop hdropped)

theorem exists_complete_of_retains (hvacant : book.Vacant store.accounts)
    (hdraft : draft.book = book)
    (hkept : setup.Retains store.accounts.find? (Plan.groundwork book setup.parameters rent)
      draft.operations) :
    ∃ full, setup.complete rent store.accounts.find? draft = .ok full ∧ full.book = book
      ∧ setup.Retains store.accounts.find? (Plan.all book setup.parameters rent)
        full.operations := by
  have hclear : setup.Unobstructed store.accounts.find? (Plan.all book setup.parameters rent) :=
    hvacant.unobstructed
  have hrecord := (unobstructed_append.mp hclear).2
  exact ⟨_, complete_eq_ok_iff.mpr ⟨hdraft.symm ▸ hrecord, rfl⟩, hdraft,
    hdraft.symm ▸ hkept.append (retains_outstanding hrecord)⟩

theorem afford_eq_error (h : reader.lamports setup.payer < fundingNeeded reader draft.operations) :
    setup.afford reader draft = .error (.underfunded setup.payer (reader.lamports setup.payer)
      (fundingNeeded reader draft.operations)) :=
  if_pos h

/-- On vacant addresses the last step is decided by the shortfall alone. -/
theorem step_of_retains (store : Store)
    (hbook : AddressBook.derive? scheme setup.programId setup.root = some book)
    (hdistinct : book.Distinct) (hpayer : setup.payer ∉ book) (hrent : store.rent.IsModest)
    (hlimit : store.limit ≠ some 0) (hfailure : store.failureIn = none)
    (hvalid : setup.parameters.IsValid) (hvacant : book.Vacant store.accounts)
    (hdraft : draft.book = book)
    (hkept : setup.Retains store.accounts.find?
      (Plan.groundwork book setup.parameters store.rent) draft.operations) :
    (Plan.shortfall book setup.parameters store.rent store.accounts.find?
        ≤ (store.accounts.get setup.payer).lamports.toNat →
      ∃ transactions, (setup.step scheme store.quote (.tokensBootstrapped draft) store).phase
        = .written book.pool transactions)
      ∧ (¬ Plan.shortfall book setup.parameters store.rent store.accounts.find?
          ≤ (store.accounts.get setup.payer).lamports.toNat →
        ∃ available needed, setup.step scheme store.quote (.tokensBootstrapped draft) store
          = .abort (.underfunded setup.payer available needed) store) := by
  obtain ⟨hprogram, -⟩ := AddressBook.derive?_spec hbook
  obtain ⟨full, hcomplete, hfull, hall⟩ := exists_complete_of_retains hvacant hdraft hkept
  have hcost := hall.cost_eq_shortfall hdistinct hvacant
  have hstep : setup.step scheme store.quote (.tokensBootstrapped draft) store
      = setup.conclude store (setup.afford store.accounts.find? full) := by
    rw [step, commit_eq_conclude, hcomplete]
    rfl
  have hword : fundingNeeded store.accounts.find? full.operations
        ≤ store.accounts.find?.lamports setup.payer
      ↔ Plan.shortfall book setup.parameters store.rent store.accounts.find?
        ≤ (store.accounts.get setup.payer).lamports.toNat := by
    have hbound := Plan.shortfall_lt book store.accounts.find? hrent hvalid
    rw [UInt64.le_iff_toNat_le, toNat_fundingNeeded, hcost, Accounts.lamports_find?,
      Nat.min_eq_left (by omega)]
  rw [hstep]
  constructor
  · intro hpaid
    have hfeasible := hall.feasible hprogram hdistinct hpayer
      (fun op hop => .inl (hvacant.target (hall.mem hop))) (hcost ▸ hpaid)
    rw [afford_eq_ok_iff.mpr ⟨hword.mpr hpaid, rfl⟩, ← hfull]
    obtain ⟨after, hafter⟩ | ⟨op, hop, hstarved, -⟩ := hfeasible.run
    · exact (submit_of_apply full hlimit (by simp [hfailure]) hafter).1
    · exact absurd (hvacant.target (hall.mem hop)) hstarved.2.1
  · intro hpoor
    rw [afford_eq_error (UInt64.not_le.mp fun hpaid => hpoor (hword.mp hpaid))]
    exact ⟨_, _, rfl⟩

/-- Lamports sent to the addresses of a pool cannot keep a setup from writing it, whenever they are
sent: it writes the pool exactly if, when its last step begins, the payer has what the nine accounts
still lack. Otherwise it reports that the payer has not, and leaves the store as the gifts made it.
A store that starts out empty satisfies `hrent` by `Rent.isModest_standard`. -/
theorem written_iff_shortfall_le (store : Store)
    (hbook : AddressBook.derive? scheme setup.programId setup.root = some book)
    (hdistinct : book.Distinct) (hpayer : setup.payer ∉ book) (hrent : store.rent.IsModest)
    (hlimit : store.limit ≠ some 0) (hfailure : store.failureIn = none)
    (hvalid : setup.parameters.IsValid) (hvacant : book.Vacant store.accounts)
    (schedule : List (List (Key × UInt64))) (hschedule : schedule.length = 3)
    (last : List (Key × UInt64)) :
    let eve := store.give (schedule.flatten ++ last)
    let outcome := setup.proceedAmid scheme ⟨.unstarted, store, []⟩ (schedule ++ [last])
    let affordable := Plan.shortfall book setup.parameters store.rent eve.accounts.find?
      ≤ (eve.accounts.get setup.payer).lamports.toNat
    ((∃ transactions, outcome.phase = .written book.pool transactions) ↔ affordable)
      ∧ (¬ affordable → ∃ failure, outcome.phase = .aborted failure
        ∧ failure.report = ⟨.commit, some setup.payer, .insufficientFunding⟩
        ∧ outcome.store = eve) := by
  intro eve outcome affordable
  obtain ⟨hrentEq, hlimitEq, hfailureEq⟩ := Store.give_terms store (schedule.flatten ++ last)
  let start : Outcome := ⟨.unstarted, store, []⟩
  have hstart : setup.Underway book start.store.rent start.store.accounts.find? start.phase :=
    trivial
  obtain ⟨hstore, draft, hphase, hdraft, hkept⟩ :=
    hstart.proceedAmid hbook hvalid hvacant (by rw [hschedule]; rfl)
  have heve :
      (setup.proceedAmid scheme ⟨.unstarted, store, []⟩ schedule).store.give last = eve := by
    rw [hstore, ← Store.give_append]
  have hkept := hkept.give last
  rw [← Store.give_append, ← hrentEq] at hkept
  have houtcome :
      outcome.phase = (setup.step scheme eve.quote (.tokensBootstrapped draft) eve).phase
      ∧ outcome.store = (setup.step scheme eve.quote (.tokensBootstrapped draft) eve).store := by
    have hsplit : outcome = setup.stepAmid scheme
        (setup.proceedAmid scheme ⟨.unstarted, store, []⟩ schedule) last := List.foldl_append
    rw [hsplit, stepAmid, heve, hphase]
    exact ⟨rfl, rfl⟩
  have hlast := step_of_retains eve hbook hdistinct hpayer
    (hrentEq.symm ▸ hrent) (hlimitEq.symm ▸ hlimit) (hfailureEq.trans hfailure) hvalid
    (hvacant.give _) hdraft hkept
  rw [hrentEq] at hlast
  rw [houtcome.1, houtcome.2]
  refine ⟨⟨fun ⟨transactions, hwritten⟩ => ?_, hlast.1⟩, fun hpoor => ?_⟩
  · refine Classical.byContradiction fun hpoor => ?_
    obtain ⟨available, needed, habort⟩ := hlast.2 hpoor
    rw [habort] at hwritten
    cases hwritten
  · obtain ⟨available, needed, habort⟩ := hlast.2 hpoor
    rw [habort]
    exact ⟨_, rfl, rfl, rfl⟩

/-- Before the second step and the fourth nobody gives anything. -/
def giftsSample : List (List (Key × UInt64)) := [
  [(AddressBook.sample.address .stMint, 5), (AddressBook.sample.pool, 1000000000)],
  [],
  [(AddressBook.sample.address .reserve, 1000000000), (.ofNat 8, 1)]]

theorem written_iff_shortfall_le_sample :
    (∃ transactions, (sample.proceedAmid .standard ⟨.unstarted, Store.sample, []⟩
        (giftsSample ++ [[]])).phase = .written AddressBook.sample.pool transactions)
      ∧ ∃ failure, (sample.proceedAmid .standard ⟨.unstarted, Store.empty (some 4), []⟩
          (giftsSample ++ [[]])).phase = .aborted failure
        ∧ failure.report = ⟨.commit, some sample.payer, .insufficientFunding⟩
        ∧ (sample.proceedAmid .standard ⟨.unstarted, Store.empty (some 4), []⟩
          (giftsSample ++ [[]])).store
            = (Store.empty (some 4)).give (giftsSample.flatten ++ []) := by
  have hpayer : sample.payer ∉ AddressBook.sample := by decide +kernel
  have hvalid : sample.parameters.IsValid := by decide +kernel
  have hvacant : AddressBook.sample.Vacant Store.sample.accounts := by
    intro slot hslot
    revert slot
    decide +kernel
  have hrich := (written_iff_shortfall_le Store.sample derive?_sample AddressBook.distinct_sample
    hpayer Rent.isModest_standard (by decide) rfl hvalid hvacant giftsSample rfl []).1
  have hpoor := (written_iff_shortfall_le (Store.empty (some 4)) derive?_sample
    AddressBook.distinct_sample hpayer Rent.isModest_standard (by decide) rfl hvalid
    (fun _ _ => Account.isVacant_plain 0) giftsSample rfl []).2
  exact ⟨hrich.mpr (by decide +kernel), hpoor (by decide +kernel)⟩

end Setup

end StakePool
