import Mathlib.Algebra.GroupWithZero.Nat
import StakePool.Proofs.Setup.Neighbours
import StakePool.Proofs.Store.Conservation
import StakePool.Proofs.Store.WriteOnce
/-!
# Who pays for a pool

However a setup ends and wherever it is stopped, it has moved lamports from its payer to the nine
accounts of its pool and has touched nothing else, the authorities of the pool included. `Spends`
says so of the accounts before and after. It holds across any one operation of a plan, and it can be
put together, so it holds across whatever part of a plan a store has accepted. In a setup that has
written its pool every account of the pool that was vacant holds what exempts it from rent, or more
if it held more before; each top-up is worked out from the balance at the time, so nothing is paid
twice. An account that was allocated already is not topped up.
-/

namespace StakePool

theorem Saturating.max_le {a b c : UInt64} (ha : a ≤ c) (hb : b ≤ c) : max a b ≤ c := by
  change (if a ≤ b then b else a) ≤ c
  split
  · exact hb
  · exact ha

section Sums

variable {α : Type} {f g h : α → Nat} {xs : List α}

theorem sum_gains_trans (hfg : ∀ x ∈ xs, f x ≤ g x) (hgh : ∀ x ∈ xs, g x ≤ h x) :
    (xs.map fun x => h x - f x).sum
      = (xs.map fun x => g x - f x).sum + (xs.map fun x => h x - g x).sum := by
  induction xs with
  | nil => rfl
  | cons x rest ih =>
    obtain ⟨hfirst, hfg⟩ := List.forall_mem_cons.mp hfg
    obtain ⟨hsecond, hgh⟩ := List.forall_mem_cons.mp hgh
    simp only [List.map_cons, List.sum_cons, ih hfg hgh]
    omega

theorem sum_gains_eq_zero (hsame : ∀ x ∈ xs, g x = f x) : (xs.map fun x => g x - f x).sum = 0 := by
  induction xs with
  | nil => rfl
  | cons x rest ih =>
    obtain ⟨hfirst, hrest⟩ := List.forall_mem_cons.mp hsame
    simp only [List.map_cons, List.sum_cons, ih hrest, hfirst, Nat.sub_self]

theorem sum_gains_of_mem (hnodup : xs.Nodup) {a : α} (hmem : a ∈ xs)
    (hother : ∀ x ∈ xs, x ≠ a → g x = f x) : (xs.map fun x => g x - f x).sum = g a - f a := by
  induction xs with
  | nil => cases hmem
  | cons x rest ih =>
    obtain ⟨hnot, hnodup⟩ := List.nodup_cons.mp hnodup
    obtain ⟨hfirst, hrest⟩ := List.forall_mem_cons.mp hother
    simp only [List.map_cons, List.sum_cons]
    obtain rfl | hlater := List.mem_cons.mp hmem
    · rw [sum_gains_eq_zero fun y hy => hrest y hy fun heq => hnot (heq ▸ hy), Nat.add_zero]
    · rw [ih hnodup hlater hrest, hfirst fun heq => hnot (heq ▸ hlater), Nat.sub_self, Nat.zero_add]

end Sums

/-! ### What one operation does to balances -/

namespace Operation

variable {rent : Rent} {programId payer key : Key} {op : Operation} {account : Account}
  {before after : Accounts}

/-- The balance that the operation makes sure of. -/
def level : Operation → UInt64
  | createAccount _ _ _ lamports _ => lamports
  | fund _ lamports => lamports
  | openMint .. | openTokenAccount .. | writeRegistry .. | writeRecord .. => 0

instance : DecidablePred IsFill
  | createAccount .. | fund .. => inferInstanceAs (Decidable False)
  | openMint .. | openTokenAccount .. | writeRegistry .. | writeRecord .. =>
    inferInstanceAs (Decidable True)

theorem level_of_isFill (hfill : op.IsFill) : op.level = 0 := by
  cases op with
  | createAccount | fund => exact hfill.elim
  | openMint | openTokenAccount | writeRegistry | writeRecord => rfl

theorem lamports_result (op : Operation) (account : Account) :
    (op.result account).lamports = max account.lamports op.level := by
  cases op with
  | createAccount | fund => rfl
  | openMint | openTokenAccount | writeRegistry | writeRecord =>
    exact (Saturating.max_eq_left_of_le UInt64.zero_le).symm

theorem isFill_of_admits (h : op.Admits rent programId account) (htaken : ¬ account.IsVacant) :
    op.IsFill := by
  cases op with
  | createAccount => exact htaken h.1
  | fund => exact htaken h
  | openMint | openTokenAccount | writeRegistry | writeRecord => trivial

theorem lamports_result_of_isFill (hfill : op.IsFill) (account : Account) :
    (op.result account).lamports = account.lamports := by
  rw [lamports_result, level_of_isFill hfill]
  exact Saturating.max_eq_left_of_le UInt64.zero_le

theorem level_le_of_statusOfVacant (h : op.statusOfVacant account = .applied) :
    op.level ≤ account.lamports := by
  cases op with
  | fund address lamports =>
    rw [statusOfVacant] at h
    split at h
    · next hle => exact hle
    · cases h
  | createAccount | openMint | openTokenAccount | writeRegistry | writeRecord => cases h

theorem level_le_of_applied {accounts : Accounts} (hvacant : (accounts.get op.target).IsVacant)
    (h : op.status accounts.find? programId = .applied) :
    op.level ≤ (accounts.get op.target).lamports := by
  cases hfound : accounts.find? op.target with
  | none => simp [status, hfound] at h
  | some account =>
    rw [Accounts.get_eq_of_find? hfound] at hvacant ⊢
    rw [status_of_vacant op hfound hvacant] at h
    exact level_le_of_statusOfVacant h

theorem get_apply_of_ne_payer (h : op.apply rent programId payer before = .ok after)
    (hpayer : key ≠ payer) :
    after.get key = if key = op.target then op.result (before.get key) else before.get key := by
  by_cases htarget : key = op.target
  · subst htarget
    rw [if_pos rfl, get_apply_target h]
  · rw [if_neg htarget, get_apply_of_ne h htarget, if_neg hpayer]

end Operation

/-! ### What a setup spends -/

namespace AddressBook

/-- What the nine accounts of a pool have gained together. -/
def gains (book : AddressBook) (before after : Accounts) : Nat :=
  (Request.slots.map fun slot =>
    (after.get (book.slot slot).address).lamports.toNat
      - (before.get (book.slot slot).address).lamports.toNat).sum

/-- Lamports have gone from the payer to the nine accounts of the pool. Everybody else has the same
account as before, the payer has the same but for the lamports, and of the nine accounts none has
lost anything, nor has any that was taken gained anything. -/
structure Spends (book : AddressBook) (payer : Key) (before after : Accounts) : Prop where
  find?_eq : ∀ key, key ≠ payer → (∀ slot ∈ Request.slots, key ≠ (book.slot slot).address) →
    after.find? key = before.find? key
  lamports_le : ∀ slot ∈ Request.slots, (before.get (book.slot slot).address).lamports
    ≤ (after.get (book.slot slot).address).lamports
  taken : ∀ slot ∈ Request.slots, ¬ (before.get (book.slot slot).address).IsVacant →
    ¬ (after.get (book.slot slot).address).IsVacant
      ∧ (after.get (book.slot slot).address).lamports
        = (before.get (book.slot slot).address).lamports
  payer_eq : after.get payer
    = { before.get payer with lamports := (after.get payer).lamports }
  paid : (before.get payer).lamports.toNat
    = (after.get payer).lamports.toNat + book.gains before after

variable {rent : Rent} {programId payer : Key} {book : AddressBook}
  {before middle after : Accounts}

theorem Spends.refl (book : AddressBook) (payer : Key) (accounts : Accounts) :
    book.Spends payer accounts accounts where
  find?_eq _ _ _ := rfl
  lamports_le _ _ := UInt64.le_refl _
  taken _ _ htaken := ⟨htaken, rfl⟩
  payer_eq := rfl
  paid := by rw [gains, sum_gains_eq_zero fun _ _ => rfl, Nat.add_zero]

theorem Spends.trans (hfirst : book.Spends payer before middle)
    (hsecond : book.Spends payer middle after) : book.Spends payer before after where
  find?_eq key hpayer hslots :=
    (hsecond.find?_eq key hpayer hslots).trans (hfirst.find?_eq key hpayer hslots)
  lamports_le slot hslot :=
    UInt64.le_trans (hfirst.lamports_le slot hslot) (hsecond.lamports_le slot hslot)
  taken slot hslot htaken := by
    obtain ⟨hmiddle, hfirst⟩ := hfirst.taken slot hslot htaken
    obtain ⟨hafter, hsecond⟩ := hsecond.taken slot hslot hmiddle
    exact ⟨hafter, hsecond.trans hfirst⟩
  payer_eq := by rw [hsecond.payer_eq, hfirst.payer_eq]
  paid := by
    have hgains : book.gains before after = book.gains before middle + book.gains middle after :=
      sum_gains_trans (fun slot hslot => UInt64.le_iff_toNat_le.mp (hfirst.lamports_le slot hslot))
        fun slot hslot => UInt64.le_iff_toNat_le.mp (hsecond.lamports_le slot hslot)
    have hfirst := hfirst.paid
    have hsecond := hsecond.paid
    omega

section Distinct

variable (hdistinct : book.Distinct) (hpayer : payer ∉ book)
include hdistinct hpayer

/-- The step lemma: an operation on one of the nine accounts takes from the payer what it brings. -/
theorem spends_apply {op : Operation} {slot : Slot} (hslot : slot ∈ Request.slots)
    (htarget : op.target = (book.slot slot).address)
    (h : op.apply rent programId payer before = .ok after) : book.Spends payer before after := by
  obtain ⟨hadmits, -, hpaid, -⟩ := Operation.apply_eq_ok_iff.mp h
  have hne (other : Slot) : (book.slot other).address ≠ payer :=
    fun heq => hpayer ⟨other, heq⟩
  have hget (other : Slot) : after.get (book.slot other).address
      = if other = slot then op.result (before.get op.target)
        else before.get (book.slot other).address := by
    rw [Operation.get_apply_of_ne_payer h (hne other), htarget]
    simp only [hdistinct.address_inj]
    by_cases hsame : other = slot
    · subst hsame
      rfl
    · rw [if_neg hsame, if_neg hsame]
  have hpayer_get := Operation.get_apply_of_ne h (htarget ▸ (hne slot).symm)
  rw [if_pos rfl] at hpayer_get
  refine ⟨fun key hkey hslots => ?_, fun other _ => ?_, fun other _ htaken => ?_, ?_, ?_⟩
  · exact Operation.find?_apply_of_ne h (fun heq => hslots slot hslot (heq.trans htarget)) hkey
  · rw [hget]
    by_cases hsame : other = slot
    · subst hsame
      rw [if_pos rfl, ← htarget]
      exact Operation.lamports_le_result op _
    · rw [if_neg hsame]
      exact UInt64.le_refl _
  · rw [hget]
    by_cases hsame : other = slot
    · subst hsame
      rw [if_pos rfl]
      rw [← htarget] at htaken ⊢
      have hfill := Operation.isFill_of_admits hadmits htaken
      have hvacant := Account.isVacant_congr (Operation.owner_result_of_isFill hfill _)
        (Operation.length_result_of_isFill hfill hadmits)
      exact ⟨fun hnow => htaken (hvacant.mp hnow), Operation.lamports_result_of_isFill hfill _⟩
    · rw [if_neg hsame]
      exact ⟨htaken, rfl⟩
  · rw [hpayer_get]
  · have hgains : book.gains before after = (op.fundingNeeded before.find?).toNat := by
      rw [gains, sum_gains_of_mem (by decide) hslot fun other _ hother => by
        rw [hget, if_neg hother], hget, if_pos rfl, ← htarget,
        Operation.toNat_lamports_result, Nat.add_sub_cancel_left]
    have hle := UInt64.le_iff_toNat_le.mp hpaid
    rw [hgains, hpayer_get, UInt64.toNat_sub_of_le _ _ hpaid]
    omega

end Distinct

end AddressBook

/-! ### Balances after a batch -/

namespace Batch

variable {rent : Rent} {batch : Batch} {key : Key} {before after : Accounts}

/-- Nobody but the payer loses anything. -/
theorem lamports_le_apply (hpayer : key ≠ batch.payer)
    (h : batch.apply rent before = .ok after) :
    (before.get key).lamports ≤ (after.get key).lamports := by
  refine apply_induct (motive := fun accounts =>
    (before.get key).lamports ≤ (accounts.get key).lamports) ?_ (UInt64.le_refl _) h
  intro op _ middle next hle happly
  rw [Operation.get_apply_of_ne_payer happly hpayer]
  split
  · exact UInt64.le_trans hle (Operation.lamports_le_result op _)
  · exact hle

theorem lamports_apply_le {level : UInt64} (hpayer : key ≠ batch.payer)
    (hlevel : ∀ op ∈ batch.operations, key = op.target → op.level ≤ level)
    (h : batch.apply rent before = .ok after) :
    (after.get key).lamports ≤ max (before.get key).lamports level := by
  refine apply_induct (motive := fun accounts =>
    (accounts.get key).lamports ≤ max (before.get key).lamports level) ?_
    (Saturating.le_max_left ..) h
  intro op hop middle next hle happly
  rw [Operation.get_apply_of_ne_payer happly hpayer]
  split
  · next htarget =>
    have hop := UInt64.le_iff_toNat_le.mp (hlevel op hop htarget)
    rw [UInt64.le_iff_toNat_le, Saturating.toNat_max, Saturating.toNat_sub64] at hle
    rw [Operation.lamports_result, UInt64.le_iff_toNat_le, Saturating.toNat_max,
      Saturating.toNat_max, Saturating.toNat_sub64, Saturating.toNat_sub64]
    omega
  · exact hle

theorem level_le_lamports {op : Operation} (hop : op ∈ batch.operations)
    (hpayer : op.target ≠ batch.payer) (h : batch.apply rent before = .ok after) :
    op.level ≤ (after.get op.target).lamports := by
  obtain ⟨programId, payer, operations⟩ := batch
  obtain ⟨earlier, later, rfl⟩ := List.append_of_mem hop
  obtain ⟨reached, -, hrest⟩ := apply_append_eq_ok_iff.mp h
  obtain ⟨next, happly, hlater⟩ := apply_cons_eq_ok_iff.mp hrest
  have hnext : op.level ≤ (next.get op.target).lamports := by
    rw [Operation.get_apply_target happly, Operation.lamports_result]
    exact Saturating.le_max_right ..
  exact UInt64.le_trans hnext
    (@lamports_le_apply rent ⟨programId, payer, later⟩ _ _ _ hpayer hlater)

end Batch

namespace Plan

variable {book : AddressBook} {p : Parameters} {rent : Rent} {entry : Slot × Nat} {op : Operation}

theorem map_fst_footprint (p : Parameters) : (footprint p).map Prod.fst = Request.slots := rfl

theorem footprint_inj {other : Slot × Nat} (hentry : entry ∈ footprint p)
    (hother : other ∈ footprint p) (h : entry.1 = other.1) : entry = other := by
  have hkeys : ((footprint p).map Prod.fst).Nodup := by
    rw [map_fst_footprint]
    decide
  have hpairs : (footprint p).Pairwise fun first second => first.1 ≠ second.1 :=
    List.pairwise_map.mp hkeys
  exact List.Pairwise.forall_of_forall_of_flip
    (R := fun first second => first.1 = second.1 → first = second) (fun _ _ _ => rfl)
    (hpairs.imp fun hne heq => absurd heq hne) (hpairs.imp fun hne heq => absurd heq.symm hne)
    hentry hother h

theorem levels_all :
    ((all book p rent).filter fun op => ¬ op.IsFill).map (fun op => (op.target, op.level))
      = (footprint p).map fun entry =>
        ((book.slot entry.1).address, rent.minimumBalance entry.2) := rfl

theorem exists_entry (hop : op ∈ all book p rent) (hfill : ¬ op.IsFill) :
    ∃ entry ∈ footprint p, (book.slot entry.1).address = op.target
      ∧ rent.minimumBalance entry.2 = op.level := by
  have hraises : op ∈ (all book p rent).filter fun op => ¬ op.IsFill :=
    List.mem_filter.mpr ⟨hop, decide_eq_true hfill⟩
  have hmem := List.mem_map_of_mem (f := fun op : Operation => (op.target, op.level)) hraises
  rw [levels_all] at hmem
  obtain ⟨entry, hentry, heq⟩ := List.mem_map.mp hmem
  exact ⟨entry, hentry, (Prod.mk.inj heq).1, (Prod.mk.inj heq).2⟩

theorem exists_level (hentry : entry ∈ footprint p) :
    ∃ op ∈ all book p rent, op.target = (book.slot entry.1).address
      ∧ op.level = rent.minimumBalance entry.2 := by
  have hmem := List.mem_map_of_mem (f := fun entry : Slot × Nat =>
    ((book.slot entry.1).address, rent.minimumBalance entry.2)) hentry
  rw [← levels_all] at hmem
  obtain ⟨op, hop, heq⟩ := List.mem_map.mp hmem
  exact ⟨op, (List.mem_filter.mp hop).1, (Prod.mk.inj heq).1, (Prod.mk.inj heq).2⟩

theorem level_le (hdistinct : book.Distinct) (hentry : entry ∈ footprint p)
    (hop : op ∈ all book p rent) (htarget : (book.slot entry.1).address = op.target) :
    op.level ≤ rent.minimumBalance entry.2 := by
  by_cases hfill : op.IsFill
  · rw [Operation.level_of_isFill hfill]
    exact UInt64.zero_le
  · obtain ⟨other, hother, hsame, hlevel⟩ := exists_entry hop hfill
    obtain rfl := footprint_inj hentry hother (hdistinct _ _ (htarget.trans hsame.symm))
    exact UInt64.le_of_eq hlevel.symm

end Plan

namespace Setup

variable {scheme : AddressScheme} {setup : Setup} {store : Store} {book : AddressBook}

section Derived

variable (hbook : AddressBook.derive? scheme setup.programId setup.root = some book)
  (hpayer : setup.payer ∉ book)
include hbook hpayer

/-- The run lemma: whatever part of the plan the store has accepted, the payer has paid for it. -/
theorem spends_execute (hdistinct : book.Distinct) :
    book.Spends setup.payer store.accounts (setup.execute scheme store).store.accounts := by
  rw [(execute_agrees scheme setup store).2]
  cases hdraft : setup.preflight scheme store.rent store.accounts.find? with
  | error failure => exact .refl ..
  | ok draft =>
    obtain ⟨-, -, -, -, rfl⟩ := (preflight_eq_ok_iff hbook).mp hdraft
    rw [conclude, store_submit]
    refine Store.submitAll_induct (motive := book.Spends setup.payer store.accounts) ?_ (.refl ..)
    intro batch hbatch op hop before after hspends happly
    obtain ⟨hpays, hsub⟩ := mem_batches hbatch
    rw [hpays] at happly
    obtain ⟨slot, hslot, htarget⟩ := Plan.exists_slot (mem_agenda_iff.mp (hsub hop)).1
    exact hspends.trans (AddressBook.spends_apply hdistinct hpayer hslot htarget happly)

section Written

variable {pool : Key} {transactions : List UInt64}
  (hwritten : (setup.execute scheme store).phase = .written pool transactions)
  {entry : Slot × Nat} (hentry : entry ∈ Plan.footprint setup.parameters)
  (hvacant : (store.accounts.get (book.slot entry.1).address).IsVacant)
include hwritten hentry hvacant

theorem minimumBalance_le_of_vacant :
    store.rent.minimumBalance entry.2
      ≤ ((setup.execute scheme store).store.accounts.get
        (book.slot entry.1).address).lamports := by
  obtain ⟨-, -, -, hclear, happly⟩ := execute_written hbook hwritten
  have hne : (book.slot entry.1).address ≠ setup.payer := fun heq => hpayer ⟨entry.1, heq⟩
  obtain ⟨op, hop, htarget, hlevel⟩ := Plan.exists_level hentry
  rw [← hlevel, ← htarget]
  rw [← htarget] at hne hvacant
  cases hstatus : op.status store.accounts.find? setup.programId with
  | pending => exact Batch.level_le_lamports (mem_agenda_iff.mpr ⟨hop, hstatus⟩) hne happly
  | applied =>
    exact UInt64.le_trans (Operation.level_le_of_applied hvacant hstatus)
      (Batch.lamports_le_apply hne happly)
  | conflict => exact absurd hstatus (hclear op hop)

theorem lamports_of_vacant (hdistinct : book.Distinct) :
    ((setup.execute scheme store).store.accounts.get (book.slot entry.1).address).lamports
      = max (store.accounts.get (book.slot entry.1).address).lamports
        (store.rent.minimumBalance entry.2) := by
  obtain ⟨-, -, -, -, happly⟩ := execute_written hbook hwritten
  have hne : (book.slot entry.1).address ≠ setup.payer := fun heq => hpayer ⟨entry.1, heq⟩
  refine UInt64.le_antisymm ?_ (Saturating.max_le (Batch.lamports_le_apply hne happly)
    (minimumBalance_le_of_vacant hbook hpayer hwritten hentry hvacant))
  exact Batch.lamports_apply_le hne
    (fun op hop htarget => Plan.level_le hdistinct hentry (mem_agenda_iff.mp hop).1 htarget) happly

end Written

end Derived

/-- **What a setup costs, and whom.** Let the addresses that the setup derives be distinct and none
of them pay. Whether or not the pool is written, all accounts but the payer's and the nine of the
pool are as before; no account of the nine has lost lamports, and those that were taken have the
same as before; and the payer has lost exactly what the nine have gained. If the pool is written, an
account of the nine that was vacant has the larger of what it had and its rent-exempt minimum. The
footprint gives the size that the minimum is for; the reserve and the sol leg, which hold no data,
are exempt for a token account. Where no addresses can be derived nothing changes at all. -/
theorem execute_expenses
    (hassumed : ∀ book, AddressBook.derive? scheme setup.programId setup.root = some book →
      book.Distinct ∧ setup.payer ∉ book) :
    let outcome := setup.execute scheme store
    (AddressBook.derive? scheme setup.programId setup.root = none →
        outcome.store.accounts = store.accounts)
      ∧ ∀ book, AddressBook.derive? scheme setup.programId setup.root = some book →
        book.Spends setup.payer store.accounts outcome.store.accounts
          ∧ ∀ pool transactions, outcome.phase = .written pool transactions →
            ∀ entry ∈ Plan.footprint setup.parameters,
              let before := store.accounts.get (book.slot entry.1).address
              (outcome.store.accounts.get (book.slot entry.1).address).lamports
                = if before.IsVacant then max before.lamports (store.rent.minimumBalance entry.2)
                  else before.lamports := by
  refine ⟨fun hnone => ?_, fun book hbook => ?_⟩
  · rw [(execute_agrees scheme setup store).2]
    cases hdraft : setup.preflight scheme store.rent store.accounts.find? with
    | error failure => rfl
    | ok draft =>
      obtain ⟨derived, hderive, -⟩ := Except.bind_eq_ok_iff.mp hdraft
      obtain ⟨-, book, hbook, -⟩ := derive_eq_ok_iff.mp hderive
      cases hnone.symm.trans hbook
  · obtain ⟨hdistinct, hpayer⟩ := hassumed book hbook
    have hspends : book.Spends setup.payer store.accounts
        (setup.execute scheme store).store.accounts := spends_execute hbook hpayer hdistinct
    refine ⟨hspends, fun pool transactions hwritten entry hentry => ?_⟩
    dsimp only
    split
    · next hvacant => exact lamports_of_vacant hbook hpayer hwritten hentry hvacant hdistinct
    · next htaken =>
      refine (hspends.taken entry.1 ?_ htaken).2
      rw [← Plan.map_fst_footprint setup.parameters]
      exact List.mem_map_of_mem hentry

/-- Of one setup the reserve had a part of its rent already. The other is refused halfway, because the
mint of the staked token is there and nobody has paid for it. -/
theorem execute_expenses_samples :
    (AddressBook.sample.Spends sample.payer Store.sample.accounts
        (sample.execute .standard Store.sample).store.accounts
      ∧ ((sample.execute .standard Store.sample).store.accounts.get
          (AddressBook.sample.address .reserve)).lamports
        = max 890880 (Store.sample.rent.minimumBalance TokenAccount.size))
      ∧ ∃ failure,
        (sample.execute .standard Store.underpaidSample).phase = .aborted failure
          ∧ AddressBook.sample.Spends sample.payer Store.underpaidSample.accounts
            (sample.execute .standard Store.underpaidSample).store.accounts := by
  have hstart : Store.sample.accounts.get (AddressBook.sample.address .reserve)
      = .plain 890880 := by decide +kernel
  obtain ⟨hspends, hbalances⟩ :=
    (@execute_expenses .standard sample Store.sample assumed_sample).2 .sample derive?_sample
  have hreserve := hbalances _ _ execute_sample (.role .reserve, TokenAccount.size)
    (by simp [Plan.footprint])
  simp only [← AddressBook.address_eq_slot, hstart, Account.isVacant_plain, if_true] at hreserve
  exact ⟨⟨hspends, hreserve⟩, _, execute_underpaidSample,
    ((execute_expenses assumed_sample).2 .sample derive?_sample).1⟩

end Setup

end StakePool
