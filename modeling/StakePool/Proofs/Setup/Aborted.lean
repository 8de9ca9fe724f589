import StakePool.Proofs.Setup.Audited
import StakePool.Proofs.Setup.Coherence
import StakePool.Proofs.Store.Cutoff
/-!
# What a setup leaves behind when it is given up

A setup that is given up has carried out the first few of its batches and nothing else, and none at
all unless the store rejected one. The record comes last in the last batch, and no operation before
it writes anything that could be read as a record. So whatever the batches were, a setup that is
given up does not bring a pool into existence.
-/

namespace StakePool

theorem List.prefix_of_append_eq_concat {α : Type} {xs ys zs : List α} {z : α}
    (h : xs ++ ys = zs ++ [z]) (hys : ys ≠ []) : xs <+: zs := by
  obtain hnil | ⟨front, last, rfl⟩ := List.eq_nil_or_concat ys
  · exact absurd hnil hys
  · rw [List.concat_eq_append, ← List.append_assoc] at h
    exact ⟨front, (List.append_inj' h rfl).1⟩

namespace Operation

variable {rent : Rent} {programId payer : Key} {op : Operation} {before after : Accounts}

/-- The operation leaves what can be read as a record of a finished pool. -/
def LaysRecord : Operation → Prop
  | writeRecord .. => True
  | writeRegistry _ header => header.discriminator = PoolRecord.writtenDiscriminator
  | createAccount .. | fund .. | openMint .. | openTokenAccount .. => False

theorem laysRecord_of_isSome_result {target : Account} (hadmits : op.Admits rent programId target)
    (h : (PoolRecord.ofData? (op.result target).data).isSome) : op.LaysRecord := by
  have hlength := PoolRecord.length_eq_of_isSome h
  cases op with
  | createAccount slot address space lamports owner =>
    exact absurd (Bytes.isBlank_zeros space.toNat) (PoolRecord.not_isBlank_of_isSome h)
  | fund address lamports =>
    rw [result, hadmits.1] at hlength
    exact absurd hlength (by decide)
  | openMint => exact absurd (hlength.symm.trans (Mint.length_writeOver ..)) (by decide)
  | openTokenAccount =>
    exact absurd (hlength.symm.trans (TokenAccount.length_writeOver ..)) (by decide)
  | writeRecord => trivial
  | writeRegistry address header =>
    obtain ⟨record, hrecord⟩ := Option.isSome_iff_exists.mp h
    obtain ⟨hbytes, hwritten⟩ := PoolRecord.ofData?_eq_some_iff.mp hrecord
    obtain ⟨fields, hfields⟩ : ∃ fields, header.encode = header.discriminator.bytes ++ fields :=
      ⟨_, rfl⟩
    obtain ⟨others, hothers⟩ : ∃ others,
        record.encode = record.discriminator.bytes ++ others := ⟨_, rfl⟩
    rw [result, Bytes.overwrite, hfields, hothers, List.append_assoc] at hbytes
    have hsame := (List.append_inj hbytes
      (header.discriminator.length_bytes.trans record.discriminator.length_bytes.symm)).1
    exact (Block.ext_bytes hsame).trans hwritten

end Operation

theorem Plan.not_laysRecord {book : AddressBook} {p : Parameters} {rent : Rent} {op : Operation}
    (h : op ∈ groundwork book p rent) : ¬ op.LaysRecord := by
  have hall : ∀ op ∈ groundwork book p rent, ¬ op.LaysRecord := by
    simp [groundwork, accountOperations, tokenOperations, create, Operation.LaysRecord,
      RegistryShape.header, Parameters.stakeList, Parameters.validatorList,
      RegistryShape.stakeList, RegistryShape.validatorList]
    decide
  exact hall op h

namespace Setup

variable {scheme : AddressScheme} {setup : Setup} {book : AddressBook} {store : Store}
  {reader : Reader} {pool : Key} {failure : Failure} {rent : Rent} {payer : Key}
  {before after : Accounts}

/-- The step lemma: an operation that lays no record brings no pool into existence. -/
theorem not_poolExists_apply {op : Operation} (hlays : ¬ op.LaysRecord)
    (hnew : ¬ setup.PoolExists before.find? pool)
    (h : op.apply rent setup.programId payer before = .ok after) :
    ¬ setup.PoolExists after.find? pool := by
  rintro ⟨account, hfound, howner, hrecord⟩
  rw [Operation.find?_apply h] at hfound
  have hbefore {known : Account} (hknown : before.find? pool = some known)
      (hsame : known.owner = account.owner ∧ known.data = account.data) : False :=
    hnew ⟨known, hknown, hsame.1.trans howner, hsame.2 ▸ hrecord⟩
  split at hfound
  · next hkey =>
    subst hkey
    split at hfound
    · exact hbefore hfound ⟨rfl, rfl⟩
    · obtain rfl := Option.some.inj hfound
      exact hlays (Operation.laysRecord_of_isSome_result (Operation.apply_eq_ok_iff.mp h).1 hrecord)
  · rw [Accounts.find?_debited] at hfound
    split at hfound
    · next hpaid =>
      obtain rfl := Option.some.inj hfound
      rw [← hpaid.1] at hrecord howner hbefore
      have hlength : 0 < (before.get pool).data.length :=
        PoolRecord.length_eq_of_isSome hrecord ▸ Nat.zero_lt_succ 551
      exact hbefore (before.find?_of_length_pos hlength) ⟨rfl, rfl⟩
    · exact hbefore hfound ⟨rfl, rfl⟩

/-- The run lemma. -/
theorem not_poolExists_batch {operations : List Operation}
    (hlays : ∀ op ∈ operations, ¬ op.LaysRecord) (hnew : ¬ setup.PoolExists before.find? pool)
    (h : (Batch.mk setup.programId payer operations).apply rent before = .ok after) :
    ¬ setup.PoolExists after.find? pool :=
  Batch.apply_induct (motive := fun accounts => ¬ setup.PoolExists accounts.find? pool)
    (fun _ hop _ _ hnew happly => not_poolExists_apply (hlays _ hop) hnew happly) hnew h

theorem audit_ne_nil (h : ¬ setup.PoolExists reader pool) :
    audit scheme reader setup.programId pool ≠ [] := by
  have hload : ∃ finding, Audit.loadRecord reader setup.programId pool = .error finding := by
    rw [Audit.loadRecord]
    cases hfound : reader pool with
    | none => exact ⟨_, rfl⟩
    | some account =>
      by_cases howner : account.owner = setup.programId
      · cases hread : PoolRecord.ofData? account.data with
        | none =>
          by_cases hlength : account.data.length = PoolRecord.size <;>
            simp [howner, hlength, hread]
        | some record => exact absurd ⟨account, hfound, howner, by rw [hread]; rfl⟩ h
      · simp [howner]
  obtain ⟨finding, hfinding⟩ := hload
  rw [audit, hfinding]
  exact List.cons_ne_nil _ _

theorem length_batches_none (setup : Setup) (operations : List Operation) :
    (setup.batches none operations).length ≤ 1 := by
  cases operations with
  | nil => simp [batches]
  | cons op rest => simp [batches, chunks_cons]

theorem length_chunks_le {α : Type} (size : Nat) (xs : List α) :
    (chunks size xs).length ≤ xs.length := by
  fun_induction chunks size xs with
  | case1 => exact Nat.le_refl 0
  | case2 x rest ih =>
    rw [List.length_cons, List.length_cons]
    rw [List.length_drop] at ih
    omega

theorem length_batches_agenda_le (setup : Setup) (book : AddressBook) (limit : Option Nat)
    (rent : Rent) (reader : Reader) :
    (setup.batches limit (setup.agenda book rent reader)).length ≤ 16 := by
  rw [batches, List.length_map]
  calc (chunks _ (setup.agenda book rent reader)).length
      ≤ (setup.agenda book rent reader).length := length_chunks_le ..
    _ ≤ (Plan.all book setup.parameters rent).length := List.length_filter_le ..
    _ = 16 := rfl

/-- The batches in which a setup would submit what is outstanding. -/
def schedule (scheme : AddressScheme) (setup : Setup) (store : Store) : List Batch :=
  match AddressBook.derive? scheme setup.programId setup.root with
  | none => []
  | some book => setup.batches store.limit (setup.agenda book store.rent store.accounts.find?)

/-- Batches before the last of a schedule bring no pool into existence. -/
theorem not_poolExists_of_lt (hclear : setup.Unobstructed store.accounts.find?
      (Plan.all book setup.parameters store.rent)) {limit : Option Nat} {count : Nat}
    (hcount : count < (setup.batches limit
      (setup.agenda book store.rent store.accounts.find?)).length)
    (h : Batch.applyAll store.rent ((setup.batches limit
      (setup.agenda book store.rent store.accounts.find?)).take count) store.accounts = .ok after)
    (hnew : ¬ setup.PoolExists store.accounts.find? pool) :
    ¬ setup.PoolExists after.find? pool := by
  obtain ⟨done, rest, hsplit, hrest, happlied⟩ := exists_split_of_lt hcount
  rw [agenda_eq_append hclear] at hsplit
  obtain ⟨front, hprefix⟩ := List.prefix_of_append_eq_concat hsplit.symm hrest
  refine not_poolExists_batch (fun op hop => ?_) hnew ((happlied _ _).symm.trans h)
  have houtstanding : op ∈ setup.outstanding store.accounts.find?
      (Plan.groundwork book setup.parameters store.rent) :=
    hprefix ▸ List.mem_append_left front hop
  exact Plan.not_laysRecord (List.mem_filter.mp houtstanding).1

/-- A setup that is given up has carried out the first few batches of its schedule, as many as the
store has counted. It has carried out none, and left every account as it was, if it was given up
before the last stage, or for want of funds, or if the store has no limit. And wherever there was no
record of a finished pool before, the audit still has something to report. -/
theorem execute_aborted (h : (setup.execute scheme store).phase = .aborted failure) :
    ∃ accepted ≤ (setup.schedule scheme store).length,
      ((setup.execute scheme store).store.submitted - store.submitted).toNat = accepted
      ∧ Batch.applyAll store.rent ((setup.schedule scheme store).take accepted) store.accounts
        = .ok (setup.execute scheme store).store.accounts
      ∧ (failure.report.stage ≠ .commit ∨ store.limit = none
          ∨ (∃ available needed, failure = .underfunded setup.payer available needed) →
        accepted = 0 ∧ (setup.execute scheme store).store.accounts = store.accounts)
      ∧ ∀ pool, ¬ setup.PoolExists store.accounts.find? pool →
        audit scheme (setup.execute scheme store).store.accounts.find? setup.programId pool
          ≠ [] := by
  obtain ⟨hphase, hstore⟩ := execute_agrees scheme setup store
  rw [hphase] at h
  rw [hstore]
  cases hdraft : setup.preflight scheme store.rent store.accounts.find? with
  | error reason =>
    have hcount : (store.submitted - store.submitted).toNat = 0 := by
      rw [UInt64.sub_self, UInt64.toNat_zero]
    exact ⟨0, Nat.zero_le _, hcount, rfl, fun _ => ⟨rfl, rfl⟩, fun _ => audit_ne_nil⟩
  | ok draft =>
    rw [hdraft] at h
    obtain ⟨derived, hderive, -⟩ := Except.bind_eq_ok_iff.mp hdraft
    obtain ⟨-, book, hbook, -⟩ := derive_eq_ok_iff.mp hderive
    obtain ⟨-, -, hclear, -, rfl⟩ := (preflight_eq_ok_iff hbook).mp hdraft
    have hschedule : setup.schedule scheme store
        = setup.batches store.limit (setup.agenda book store.rent store.accounts.find?) := by
      rw [schedule, hbook]
    obtain ⟨rejection, hrejected, rfl⟩ := exists_rejection_of_submit h
    rw [conclude, store_submit, hschedule]
    let batches := setup.batches store.limit (setup.agenda book store.rent store.accounts.find?)
    let accepted := (store.submitAll batches).accepted
    obtain ⟨hfewer, htake⟩ : accepted.length < batches.length
        ∧ batches.take accepted.length = accepted := Store.take_accepted hrejected
    have happly : Batch.applyAll store.rent (batches.take accepted.length) store.accounts
        = .ok (store.submitAll batches).store.accounts := by
      rw [htake]
      exact Store.applyAll_accepted store batches
    have hcount : ((store.submitAll batches).store.submitted - store.submitted).toNat
        = accepted.length := by
      have hfew : batches.length ≤ 16 := length_batches_agenda_le setup book _ _ _
      rw [Store.submitted_submitAll, UInt64.add_comm, UInt64.add_sub_cancel]
      exact UInt64.toNat_ofNat_of_lt' (Nat.lt_trans (Nat.lt_of_lt_of_le hfewer hfew) (by decide))
    refine ⟨accepted.length, Nat.le_of_lt hfewer, hcount, happly, ?_, fun pool hnew =>
      audit_ne_nil (not_poolExists_of_lt hclear hfewer happly hnew)⟩
    rintro (hstage | hlimit | ⟨_, _, hunderfunded⟩)
    · exact absurd rfl hstage
    · have hone : batches.length ≤ 1 := by
        simp only [batches, hlimit]
        exact length_batches_none setup _
      have hnone : accepted.length = 0 := by omega
      rw [hnone] at happly
      exact ⟨hnone, (Except.ok.inj happly).symm⟩
    · cases hunderfunded

theorem execute_failAfter_sample :
    (sample.execute .standard (Store.sample.failAfter 2)).phase
      = .aborted (.rejected 2 (.unavailable .injected)) := by
  rw [(execute_agrees ..).1, preflight, derive_sample_of_not_poolExists (by decide +kernel)]
  decide +kernel

theorem execute_aborted_sample :
    (sample.execute .standard (Store.sample.failAfter 2)).phase
        = .aborted (.rejected 2 (.unavailable .injected))
      ∧ (∃ accepted ≤ (sample.schedule .standard (Store.sample.failAfter 2)).length,
        ((sample.execute .standard (Store.sample.failAfter 2)).store.submitted
            - Store.sample.submitted).toNat = accepted
          ∧ Batch.applyAll Store.sample.rent
              ((sample.schedule .standard (Store.sample.failAfter 2)).take accepted)
              Store.sample.accounts
            = .ok (sample.execute .standard (Store.sample.failAfter 2)).store.accounts)
      ∧ audit .standard (sample.execute .standard (Store.sample.failAfter 2)).store.accounts.find?
        sample.programId AddressBook.sample.pool ≠ [] := by
  obtain ⟨accepted, hfew, hsubmitted, happly, -, haudit⟩ := execute_aborted execute_failAfter_sample
  exact ⟨execute_failAfter_sample, ⟨accepted, hfew, hsubmitted, happly⟩,
    haudit AddressBook.sample.pool (by decide +kernel)⟩

end Setup

end StakePool
