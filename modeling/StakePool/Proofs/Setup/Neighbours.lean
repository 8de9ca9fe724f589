import StakePool.Proofs.Audit.Checks
import StakePool.Proofs.Chain.Ledger
import StakePool.Proofs.Setup.Gifts
import StakePool.Proofs.Setup.Rivals
/-!
# Pools among each other

Setups of any pools, this one included, may go on next to a pool that passes its audit, step by step
and in any order, while others give lamports away and make submissions fail. Some may have drafted
their operations long before, on stores that looked quite different. None of it is held against the
pool. A setup for the same pool finds the record in the way of its own and submits nothing. A setup
for another pool touches its own addresses and its payer only. And lamports on top of a balance do no
harm, so the reserve and the sol leg, which look vacant, are not mistaken for anything else.
-/

namespace StakePool

/-! ### What the audit puts up with -/

theorem Duty.Fits.grown {duty : Duty} {book : AddressBook} {record : PoolRecord}
    {before after : Account} (h : duty.Fits book record before) (hgrown : before.Grown after) :
    duty.Fits book record after := by
  obtain ⟨howner, hdata, hlamports⟩ := hgrown
  cases duty with
  | record | mint | tokens | registry =>
    simp only [Fits, howner, hdata] at h ⊢
    exact h
  | vault =>
    obtain ⟨⟨hempty, hsystem⟩, hle⟩ := h
    exact ⟨⟨hdata.trans hempty, howner.trans hsystem⟩, UInt64.le_trans hle hlamports⟩
  | signer => trivial

/-- All accounts of a pool do their duties. -/
def AddressBook.IsKept (book : AddressBook) (record : PoolRecord) (reader : Reader) : Prop :=
  ∀ slot ∈ Request.slots, ∃ account, reader (book.slot slot).address = some account
    ∧ slot.duty.Fits book record account

namespace AddressBook.IsKept

variable {book : AddressBook} {record : PoolRecord} {reader other : Reader}

theorem grown (h : book.IsKept record reader)
    (hgrown : ∀ key ∈ book, ∀ account, reader key = some account →
      ∃ after, other key = some after ∧ account.Grown after) : book.IsKept record other := by
  intro slot hslot
  obtain ⟨account, hfound, hfits⟩ := h slot hslot
  obtain ⟨after, hafter, hmore⟩ := hgrown _ (book.mem_slot slot) account hfound
  exact ⟨after, hafter, hfits.grown hmore⟩

theorem congr (h : book.IsKept record reader) (hsame : ∀ key ∈ book, other key = reader key) :
    book.IsKept record other :=
  h.grown fun key hkey account hfound =>
    ⟨account, (hsame key hkey).trans hfound, .refl account⟩

theorem poolExists {setup : Setup} (h : book.IsKept record reader)
    (hprogram : setup.programId = book.programId) : setup.PoolExists reader book.pool := by
  obtain ⟨account, hfound, howner, hread, -⟩ := h .config (by decide)
  exact ⟨account, hfound, howner.trans hprogram.symm, Option.isSome_of_eq_some hread⟩

end AddressBook.IsKept

/-! ### A setup that may have begun long ago -/

namespace Setup

variable {scheme : AddressScheme} {setup : Setup} {store : Store} {phase : Phase}
  {book : AddressBook} {record : PoolRecord}

/-- The phases that a setup can get to by steps on whatever stores. -/
inductive Reaches (scheme : AddressScheme) (setup : Setup) : Phase → Prop where
  | unstarted : Reaches scheme setup .unstarted
  | step {phase : Phase} (h : Reaches scheme setup phase) (store : Store) :
    Reaches scheme setup (setup.step scheme store.quote phase store).phase

/-- Parameters and addresses are right, and all that is drafted is about these addresses. -/
def Aimed (scheme : AddressScheme) (setup : Setup) : Phase → Prop
  | .addressesDerived draft | .accountsProvisioned draft | .tokensBootstrapped draft =>
    setup.parameters.IsValid
      ∧ AddressBook.derive? scheme setup.programId setup.root = some draft.book
      ∧ ∀ op ∈ draft.operations, op.target ∈ draft.book
  | .unstarted | .written .. | .aborted _ => True

theorem target_mem_append {draft : Draft} (rent : Rent) (reader : Reader)
    {planned : List Operation} (hplanned : planned ⊆ Plan.all draft.book setup.parameters rent)
    (h : ∀ op ∈ draft.operations, op.target ∈ draft.book) :
    ∀ op ∈ draft.operations ++ setup.outstanding reader planned, op.target ∈ draft.book := by
  intro op hop
  obtain hop | hop := List.mem_append.mp hop
  · exact h op hop
  · exact Plan.target_mem (hplanned (List.mem_filter.mp hop).1)

theorem aimed_step (h : Aimed scheme setup phase) :
    Aimed scheme setup (setup.step scheme store.quote phase store).phase := by
  cases phase with
  | unstarted =>
    rw [step]
    cases hderive : setup.derive scheme store.accounts.find? with
    | error failure => trivial
    | ok draft =>
      obtain ⟨hvalid, book, hbook, -, rfl⟩ := derive_eq_ok_iff.mp hderive
      exact ⟨hvalid, hbook, List.forall_mem_nil _⟩
  | addressesDerived draft =>
    obtain ⟨hvalid, hbook, htargets⟩ := h
    rw [step]
    cases hprovision : setup.provision store.quote.rent store.accounts.find? draft with
    | error failure => trivial
    | ok next =>
      obtain ⟨-, rfl⟩ := (provision_eq_ok_iff hvalid).mp hprovision
      exact ⟨hvalid, hbook, target_mem_append store.quote.rent _
        (List.subset_append_of_subset_left _ (List.subset_append_left _ _)) htargets⟩
  | accountsProvisioned draft =>
    obtain ⟨hvalid, hbook, htargets⟩ := h
    rw [step]
    cases hbootstrap : setup.bootstrap scheme store.accounts.find? draft with
    | error failure => trivial
    | ok next =>
      obtain ⟨-, rfl⟩ := (bootstrap_eq_ok_iff hbook).mp hbootstrap
      exact ⟨hvalid, hbook, target_mem_append store.quote.rent _
        (List.subset_append_of_subset_left _ (List.subset_append_right _ _)) htargets⟩
  | tokensBootstrapped draft =>
    rw [step, commit_eq_conclude]
    cases setup.complete store.rent store.accounts.find? draft
        >>= setup.afford store.accounts.find? with
    | error failure => trivial
    | ok full =>
      obtain ⟨failure, hphase⟩ | ⟨⟨transactions, hphase⟩, -⟩ :=
        submit_cases setup store.limit full store
      all_goals
        rw [conclude, hphase]
        trivial
  | written | aborted => exact h

theorem Reaches.aimed (h : Reaches scheme setup phase) : Aimed scheme setup phase := by
  induction h with
  | unstarted => trivial
  | step _ store ih => exact aimed_step ih

theorem mem_batches {limit : Option Nat} {operations : List Operation} {batch : Batch}
    (hbatch : batch ∈ setup.batches limit operations) :
    batch.payer = setup.payer ∧ batch.operations ⊆ operations := by
  obtain ⟨part, hpart, rfl⟩ := List.mem_map.mp hbatch
  refine ⟨rfl, fun op hop => ?_⟩
  rw [← flatten_chunks (limit.getD operations.length) operations]
  exact List.mem_flatten.mpr ⟨part, hpart, hop⟩

theorem find?_commit {draft : Draft} {key : Key}
    (htargets : ∀ op ∈ draft.operations, op.target ∈ draft.book) (hkey : key ∉ draft.book)
    (hpayer : key ≠ setup.payer) :
    (setup.commit store.quote draft store).store.accounts.find? key
      = store.accounts.find? key := by
  rw [commit_eq_conclude]
  cases hresult : setup.complete store.rent store.accounts.find? draft
      >>= setup.afford store.accounts.find? with
  | error failure => rfl
  | ok full =>
    obtain ⟨completed, hcomplete, hafford⟩ := Except.bind_eq_ok_iff.mp hresult
    obtain ⟨-, rfl⟩ := afford_eq_ok_iff.mp hafford
    obtain ⟨-, rfl⟩ := complete_eq_ok_iff.mp hcomplete
    have hrecord : [Plan.recordWrite draft.book setup.parameters store.rent]
        ⊆ Plan.all draft.book setup.parameters store.rent := List.subset_append_right ..
    have htargets := target_mem_append store.rent store.accounts.find? hrecord htargets
    rw [conclude, submit]
    split
    all_goals
      refine Store.submitAll_induct (motive := fun accounts =>
        accounts.find? key = store.accounts.find? key) ?_ rfl
      intro batch hbatch op hop before after hsame happly
      obtain ⟨hpays, hsub⟩ := mem_batches hbatch
      rw [← hsame]
      refine Operation.find?_apply_of_ne happly ?_ (hpays ▸ hpayer)
      exact fun heq => hkey (heq ▸ htargets op (hsub hop))

/-- The step lemma: a setup for the same pool changes nothing, one for another pool nothing here. -/
theorem isKept_step (hkept : book.IsKept record store.accounts.find?)
    (hbook : AddressBook.derive? scheme book.programId book.root = some book)
    (haimed : Aimed scheme setup phase) (hpayer : setup.payer ∉ book)
    (hapart : ∀ other, AddressBook.derive? scheme setup.programId setup.root = some other →
      ∀ key ∈ book, key ∈ other →
        setup.programId = book.programId ∧ setup.root = book.root) :
    book.IsKept record (setup.step scheme store.quote phase store).store.accounts.find? := by
  cases phase with
  | unstarted | addressesDerived | accountsProvisioned =>
    rw [step, ofDraft_store]
    exact hkept
  | written | aborted => exact hkept
  | tokensBootstrapped draft =>
    obtain ⟨hvalid, hderived, htargets⟩ := haimed
    by_cases hsame : setup.programId = book.programId ∧ setup.root = book.root
    · obtain ⟨hprogram, hroot⟩ := hsame
      have hexists := hkept.poolExists hprogram
      rw [← hprogram, ← hroot] at hbook
      have hcoherent : Coherent scheme setup store.accounts.find? (.tokensBootstrapped draft) :=
        ⟨hvalid, hderived⟩
      rw [(step_of_poolExists hbook hexists hcoherent id).1]
      exact hkept
    · refine hkept.congr fun key hkey => ?_
      refine find?_commit htargets (fun hmem => hsame (hapart _ hderived key hkey hmem)) ?_
      exact fun heq => hpayer (heq ▸ hkey)

end Setup

theorem Store.isKept_airdrop {store : Store} {book : AddressBook} {record : PoolRecord}
    (h : book.IsKept record store.accounts.find?) (address : Key) (lamports : UInt64) :
    book.IsKept record (store.airdrop address lamports).accounts.find? :=
  h.grown fun _ _ _ hfound => exists_find?_airdrop hfound address lamports

/-! ### Any number of setups -/

namespace Neighbours

open Rivals (World)

variable {ι : Type}

/-- What can happen next. -/
inductive Move (ι : Type) where
  | step (neighbour : ι)
  | airdrop (address : Key) (lamports : UInt64)
  | failAfter (skipped : Nat)

/-- The setups leave a pool's addresses to the pool: none is asked to pay, and where a setup derives
one of them, it is for the same slot of the same pool. -/
structure Apart (scheme : AddressScheme) (setups : ι → Setup) (book : AddressBook) : Prop where
  payer_not_mem : ∀ neighbour, (setups neighbour).payer ∉ book
  address_inj : ∀ neighbour other,
    AddressBook.derive? scheme (setups neighbour).programId (setups neighbour).root = some other →
      ∀ theirs ours, (other.slot theirs).address = (book.slot ours).address →
        (setups neighbour).programId = book.programId ∧ (setups neighbour).root = book.root
          ∧ theirs = ours

variable [DecidableEq ι] {scheme : AddressScheme} {setups : ι → Setup} {world : World ι}
  {book : AddressBook} {record : PoolRecord}

def next (scheme : AddressScheme) (setups : ι → Setup) (world : World ι) : Move ι → World ι
  | .step neighbour =>
    let outcome :=
      (setups neighbour).step scheme world.store.quote (world.phase neighbour) world.store
    { store := outcome.store
      phase := fun other => if other = neighbour then outcome.phase else world.phase other }
  | .airdrop address lamports => { world with store := world.store.airdrop address lamports }
  | .failAfter skipped => { world with store := world.store.failAfter skipped }

/-- The world after moves in any order. -/
def play (scheme : AddressScheme) (setups : ι → Setup) (moves : List (Move ι)) (world : World ι) :
    World ι :=
  moves.foldl (next scheme setups) world

/-- The pool is as it should be, and the setups are on their way, from wherever they began. -/
structure Standing (scheme : AddressScheme) (setups : ι → Setup) (book : AddressBook)
    (record : PoolRecord) (world : World ι) : Prop where
  isKept : book.IsKept record world.store.accounts.find?
  reaches : ∀ neighbour, (setups neighbour).Reaches scheme (world.phase neighbour)

section Apart

variable (hbook : AddressBook.derive? scheme book.programId book.root = some book)
  (hapart : Apart scheme setups book)
include hbook hapart

theorem standing_next (h : Standing scheme setups book record world) (move : Move ι) :
    Standing scheme setups book record (next scheme setups world move) := by
  cases move with
  | step neighbour =>
    refine ⟨?_, fun other => ?_⟩
    · refine Setup.isKept_step h.isKept hbook (h.reaches neighbour).aimed
        (hapart.payer_not_mem neighbour) ?_
      rintro other hother key ⟨ours, hours⟩ ⟨theirs, htheirs⟩
      obtain ⟨hprogram, hroot, -⟩ :=
        hapart.address_inj neighbour other hother theirs ours (htheirs.trans hours.symm)
      exact ⟨hprogram, hroot⟩
    · by_cases hother : other = neighbour
      · subst hother
        simp only [next, if_true]
        exact (h.reaches other).step world.store
      · simp only [next, if_neg hother]
        exact h.reaches other
  | airdrop address lamports =>
    exact ⟨Store.isKept_airdrop h.isKept address lamports, h.reaches⟩
  | failAfter skipped => exact ⟨h.isKept, h.reaches⟩

theorem standing_play (h : Standing scheme setups book record world) (moves : List (Move ι)) :
    Standing scheme setups book record (play scheme setups moves world) := by
  induction moves generalizing world with
  | nil => exact h
  | cons move rest ih => exact ih (standing_next hbook hapart h move)

end Apart

/-- **Pools do not disturb each other.** A pool that passes its audit goes on to pass it, whatever
setups of whatever pools do next to it, from wherever they began, whatever lamports are given away
and whichever submissions fail. The record and the book are those of the pool that is audited. -/
theorem audit_play {programId pool : Key}
    (hload : Audit.loadRecord world.store.accounts.find? programId pool = .ok record)
    (hbook : AddressBook.derive? scheme programId record.root = some book)
    (haudit : audit scheme world.store.accounts.find? programId pool = [])
    (hapart : Apart scheme setups book)
    (hreaches : ∀ neighbour, (setups neighbour).Reaches scheme (world.phase neighbour))
    (moves : List (Move ι)) :
    audit scheme (play scheme setups moves world).store.accounts.find? programId pool = [] := by
  obtain ⟨hpool, hkept⟩ := (Audit.audit_eq_nil_iff_of_loadRecord hload hbook).mp haudit
  obtain ⟨hprogram, hroot, -, -⟩ := AddressBook.derive?_spec hbook
  have hself : AddressBook.derive? scheme book.programId book.root = some book := by
    rw [hprogram, hroot, hbook]
  have hstanding := standing_play hself hapart ⟨hkept, hreaches⟩ moves
  exact Audit.audit_eq_nil_iff.mpr ⟨record, book, hbook, hpool, hstanding.isKept⟩

/-! ### Two neighbours of the sample pool

One asks for the same pool at another payer's expense. The other asks for the pool of another root,
whose addresses are again all found with the first bump that is tried. -/

def sampleRoot : Key := .ofNat 0x43d1

def sampleBook : AddressBook :=
  let first (number : Nat) : DerivedAddress := ⟨.ofNat number, 255⟩
  { programId := .stakePoolProgram
    root := sampleRoot
    config := first 0x429329df5fca8275ba62c74584aa77dea904fd0ef56bf237947dd5dcab061c2d
    roles := {
      reserve := first 0xaf84762b21cb27e8be67f76e76860f87e9217018081b436b64081a7799074b0
      solLeg := first 0xb2f3a3eaece8fc0fbd70da824213c78329fc89574d4843d14fb1752926109f0d
      stLegAuthority := first 0xabcc80c78a004b0b10a01a1d1b0b3cc7cfb3f207695d4ced712ec11d32d4fee0
      stLeg := first 0xcba340a4229f8932ef12309b59ce86751d69ae79ba79beca2ff19bdb65ce6fca
      stMint := first 0xc484b80cb2e8ced3a833954e276c25c68a4cc821e9e602f341f7e50c75f38081
      stMintAuthority := first 0x1876fea63ac349c08d681930e7fa6d8c3f8e4b23c99219b1a79e07f094fd19b7
      lpMint := first 0xabf6d80ba9b0db0d91a2b408151210e546c36a1744d5f6352644933eeaf4657b
      lpMintAuthority := first 0x3e205bcc29e4c35a9ac52265cb05b98eb1502f828720ea7317bb3695ddc23961
      treasury := first 0x267d671d179debd33434b392b34a63042c6684bd7f0dac3caaaefc591e54167a
      stakeList := first 0x44ef6eeec51655875a65951633d7ec4471ac4011660ad769fda659a8a6d790bd
      validatorList := first 0x8f499d2a60bfb49c66147d23bd109bdcae1ccdab0b8f41636b8d4b6906f0525e
      depositAuthority := first 0x9c309c0483cdf0a85f4d9b9f06a5191e3c4b75db68096eb257cb90caf54947fb
      withdrawAuthority := first 0xb6be9d6752a197a10c845ac2dc97ba124377c8a787e4fac2b144d1dceaeda172 } }

theorem derive?_sampleBook :
    AddressBook.derive? .standard .stakePoolProgram sampleRoot = some sampleBook := by
  decide +kernel

theorem not_mem_sampleBook :
    ∀ theirs ∈ Slot.all, (sampleBook.slot theirs).address ∉ AddressBook.sample := by
  decide +kernel

def sample (same : Bool) : Setup :=
  { Setup.sample with
    payer := .ofNat 8
    root := if same then Setup.sample.root else sampleRoot }

theorem apart_sample : Apart .standard sample .sample where
  payer_not_mem _ := (by decide +kernel : Key.ofNat 8 ∉ AddressBook.sample)
  address_inj same other hother theirs ours haddress := by
    cases same with
    | true =>
      obtain rfl := Option.some.inj (hother.symm.trans AddressBook.derive?_sample)
      exact ⟨rfl, rfl, AddressBook.distinct_sample _ _ haddress⟩
    | false =>
      obtain rfl := Option.some.inj (hother.symm.trans derive?_sampleBook)
      exact absurd ⟨ours, haddress.symm⟩ (not_mem_sampleBook theirs theirs.mem_all)

/-- The neighbours have derived their addresses. -/
def samplePhase (same : Bool) : Setup.Phase :=
  .addressesDerived ⟨if same then .sample else sampleBook, []⟩

theorem reaches_samplePhase (same : Bool) :
    (sample same).Reaches .standard (samplePhase same) := by
  have hbook : AddressBook.derive? .standard (sample same).programId (sample same).root
      = some (if same then .sample else sampleBook) := by
    cases same with
    | true => exact AddressBook.derive?_sample
    | false => exact derive?_sampleBook
  have hderive : (sample same).derive .standard Store.sample.accounts.find?
      = .ok ⟨if same then .sample else sampleBook, []⟩ := by
    refine Setup.derive_eq_ok_iff.mpr ⟨?_, _, hbook, ?_, rfl⟩
    · cases same <;> exact (by decide +kernel : Parameters.sample.IsValid)
    · cases same <;> decide +kernel
  have hphase : ((sample same).step .standard Store.sample.quote .unstarted Store.sample).phase
      = samplePhase same := by
    rw [Setup.step, hderive]
    rfl
  rw [← hphase]
  exact @Setup.Reaches.step .standard (sample same) .unstarted .unstarted Store.sample

def sampleMoves : List (Move Bool) :=
  [.airdrop (.ofNat 8) 1000000000, .step false, .step true, .step false,
    .airdrop (AddressBook.sample.address .reserve) 5, .step false, .failAfter 1, .step false]

/-- The sample pool has just been written, while its neighbours were on their way. -/
theorem audit_play_sample :
    audit .standard (play .standard sample sampleMoves
        ⟨(Setup.sample.execute .standard Store.sample).store, samplePhase⟩).store.accounts.find?
      .stakePoolProgram AddressBook.sample.pool = [] := by
  -- It does not matter how the store came about, and to look into it would be to run the setup.
  have hany (store : Store) (hfounded : Chain.Founded Store.sample.rent .sample
      Setup.sample.parameters store.accounts.find?) :
      audit .standard (play .standard sample sampleMoves ⟨store, samplePhase⟩).store.accounts.find?
        .stakePoolProgram AddressBook.sample.pool = [] := by
    obtain ⟨account, hfound, howner, hdata⟩ := hfounded.exists_record
    have hclean := hfounded.audit_eq_nil AddressBook.derive?_sample
    exact audit_play (Audit.loadRecord_initial hfound howner hdata) AddressBook.derive?_sample
      hclean apart_sample reaches_samplePhase sampleMoves
  have hrent : 0 < Plan.pinned Store.sample.rent := Plan.pinned_standard
  exact hany _ (Chain.Founded.of_setup Setup.derive?_sample AddressBook.distinct_sample
    (by decide +kernel) hrent Setup.execute_sample)

end Neighbours

end StakePool
