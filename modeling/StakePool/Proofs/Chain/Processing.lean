import StakePool.Chain.Listing
import StakePool.Proofs.Chain.Agreement
import StakePool.Proofs.Chain.Programs
import StakePool.Proofs.Setup.Preflight
import StakePool.Proofs.WireFormat
/-!
# Processing a request

The program checks a request and its accounts before it executes the plan. A request that presents
its accounts as it should passes every check but one: the account of the pool must not have data
yet. In that case the store refuses the plan too, so `process_agree` holds whatever the accounts
are: the program accepts the request exactly when the store accepts the plan, with the same result.
Of an account list that is not as it should be, `Passed` has what the checks still guarantee.
-/

namespace StakePool

namespace Chain

variable {handles : List Handle} {cells : Cells}

/-- The account list that a request asks for: the payer, who has signed, the accounts of the pool
and the two programs, in this order, with what the store has of the payer and of the pool. What is to
be written to can be written to. -/
structure Presents (book : AddressBook) (payer : Key) (accounts : Accounts)
    (handles : List Handle) (cells : Cells) : Prop where
  keys_eq : handles.map (·.key) = (Request.accesses book payer).map (·.key)
  signed : ∀ handle ∈ handles, handle.key = payer → handle.isSigner
  writable : ∀ access ∈ Request.accesses book payer, access.isWritable →
    ∀ handle ∈ handles, handle.key = access.key → handle.isWritable
  mirror : Mirror handles (fun key => key = payer ∨ key ∈ book) cells accounts.get

namespace Frame

variable {frame : Frame} {book : AddressBook}

/-- Every account of the pool is where it should be. -/
def Fits (frame : Frame) (book : AddressBook) : Prop :=
  ∀ entry ∈ frame.pool, entry.2.key = (book.slot entry.1).address

theorem find?_eq_some (hfits : frame.Fits book) {slot : Slot} (hslot : slot ∈ Request.slots) :
    ∃ handle ∈ frame.pool.map (·.2), frame.find? handle.key = some handle
      ∧ handle.key = (book.slot slot).address := by
  have hslots : Request.slots = frame.pool.map (·.1) := rfl
  rw [hslots] at hslot
  obtain ⟨entry, hentry, rfl⟩ := List.mem_map.mp hslot
  obtain ⟨found, hmem, hfound, hkey⟩ :=
    exists_find?_eq_some (·.2.key = (book.slot entry.1).address) hentry (hfits entry hentry)
  refine ⟨found.2, List.mem_map_of_mem hmem, ?_, hkey⟩
  rw [find?, hkey, hfound, Option.map_some]

theorem exists_of_keys {payer : Key}
    (hkeys : handles.map (·.key) = (Request.accesses book payer).map (·.key)) :
    ∃ frame, ofHandles? handles = some frame ∧ frame.Fits book ∧ frame.payer.key = payer
      ∧ frame.tokenProgram.key = .tokenProgram ∧ frame.systemProgram.key = .systemProgram := by
  have hlength : handles.length = 12 := by
    simpa [Request.accesses, Request.slots] using congrArg List.length hkeys
  -- With all handles at hand the keys agree one by one.
  match handles, hlength with
  | [payer, config, reserve, solLeg, stakeList, validatorList, stMint, lpMint, stLeg, treasury,
      tokenProgram, systemProgram], _ =>
    simp only [Request.accesses, Request.slots, List.map_cons, List.map_nil, List.cons_append,
      List.nil_append, List.cons.injEq, and_true] at hkeys
    obtain ⟨hpayer, h1, h2, h3, h4, h5, h6, h7, h8, h9, htoken, hsystem⟩ := hkeys
    refine ⟨_, rfl, ?_, hpayer, htoken, hsystem⟩
    simp [Fits, pool, h1, h2, h3, h4, h5, h6, h7, h8, h9]

theorem mem_of_ofHandles? (h : ofHandles? handles = some frame) :
    handles.head? = some frame.payer
      ∧ ∀ handle ∈ frame.payer :: frame.pool.map (·.2), handle ∈ handles := by
  unfold ofHandles? at h
  split at h
  · obtain rfl := Option.some.inj h
    exact ⟨rfl, by simp [pool]⟩
  · cases h

end Frame

theorem Job.inOrder_of_fits {scheme : AddressScheme} {programId root : Key} {job : Job}
    (hframe : Frame.ofHandles? handles = some job.frame)
    (hbook : AddressBook.derive? scheme programId root = some job.book)
    (hfits : job.frame.Fits job.book) (hpayer : job.frame.payer.key ∉ job.book)
    (htoken : job.frame.tokenProgram.key = .tokenProgram) :
    job.InOrder scheme programId handles where
  payer_mem := (Frame.mem_of_ofHandles? hframe).2 _ List.mem_cons_self
  payer_not_mem := hpayer
  exists_locates := by
    rintro _ ⟨slot, hslot, rfl⟩
    obtain ⟨target, htarget, hfound, hkey⟩ := Frame.find?_eq_some hfits hslot
    have hlisted := (Frame.mem_of_ofHandles? hframe).2 target (List.mem_cons_of_mem _ htarget)
    exact ⟨target, ⟨hlisted, hfound, slot, hslot, hkey.symm⟩, hkey⟩
  create? := AddressBook.create?_signerSeeds hbook
  tokenProgram_key := htoken

section Request

variable {scheme : AddressScheme} {programId root payer : Key} {book : AddressBook}
  {p : Parameters} {accounts : Accounts} {runtime : Runtime} {rent : Rent}

theorem prepare_of_fits {frame : Frame} (rent? : Option Rent)
    (hbook : AddressBook.derive? scheme programId root = some book)
    (hframe : Frame.ofHandles? handles = some frame) (hfits : frame.Fits book)
    (hsigned : frame.payer.isSigner) (htoken : frame.tokenProgram.key = .tokenProgram)
    (hsystem : frame.systemProgram.key = .systemProgram) :
    prepare scheme programId rent? handles cells (Request.encode ⟨root, p⟩)
      = match p.breach? with
        | some breach => .error (.invalidParameters breach)
        | none =>
          if (cells.get frame.config).data ≠ [] then .error .poolExists
          else match rent? with
            | none => .error .rentUnavailable
            | some rent => .ok ⟨frame, book, Plan.all book p rent⟩ := by
  have hkept : frame.pool.find? (fun entry =>
      decide (entry.2.key ≠ (book.slot entry.1).address)) = none :=
    List.find?_eq_none.mpr fun entry hentry => by simpa using hfits entry hentry
  rw [prepare, Request.decode?_encode]
  cases hbreach : p.breach? with
  | some breach =>
    simp only [hframe, hsigned, hbreach, not_true_eq_false, if_false]
    rfl
  | none =>
    simp only [hframe, hsigned, hbreach, hbook, hkept, htoken, hsystem, ne_eq, not_true_eq_false,
      if_false]
    split
    · rfl
    cases rent? with
    | none => rfl
    | some rent =>
      simp only [Plan.operations_eq_ok hbook hbreach]
      rfl

/-- A request that presents its accounts is only refused if the pool's account has data. -/
theorem prepare_eq (rent : Rent) (hbook : AddressBook.derive? scheme programId root = some book)
    (hvalid : p.IsValid) (hpayer : payer ∉ book)
    (hpresents : Presents book payer accounts handles cells) :
    ∃ job : Job, job.InOrder scheme programId handles ∧ job.frame.payer.key = payer
      ∧ job.book = book ∧ job.operations = Plan.all book p rent
      ∧ prepare scheme programId (some rent) handles cells (Request.encode ⟨root, p⟩)
        = if (accounts.get book.pool).data ≠ [] then .error .poolExists else .ok job := by
  obtain ⟨frame, hframe, hfits, hkey, htoken, hsystem⟩ := Frame.exists_of_keys hpresents.keys_eq
  have hmem := (Frame.mem_of_ofHandles? hframe).2
  have hsigned := hpresents.signed frame.payer (hmem _ List.mem_cons_self) hkey
  have hconfigKey : frame.config.key = book.pool :=
    hfits (.config, frame.config) (List.mem_cons_self ..)
  have hconfig : cells.get frame.config = accounts.get book.pool := by
    rw [← hconfigKey]
    refine hpresents.mirror.get_eq _ (hmem _ (List.mem_cons_of_mem _ List.mem_cons_self)) ?_
    exact .inr (hconfigKey ▸ book.mem_pool)
  refine ⟨⟨frame, book, Plan.all book p rent⟩, ?_, hkey, rfl, rfl, ?_⟩
  · exact Job.inOrder_of_fits hframe hbook hfits (hkey ▸ hpayer) htoken
  · have hbreach : p.breach? = none := hvalid
    rw [prepare_of_fits _ hbook hframe hfits hsigned htoken hsystem, hbreach, ← hconfig]

theorem Presents.tracks {job : Job}
    (h : Presents job.book job.frame.payer.key accounts handles cells)
    (horder : job.InOrder scheme programId handles)
    (hdata : (accounts.get job.frame.payer.key).data = [])
    (howner : (accounts.get job.frame.payer.key).owner = .systemProgram) :
    job.Tracks handles ⟨cells, []⟩ accounts where
  mirror := h.mirror
  unhindered := by
    refine ⟨⟨?signed, ?payerWritable, hdata, howner⟩, fun target htarget => ?targetWritable⟩
    case signed => exact h.signed _ horder.payer_mem rfl
    case payerWritable =>
      exact h.writable _ List.mem_cons_self rfl _ horder.payer_mem rfl
    case targetWritable =>
      obtain ⟨slot, hslot, hkey⟩ := htarget.lists
      have haccess : ⟨(job.book.slot slot).address, false, true⟩
          ∈ Request.accesses job.book job.frame.payer.key :=
        List.mem_append_left _ (List.mem_cons_of_mem _ (List.mem_map_of_mem hslot))
      exact h.writable _ haccess rfl target htarget.mem hkey.symm

theorem performAll_plan {job : Job} (hfaithful : runtime.IsFaithful scheme programId rent)
    (horder : job.InOrder scheme programId handles) (hprogram : job.book.programId = programId)
    (hdistinct : job.book.Distinct) (hnative : job.book.address .stMint ≠ .nativeMint)
    (hvalid : p.IsValid) (htracks : job.Tracks handles ⟨cells, []⟩ accounts) :
    Except.Agree (job.Tracks handles)
      (job.performAll runtime (Plan.all job.book p rent) ⟨cells, []⟩)
      ((Batch.mk programId job.frame.payer.key (Plan.all job.book p rent)).apply rent
        accounts) := by
  refine Job.performAll_agree hfaithful horder (Job.covers_all hdistinct hnative hvalid) ?_
    (fun fill hmem hfill => ?_) htracks
  · exact hprogram ▸ Plan.pairwise_all hdistinct
  · exact .inr (hprogram ▸ Plan.exists_makesRoomFor hmem hfill)

/-- What is known of a job once a request has passed all checks. -/
structure Passed (scheme : AddressScheme) (programId : Key) (rent : Rent) (handles : List Handle)
    (cells : Cells) (data : Bytes) (request : Request) (job : Job) : Prop where
  decode?_eq : Request.decode? data = some request
  valid : request.parameters.IsValid
  ofHandles?_eq : Frame.ofHandles? handles = some job.frame
  derive?_eq : AddressBook.derive? scheme programId request.root = some job.book
  fits : job.frame.Fits job.book
  signed : job.frame.payer.isSigner
  data_config : (cells.get job.frame.config).data = []
  tokenProgram_key : job.frame.tokenProgram.key = .tokenProgram
  systemProgram_key : job.frame.systemProgram.key = .systemProgram
  operations_eq : job.operations = Plan.all job.book request.parameters rent

/-- Whatever the accounts are and however they are listed, there is a job only for a request that
has passed all checks. -/
theorem exists_passed {rent? : Option Rent} {data : Bytes} {job : Job}
    (h : prepare scheme programId rent? handles cells data = .ok job) :
    ∃ rent request, rent? = some rent
      ∧ Passed scheme programId rent handles cells data request job := by
  rw [prepare] at h
  cases hrequest : Request.decode? data with
  | none => rw [hrequest] at h; cases h
  | some request =>
  cases hframe : Frame.ofHandles? handles with
  | none => rw [hrequest, hframe] at h; cases h
  | some frame =>
  simp only [hrequest, hframe, Except.ite_throw_eq_ok_iff] at h
  obtain ⟨hsigned, h⟩ := h
  cases hbreach : request.parameters.breach? with
  | some breach => simp only [hbreach] at h; cases h
  | none =>
  cases hbook : AddressBook.derive? scheme programId request.root with
  | none => simp only [hbreach, hbook] at h; cases h
  | some book =>
  simp only [hbreach, hbook] at h
  cases hmoved : frame.pool.find? fun entry =>
      decide (entry.2.key ≠ (book.slot entry.1).address) with
  | some entry => simp only [hmoved] at h; cases h
  | none =>
  simp only [hmoved, Except.ite_throw_eq_ok_iff] at h
  obtain ⟨hnew, htoken, hsystem, h⟩ := h
  cases rent? with
  | none => cases h
  | some rent =>
  simp only [Plan.operations_eq_ok hbook hbreach] at h
  obtain rfl := Except.ok.inj h
  have hfits : frame.Fits book := fun entry hentry => by
    simpa using List.find?_eq_none.mp hmoved entry hentry
  exact ⟨rent, request, rfl, hrequest, hbreach, hframe, hbook, hfits, not_not.mp hsigned,
    not_not.mp hnew, not_not.mp htoken, not_not.mp hsystem, rfl⟩

theorem Passed.inOrder {data : Bytes} {request : Request} {job : Job}
    (h : Passed scheme programId rent handles cells data request job)
    (hpayer : job.frame.payer.key ∉ job.book) : job.InOrder scheme programId handles :=
  Job.inOrder_of_fits h.ofHandles?_eq h.derive?_eq h.fits hpayer h.tokenProgram_key

theorem Passed.exists_apply {Matters : Key → Prop} {data : Bytes} {request : Request} {job : Job}
    {last : Machine} (h : Passed scheme programId rent handles cells data request job)
    (hfaithful : runtime.IsFaithful scheme programId rent)
    (hpayer : job.frame.payer.key ∉ job.book) (hdistinct : job.book.Distinct)
    (hnative : job.book.address .stMint ≠ .nativeMint)
    (hconcerns : ∀ key, job.Concerns key → Matters key)
    (hmirror : Mirror handles Matters cells accounts.get)
    (hrun : job.performAll runtime job.operations ⟨cells, []⟩ = .ok last) :
    ∃ after, (Batch.mk programId job.frame.payer.key
        (Plan.all job.book request.parameters rent)).apply rent accounts = .ok after
      ∧ Mirror handles Matters last.cells after.get := by
  obtain ⟨hprogram, -⟩ := AddressBook.derive?_spec h.derive?_eq
  rw [h.operations_eq] at hrun
  refine Job.performAll_sound hfaithful (h.inOrder hpayer) hconcerns
    (Job.covers_all hdistinct hnative h.valid) ?_ (fun fill hmem hfill => ?_) hmirror hrun
  · exact hprogram ▸ Plan.pairwise_all hdistinct
  · exact .inr (hprogram ▸ Plan.exists_makesRoomFor hmem hfill)

theorem apply_plan_ne_ok (hdata : (accounts.get book.pool).data ≠ []) (after : Accounts) :
    (Batch.mk programId payer (Plan.all book p rent)).apply rent accounts ≠ .ok after := by
  intro happly
  obtain ⟨_, hcreate, -⟩ := Batch.apply_cons_eq_ok_iff.mp happly
  exact hdata (Operation.apply_eq_ok_iff.mp hcreate).1.1.1

/-- The two executors agree. Whatever the two invoked programs do as long as they do what they are
documented to do, the program accepts a request exactly when a store without a limit and without a
failure in the way accepts the plan as one batch, and then the payer and all accounts of the pool
end up the same. The payer's account has no data and belongs to the system program. -/
theorem process_agree (store : Store) (hfaithful : runtime.IsFaithful scheme programId store.rent)
    (hbook : AddressBook.derive? scheme programId root = some book) (hdistinct : book.Distinct)
    (hnative : book.address .stMint ≠ .nativeMint) (hvalid : p.IsValid) (hpayer : payer ∉ book)
    (hdata : (store.accounts.get payer).data = [])
    (howner : (store.accounts.get payer).owner = .systemProgram)
    (hlimit : store.limit = none) (hfailure : store.failureIn = none)
    (hpresents : Presents book payer store.accounts handles cells) :
    ∃ operations, Plan.operations scheme book p store.rent = .ok operations ∧
      let verdict := process scheme programId runtime (some store.rent) handles cells
        (Request.encode ⟨root, p⟩)
      let submission := store.submit ⟨programId, payer, operations⟩
      (verdict.result = .ok () ↔ ∃ number, submission.1 = .ok number)
        ∧ (verdict.result = .ok () → ∀ handle ∈ handles, handle.key = payer ∨ handle.key ∈ book →
          verdict.machine.account handle = submission.2.accounts.get handle.key) := by
  refine ⟨Plan.all book p store.rent, Plan.operations_eq_ok hbook hvalid, ?_⟩
  obtain ⟨job, horder, rfl, rfl, hoperations, hprepare⟩ :=
    prepare_eq store.rent hbook hvalid hpayer hpresents
  have hprogram := (AddressBook.derive?_spec hbook).1
  have hagree := performAll_plan hfaithful horder hprogram hdistinct hnative hvalid
    (hpresents.tracks horder hdata howner)
  simp only [process, hprepare]
  rcases store.submit_of_unlimited hlimit hfailure
      ⟨programId, job.frame.payer.key, Plan.all job.book p store.rent⟩ with
    ⟨after, happly, hnumber, hafter⟩ | ⟨rejection, happly, hrejected⟩
  · have hnew : ¬ (store.accounts.get job.book.pool).data ≠ [] :=
      fun htaken => apply_plan_ne_ok htaken after happly
    rw [happly] at hagree
    cases hrun : job.performAll runtime (Plan.all job.book p store.rent) ⟨cells, []⟩ with
    | error => exact (hrun ▸ hagree).elim
    | ok machine =>
      rw [hrun] at hagree
      simp only [if_neg hnew, hoperations, hrun, hnumber, hafter]
      exact ⟨⟨fun _ => ⟨_, rfl⟩, fun _ => trivial⟩, fun _ => hagree.mirror.get_eq⟩
  · rw [happly] at hagree
    cases hrun : job.performAll runtime (Plan.all job.book p store.rent) ⟨cells, []⟩ with
    | ok machine => exact (hrun ▸ hagree).elim
    | error stop =>
      by_cases htaken : (store.accounts.get job.book.pool).data ≠ []
      · simp [if_pos htaken, hrejected]
      · simp [if_neg htaken, hoperations, hrun, hrejected]

/-- A payer that belongs to another program is refused, whatever it holds, if there is anything to
pay for the account of the pool. The store does not mind. -/
theorem process_ne_ok_of_owner_ne (hfaithful : runtime.IsFaithful scheme programId rent)
    (hbook : AddressBook.derive? scheme programId root = some book) (hvalid : p.IsValid)
    (hpayer : payer ∉ book) (howner : (accounts.get payer).owner ≠ .systemProgram)
    (hlacks : (accounts.get book.pool).lamports < rent.minimumBalance PoolRecord.size)
    (hpresents : Presents book payer accounts handles cells) :
    (process scheme programId runtime (some rent) handles cells (Request.encode ⟨root, p⟩)).result
      ≠ .ok () := by
  obtain ⟨job, horder, rfl, rfl, hoperations, hprepare⟩ :=
    prepare_eq rent hbook hvalid hpayer hpresents
  obtain ⟨target, htarget, hkey⟩ := horder.exists_locates job.book.pool ⟨.config, by decide, rfl⟩
  -- The plan starts with the account of the pool, and there the program stops.
  have hstops (last : Machine) : job.performAll runtime job.operations ⟨cells, []⟩ ≠ .ok last := by
    intro hrun
    rw [hoperations] at hrun
    obtain ⟨created, hcreated, -⟩ := Except.bind_eq_ok_iff.mp hrun
    have hsponsors : job.Sponsors handles job.Concerns target :=
      horder.sponsors (fun _ hconcerned => hconcerned) htarget
    have hcreation : job.createAccount runtime target
        (rent.minimumBalance (UInt64.ofNat PoolRecord.size).toNat) (UInt64.ofNat PoolRecord.size)
        job.book.programId (job.book.signerSeeds .config) ⟨cells, []⟩ = .ok created := by
      change job.perform runtime (.createAccount .config job.book.pool _ _ _) _ = _ at hcreated
      rwa [← hkey, Job.perform, htarget.locate_eq_ok] at hcreated
    have hmirror : Mirror handles job.Concerns (Machine.mk cells []).cells accounts.get :=
      hpresents.mirror
    refine howner (Job.owner_of_createAccount_eq_ok hfaithful hsponsors hmirror _ _ ?_ hcreation)
    rw [hkey, ne_eq, Saturating.sub64_eq_zero_iff, UInt64.not_le]
    exact hlacks
  simp only [process, hprepare]
  by_cases htaken : (accounts.get job.book.pool).data ≠ []
  · simp [if_pos htaken]
  · rw [if_neg htaken]
    cases hrun : job.performAll runtime job.operations ⟨cells, []⟩ with
    | ok last => exact absurd hrun (hstops last)
    | error stop => simp [hrun]

end Request

/-! ### The request of one pool -/

/-- The sample store without its limit. -/
def sampleStore : Store := { Store.sample with limit := none }

/-- The accounts of the request, as a store has them. -/
def sampleListing (store : Store) : List Listed :=
  (Request.accesses .sample Setup.sample.payer).map fun access =>
    .first access.key (store.accounts.get access.key) access.isSigner access.isWritable

def sampleLoaded : List Handle × Cells :=
  (Listed.load? (sampleListing sampleStore)).getD ([], [])

theorem presents_sample :
    Presents .sample Setup.sample.payer sampleStore.accounts sampleLoaded.1 sampleLoaded.2 where
  keys_eq := by decide +kernel
  signed := by decide +kernel
  writable := by decide +kernel
  mirror := ⟨by decide +kernel, by decide +kernel, by decide +kernel⟩

theorem process_agree_sample :
    ∃ handles cells, Listed.load? (sampleListing sampleStore) = some (handles, cells)
      ∧ (process .standard .stakePoolProgram
          (.faithful .standard .stakePoolProgram sampleStore.rent) (some sampleStore.rent) handles
          cells (Request.encode ⟨Setup.sample.root, .sample⟩)).result = .ok () := by
  have hvalid : Parameters.sample.IsValid := by decide +kernel
  obtain ⟨operations, hplan, haccepted, -⟩ := process_agree sampleStore
    (Runtime.faithful_isFaithful ..) AddressBook.derive?_sample AddressBook.distinct_sample
    (by decide +kernel) hvalid (by decide +kernel) (by decide +kernel) (by decide +kernel) rfl rfl
    presents_sample
  obtain rfl := Except.ok.inj
    (hplan.symm.trans (Plan.operations_eq_ok AddressBook.derive?_sample hvalid))
  have hsubmitted : (sampleStore.submit ⟨.stakePoolProgram, Setup.sample.payer,
      Plan.all .sample .sample sampleStore.rent⟩).1.isOk := by decide +kernel
  exact ⟨sampleLoaded.1, sampleLoaded.2, by decide +kernel,
    haccepted.mpr (Except.exists_of_isOk hsubmitted)⟩

/-! ### A payer that has been given away -/

/-- The sample store with the payer's account in the hands of the token program. -/
def foreignStore : Store :=
  { sampleStore with
    accounts := sampleStore.accounts.insert Setup.sample.payer
      { sampleStore.accounts.get Setup.sample.payer with owner := .tokenProgram } }

def foreignLoaded : List Handle × Cells :=
  (Listed.load? (sampleListing foreignStore)).getD ([], [])

theorem presents_foreign :
    Presents .sample Setup.sample.payer foreignStore.accounts foreignLoaded.1 foreignLoaded.2 where
  keys_eq := by decide +kernel
  signed := by decide +kernel
  writable := by decide +kernel
  mirror := ⟨by decide +kernel, by decide +kernel, by decide +kernel⟩

/-- Without data and with lamports enough, the payer satisfies the store but not the program. -/
theorem process_disagrees_of_foreign_payer :
    ∃ operations, Plan.operations .standard .sample .sample foreignStore.rent = .ok operations
      ∧ AddressBook.derive? .standard .stakePoolProgram Setup.sample.root = some .sample
      ∧ AddressBook.sample.Distinct ∧ AddressBook.sample.address .stMint ≠ .nativeMint
      ∧ Parameters.sample.IsValid ∧ Setup.sample.payer ∉ AddressBook.sample
      ∧ (foreignStore.accounts.get Setup.sample.payer).data = []
      ∧ foreignStore.limit = none ∧ foreignStore.failureIn = none
      ∧ Presents .sample Setup.sample.payer foreignStore.accounts foreignLoaded.1 foreignLoaded.2
      ∧ (process .standard .stakePoolProgram
          (.faithful .standard .stakePoolProgram foreignStore.rent) (some foreignStore.rent)
          foreignLoaded.1 foreignLoaded.2
          (Request.encode ⟨Setup.sample.root, .sample⟩)).result ≠ .ok ()
      ∧ ∃ number, (foreignStore.submit ⟨.stakePoolProgram, Setup.sample.payer, operations⟩).1
          = .ok number := by
  have hvalid : Parameters.sample.IsValid := by decide +kernel
  have hpayer : Setup.sample.payer ∉ AddressBook.sample := by decide +kernel
  have hsubmitted : (foreignStore.submit ⟨.stakePoolProgram, Setup.sample.payer,
      Plan.all .sample .sample foreignStore.rent⟩).1.isOk := by decide +kernel
  refine ⟨_, Plan.operations_eq_ok AddressBook.derive?_sample hvalid, AddressBook.derive?_sample,
    AddressBook.distinct_sample, by decide +kernel, hvalid, hpayer, by decide +kernel, rfl, rfl,
    presents_foreign, ?_, Except.exists_of_isOk hsubmitted⟩
  exact process_ne_ok_of_owner_ne (Runtime.faithful_isFaithful ..) AddressBook.derive?_sample hvalid
    hpayer (by decide +kernel) (by decide +kernel) presents_foreign

end Chain

end StakePool
