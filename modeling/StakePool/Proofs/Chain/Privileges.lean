import StakePool.Chain.Ledger
import StakePool.Proofs.Chain.Confinement
/-!
# Requests as they are meant to be sent

The account list of a request and what the program does with it are written down in different
places. Here they are compared. A request that is sent with the accounts it asks for, whatever these
hold, is never turned down for its data or for its account list; and whatever the program then has
another program write to or sign for, and whatever it writes to itself, the account list allows. The
payer may even be an account of the pool.
-/

namespace StakePool

namespace Chain

/-- Handles on the accounts that are asked for, in the same order, each signed if it has to be. -/
structure Carries (accesses : List Access) (handles : List Handle) : Prop where
  keys_eq : handles.map (·.key) = accesses.map (·.key)
  signed : ∀ entry ∈ accesses.zip handles, entry.1.isSigner → entry.2.isSigner

/-- Some entry for the account allows it to be written to. -/
def Instruction.MayWrite (instruction : Instruction) (key : Key) : Prop :=
  ∃ access ∈ instruction.accesses, access.key = key ∧ access.isWritable

/-- The instruction allows what is written to, and who has to sign is the payer or an address that
the passed seeds derive. -/
def Event.IsBacked (scheme : AddressScheme) (programId : Key) (instruction : Instruction)
    (payer : Key) : Event → Prop
  | .invocation made _ => ∀ access ∈ made.call.accesses,
    (access.isWritable → instruction.MayWrite access.key)
      ∧ (access.isSigner → access.key = payer ∨ made.SignsFor scheme programId access.key)
  | .write handle _ => instruction.MayWrite handle.key

/-- All that has happened so far is backed. -/
def Machine.IsBacked (scheme : AddressScheme) (programId : Key) (instruction : Instruction)
    (payer : Key) (machine : Machine) : Prop :=
  ∀ event ∈ machine.trace, event.IsBacked scheme programId instruction payer

/-- The errors by which the program rejects its data or its account list. -/
def mismatchErrors : List ChainError :=
  [.invalidInstructionData, .missingRequiredSignature, .notEnoughAccountKeys,
    Fault.invalidAddress.toChainError, Fault.invalidTokenProgram.toChainError,
    Fault.invalidSystemProgram.toChainError]

/-- The errors of the system program and of the token program, once a call has been granted its
accounts, and of the ledger. -/
def programErrors : List ChainError :=
  [.custom 0, .custom 1, .custom 2, .custom 3, .custom 6, .invalidArgument, .invalidAccountData,
    .incorrectProgramId, .arithmeticOverflow, .immutable, .illegalOwner, .invalidRealloc]

/-- What can still go wrong with a request that is in order: its parameters, the state of the
accounts and of the chain, and what the invoked programs answer. -/
inductive Failure.IsCircumstance (Answer : ChainError → Prop) : Failure → Prop
  | invalidParameters (breach : Parameters.Breach) : IsCircumstance Answer (.invalidParameters breach)
  | poolExists : IsCircumstance Answer .poolExists
  | rentUnavailable : IsCircumstance Answer .rentUnavailable
  | refusal {failure : Failure} (h : failure.IsRefusal) : IsCircumstance Answer failure
  | invocation {error : ChainError} (h : Answer error) : IsCircumstance Answer (.invocation error)

theorem Failure.IsCircumstance.of_mismatch {Answer : ChainError → Prop} {failure : Failure}
    (h : failure.IsCircumstance Answer) (hmismatch : failure.error ∈ mismatchErrors) :
    ∃ error, failure = .invocation error ∧ Answer error := by
  have hconfig : Fault.invalidConfig.toChainError ∉ mismatchErrors := by decide
  have hinUse : Fault.accountAlreadyInitialized.toChainError ∉ mismatchErrors := by decide
  have hdata : Fault.invalidAccountData.toChainError ∉ mismatchErrors := by decide
  have hsysvar : ChainError.unsupportedSysvar ∉ mismatchErrors := by decide
  cases h with
  | invalidParameters => exact absurd hmismatch hconfig
  | poolExists => exact absurd hmismatch hinUse
  | rentUnavailable => exact absurd hmismatch hsysvar
  | refusal h =>
    cases h with
    | accountInUse | notPlain => exact absurd hmismatch hinUse
    | wrongSize => exact absurd hmismatch hdata
  | invocation h => exact ⟨_, rfl, h⟩

/-! ### What the two programs answer -/

namespace Cells

variable (cells : Cells) (source target mint : Handle) (lamports space : UInt64) (owner : Key)

theorem allocate_meets :
    Except.Meets (fun _ => True) (· ∈ programErrors) (cells.allocate target space) := by
  simp only [allocate]
  split
  · exact (by decide : ChainError.custom 0 ∈ programErrors)
  split
  · exact (by decide : ChainError.custom 3 ∈ programErrors)
  · trivial

theorem transfer_meets :
    Except.Meets (fun _ => True) (· ∈ programErrors) (cells.transfer source target lamports) := by
  simp only [transfer]
  split
  · exact (by decide : ChainError.invalidArgument ∈ programErrors)
  split
  · exact (by decide : ChainError.custom 1 ∈ programErrors)
  split
  · exact (by decide : ChainError.arithmeticOverflow ∈ programErrors)
  · trivial

theorem createAccount_meets :
    Except.Meets (fun _ => True) (· ∈ programErrors)
      (cells.createAccount source target lamports space owner) := by
  simp only [createAccount]
  split
  · exact (by decide : ChainError.custom 0 ∈ programErrors)
  · exact (cells.allocate_meets target space).bind fun allocated _ =>
      (allocated.assign target owner).transfer_meets source target lamports

theorem openMint_meets (rent : Rent) (decimals : UInt8) (freezeAuthority : Option Key) :
    Except.Meets (fun _ => True) (· ∈ programErrors)
      (cells.openMint rent target decimals owner freezeAuthority) := by
  simp only [openMint]
  split
  · exact (by decide : ChainError.invalidAccountData ∈ programErrors)
  split
  · exact (by decide : ChainError.custom 6 ∈ programErrors)
  split
  · exact (by decide : ChainError.custom 0 ∈ programErrors)
  · trivial

theorem openTokenAccount_meets (rent : Rent) :
    Except.Meets (fun _ => True) (· ∈ programErrors)
      (cells.openTokenAccount rent target mint owner) := by
  simp only [openTokenAccount]
  split
  · exact (by decide : ChainError.invalidAccountData ∈ programErrors)
  split
  · exact (by decide : ChainError.custom 6 ∈ programErrors)
  split
  · exact (by decide : ChainError.custom 0 ∈ programErrors)
  split
  · trivial
  split
  · exact (by decide : ChainError.incorrectProgramId ∈ programErrors)
  split
  · exact (by decide : ChainError.custom 2 ∈ programErrors)
  · trivial

end Cells

theorem Account.breach?_mem_programErrors {program : Key} {isWritable : Bool}
    {before after : Account} {error : ChainError}
    (h : Account.breach? program isWritable before after = some error) : error ∈ programErrors := by
  rw [Account.breach?] at h
  split at h
  · obtain rfl := Option.some.inj h
    decide
  split at h
  · obtain rfl := Option.some.inj h
    decide
  split at h
  · obtain rfl := Option.some.inj h
    decide
  split at h
  · obtain rfl := Option.some.inj h
    decide
  · cases h

namespace Runtime

theorem guarded_meets {runtime : Runtime} {past : List Invocation} {invocation : Invocation}
    {cells : Cells}
    (h : Except.Meets (fun _ => True) (· ∈ programErrors) (runtime.run past invocation cells)) :
    Except.Meets (fun _ => True) (· ∈ programErrors)
      (runtime.guarded.run past invocation cells) := by
  rw [guarded]
  refine Except.Meets.ite_throw (by decide) (h.bind fun after _ => ?_)
  cases hbreach : invocation.breach? cells after with
  | none => trivial
  | some error =>
    obtain ⟨access, -, haccess⟩ := List.exists_of_findSome?_eq_some hbreach
    obtain ⟨handle, -, hhandle⟩ := Option.bind_eq_some_iff.mp haccess
    exact Account.breach?_mem_programErrors hhandle

end Runtime

section Granted

variable {scheme : AddressScheme} {programId : Key} {invocation : Invocation} {access : Access}

theorem Invocation.exists_grant (hpassed : access.key ∈ invocation.handles.map (·.key))
    (hsigned : access.isSigner → invocation.SignsFor scheme programId access.key) :
    ∃ handle, invocation.grant scheme programId access = .ok handle := by
  obtain ⟨handle, hmem, hkey⟩ := List.mem_map.mp hpassed
  obtain ⟨found, -, hfound, -⟩ := exists_find?_eq_some (·.key = access.key) hmem hkey
  exact ⟨found, grant_eq_ok_iff.mpr ⟨hfound, fun haccess => .inr (hsigned haccess)⟩⟩

theorem Call.answer_meets (rent : Rent) (cells : Cells) {call : Call} {granted : List Handle}
    (hlength : granted.length = call.accesses.length) :
    Except.Meets (fun _ => True) (· ∈ programErrors) (call.answer rent cells granted) := by
  cases call with
  | createAccount payer target lamports space owner =>
    obtain ⟨source, handle, rfl⟩ := List.length_eq_two.mp hlength
    exact cells.createAccount_meets source handle lamports space owner
  | assign target owner =>
    obtain ⟨handle, rfl⟩ := List.length_eq_one_iff.mp hlength
    trivial
  | transfer payer target lamports =>
    obtain ⟨source, handle, rfl⟩ := List.length_eq_two.mp hlength
    exact cells.transfer_meets source handle lamports
  | allocate target space =>
    obtain ⟨handle, rfl⟩ := List.length_eq_one_iff.mp hlength
    exact cells.allocate_meets handle space
  | openMint mint decimals authority freezeAuthority =>
    obtain ⟨handle, rfl⟩ := List.length_eq_one_iff.mp hlength
    exact cells.openMint_meets handle authority rent decimals freezeAuthority
  | openTokenAccount account mint owner =>
    obtain ⟨handle, mintHandle, rfl⟩ := List.length_eq_two.mp hlength
    exact cells.openTokenAccount_meets handle mintHandle owner rent

/-- A call that is granted its accounts fails by none of the errors that are about its accounts. -/
theorem Runtime.faithful_meets (rent : Rent) (past : List Invocation) (cells : Cells)
    (hprogram : invocation.program = invocation.call.program)
    (hgranted : ∀ access ∈ invocation.call.accesses,
      ∃ handle, invocation.grant scheme programId access = .ok handle) :
    Except.Meets (fun _ => True) (· ∈ programErrors)
      ((faithful scheme programId rent).run past invocation cells) := by
  refine guarded_meets ?_
  have : Nonempty Handle := ⟨⟨.systemProgram, false, false, 0⟩⟩
  choose! handle hhandle using hgranted
  have hall : List.Forall₂ (fun access handle => invocation.grant scheme programId access
      = .ok handle) invocation.call.accesses (invocation.call.accesses.map handle) :=
    List.forall₂_map_right_iff.mpr (List.forall₂_same.mpr hhandle)
  simp only [programs, hprogram, ne_eq, not_true_eq_false, if_false, mapM_eq_ok_iff.mpr hall]
  exact Call.answer_meets rent cells (List.length_map ..)

end Granted

/-! ### What a job asks for -/

section Run

variable {scheme : AddressScheme} {programId payer : Key} {book : AddressBook} {request : Request}
  {handles : List Handle} {cells : Cells} {rent : Rent} {data : Bytes} {job : Job}
  {invocation : Invocation}

theorem mayWrite_payer (book : AddressBook) (payer : Key) (request : Request) :
    (Instruction.ofRequest book payer request).MayWrite payer :=
  ⟨⟨payer, true, true⟩, List.mem_cons_self, rfl, rfl⟩

theorem mayWrite_slot {slot : Slot} (hslot : slot ∈ Request.slots) (payer : Key)
    (request : Request) :
    (Instruction.ofRequest book payer request).MayWrite (book.slot slot).address := by
  refine ⟨⟨(book.slot slot).address, false, true⟩, ?_, rfl, rfl⟩
  exact List.mem_cons_of_mem _ (List.mem_append_left _ (List.mem_map_of_mem hslot))

theorem Job.Holds.mayWrite {slot : Slot} {target : Handle} (h : job.Holds slot target) (payer : Key)
    (request : Request) : (Instruction.ofRequest job.book payer request).MayWrite target.key :=
  h.key_eq ▸ mayWrite_slot h.slot_mem payer request

theorem Job.Makes.isBacked (hmakes : job.Makes invocation) (request : Request)
    (hbook : AddressBook.derive? scheme programId request.root = some job.book)
    (error? : Option ChainError) :
    Event.IsBacked scheme programId (.ofRequest job.book job.frame.payer.key request)
      job.frame.payer.key (.invocation invocation error?) := by
  have hpayer := mayWrite_payer job.book job.frame.payer.key request
  cases hmakes with
  | createAccount htarget =>
    simp [Event.IsBacked, Invocation.createAccount, Call.accesses, Invocation.SignsFor, hpayer,
      htarget.mayWrite, htarget.create?_signerSeeds hbook]
  | transfer htarget =>
    simp [Event.IsBacked, Invocation.transfer, Call.accesses, hpayer, htarget.mayWrite]
  | allocate htarget =>
    simp [Event.IsBacked, Invocation.allocate, Call.accesses, Invocation.SignsFor,
      htarget.mayWrite, htarget.create?_signerSeeds hbook]
  | assign htarget =>
    simp [Event.IsBacked, Invocation.assign, Call.accesses, Invocation.SignsFor, htarget.mayWrite,
      htarget.create?_signerSeeds hbook]
  | openMint hmint => simp [Event.IsBacked, Invocation.openMint, Call.accesses, hmint.mayWrite]
  | openTokenAccount htarget =>
    simp [Event.IsBacked, Invocation.openTokenAccount, Call.accesses, htarget.mayWrite]

theorem Passed.exists_grant (hpassed : Passed scheme programId rent handles cells data request job)
    (hmakes : job.Makes invocation) :
    ∀ access ∈ invocation.call.accesses,
      ∃ handle, invocation.grant scheme programId access = .ok handle := by
  have hsign {slot : Slot} {target : Handle} (htarget : job.Holds slot target) :
      ∃ seeds ∈ [job.book.signerSeeds slot], scheme.create? seeds programId = some target.key :=
    ⟨_, List.mem_singleton_self _, htarget.create?_signerSeeds hpassed.derive?_eq⟩
  -- The payer is found first even if an account of the pool has the same key.
  have hpayer (call : Call) (rest : List Handle) (seeds : List (List Bytes)) :
      ∃ handle, (Invocation.mk .systemProgram call (job.frame.payer :: rest) seeds).grant scheme
        programId ⟨job.frame.payer.key, true, true⟩ = .ok handle :=
    ⟨job.frame.payer, Invocation.grant_eq_ok_iff.mpr
      ⟨by simp [Invocation.handle?], fun _ => .inl hpassed.signed⟩⟩
  cases hmakes with
  | createAccount htarget =>
    simp only [Invocation.createAccount, Call.accesses, List.forall_mem_cons]
    exact ⟨hpayer .., Invocation.exists_grant (by simp) fun _ => hsign htarget,
      List.forall_mem_nil _⟩
  | transfer htarget =>
    simp only [Invocation.transfer, Call.accesses, List.forall_mem_cons]
    exact ⟨hpayer .., Invocation.exists_grant (by simp) Bool.noConfusion, List.forall_mem_nil _⟩
  | allocate htarget =>
    simp only [Invocation.allocate, Call.accesses, List.forall_mem_cons]
    exact ⟨Invocation.exists_grant (by simp) fun _ => hsign htarget, List.forall_mem_nil _⟩
  | assign htarget =>
    simp only [Invocation.assign, Call.accesses, List.forall_mem_cons]
    exact ⟨Invocation.exists_grant (by simp) fun _ => hsign htarget, List.forall_mem_nil _⟩
  | openMint hmint =>
    simp only [Invocation.openMint, Call.accesses, List.forall_mem_cons]
    exact ⟨Invocation.exists_grant (by simp) Bool.noConfusion, List.forall_mem_nil _⟩
  | openTokenAccount htarget hmint =>
    simp only [Invocation.openTokenAccount, Call.accesses, List.forall_mem_cons]
    exact ⟨Invocation.exists_grant (by simp) Bool.noConfusion,
      Invocation.exists_grant (by simp) Bool.noConfusion, List.forall_mem_nil _⟩

variable {runtime : Runtime} (Answer : ChainError → Prop)

/-- Every action of a job is backed, and it only stops where the circumstances do not allow more. -/
theorem Job.maintains_backed
    (hbook : AddressBook.derive? scheme programId request.root = some job.book)
    (hanswer : ∀ past invocation cells, job.Makes invocation →
      Except.Meets (fun _ => True) Answer (runtime.run past invocation cells)) :
    job.Maintains runtime
      (Machine.IsBacked scheme programId (.ofRequest job.book job.frame.payer.key request)
        job.frame.payer.key)
      (fun stop => stop.machine.IsBacked scheme programId
          (.ofRequest job.book job.frame.payer.key request) job.frame.payer.key
        ∧ stop.failure.IsCircumstance Answer) where
  invoke {machine invocation} h hmakes := by
    have hrun := hanswer machine.invocations invocation machine.cells hmakes
    have hevent := hmakes.isBacked request hbook
    rw [Machine.invoke]
    cases hanswered : runtime.run machine.invocations invocation machine.cells with
    | ok cells => exact List.forall_mem_append.mpr ⟨h, List.forall_mem_singleton.mpr (hevent none)⟩
    | error error =>
      rw [hanswered] at hrun
      exact ⟨List.forall_mem_append.mpr ⟨h, List.forall_mem_singleton.mpr (hevent (some error))⟩,
        .invocation hrun⟩
  write h htarget _ :=
    List.forall_mem_append.mpr ⟨h, List.forall_mem_singleton.mpr (htarget.mayWrite _ request)⟩
  refuse h hrefusal := ⟨h, .refusal hrefusal⟩

/-- A request that comes with the accounts that it asks for gets past all checks on its data and its
accounts. -/
theorem prepare_of_carries (rent? : Option Rent) (cells : Cells)
    (hbook : AddressBook.derive? scheme programId request.root = some book)
    (hcarries : Carries (Instruction.ofRequest book payer request).accesses handles) :
    (∃ failure, prepare scheme programId rent? handles cells request.encode = .error failure
        ∧ failure.IsCircumstance Answer)
      ∨ ∃ rent job, prepare scheme programId rent? handles cells request.encode = .ok job
        ∧ Passed scheme programId rent handles cells request.encode request job
        ∧ job.book = book ∧ job.frame.payer.key = payer := by
  obtain ⟨frame, hframe, hfits, hkey, htoken, hsystem⟩ := Frame.exists_of_keys hcarries.keys_eq
  have hsigned : frame.payer.isSigner := by
    obtain ⟨rest, rfl⟩ := List.head?_eq_some_iff.mp (Frame.mem_of_ofHandles? hframe).1
    exact hcarries.signed (⟨payer, true, true⟩, frame.payer) List.mem_cons_self rfl
  have hprepare : prepare scheme programId rent? handles cells request.encode = _ :=
    prepare_of_fits rent? hbook hframe hfits hsigned htoken hsystem
  split at hprepare
  · exact .inl ⟨_, hprepare, .invalidParameters _⟩
  split at hprepare
  · exact .inl ⟨_, hprepare, .poolExists⟩
  split at hprepare
  · exact .inl ⟨_, hprepare, .rentUnavailable⟩
  · next rent =>
    obtain ⟨_, request', -, hpassed⟩ := exists_passed hprepare
    obtain rfl := Option.some.inj (hpassed.decode?_eq.symm.trans request.decode?_encode)
    exact .inr ⟨_, _, hprepare, hpassed, rfl, hkey⟩

theorem process_of_carries (runtime : Runtime) (rent? : Option Rent) (cells : Cells)
    (hbook : AddressBook.derive? scheme programId request.root = some book)
    (hcarries : Carries (Instruction.ofRequest book payer request).accesses handles)
    (hanswer : ∀ rent job, Passed scheme programId rent handles cells request.encode request job →
      ∀ past invocation cells, job.Makes invocation →
        Except.Meets (fun _ => True) Answer (runtime.run past invocation cells)) :
    let verdict := process scheme programId runtime rent? handles cells request.encode
    verdict.machine.IsBacked scheme programId (.ofRequest book payer request) payer
      ∧ ∀ failure, verdict.result = .error failure → failure.IsCircumstance Answer := by
  intro verdict
  obtain ⟨failure, hprepare, hfailure⟩ | ⟨rent, job, hprepare, hpassed, rfl, rfl⟩ :=
    prepare_of_carries Answer rent? cells hbook hcarries
  · simp only [verdict, process, hprepare]
    exact ⟨List.forall_mem_nil _, fun _ h => Except.error.inj h ▸ hfailure⟩
  · obtain ⟨hresult, hbacked⟩ | ⟨failure, hresult, hbacked, hcircumstance⟩ :=
      hpassed.process_meets hprepare (Job.maintains_backed Answer hbook (hanswer rent job hpassed))
        (List.forall_mem_nil _)
    · refine ⟨hbacked, fun _ h => ?_⟩
      rw [hresult] at h
      cases h
    · refine ⟨hbacked, fun _ h => ?_⟩
      obtain rfl := Except.error.inj (hresult.symm.trans h)
      exact hcircumstance

/-- **The sender and the program agree.** A request is sent with the accounts that it asks for,
signed as it asks for; they may hold anything, and the invoked programs may answer and do anything.
Then the program never fails of its own accord for its data, a missing signature, a wrong address, a
wrong program or a missing account. Every account that is to be written to, by an invoked program or
by the program itself, is listed as writable, and every signature that is asked for is the payer's
or is given by the passed seeds. With the system program and the token program as they are, no
invocation fails for such a reason either. -/
theorem process_ofRequest (request : Request) (runtime : Runtime) (rent? : Option Rent)
    (cells : Cells)
    (hbook : AddressBook.derive? scheme programId request.root = some book)
    (hcarries : Carries (Instruction.ofRequest book payer request).accesses handles) :
    let instruction := Instruction.ofRequest book payer request
    let verdict := process scheme programId runtime rent? handles cells instruction.data
    (∀ failure, verdict.result = .error failure → failure.error ∈ mismatchErrors →
        ∃ error, failure = .invocation error)
      ∧ (∀ event ∈ verdict.machine.trace,
        event.IsBacked scheme programId instruction payer)
      ∧ ∀ rent, runtime = .faithful scheme programId rent →
        ∀ failure, verdict.result = .error failure → failure.error ∉ mismatchErrors := by
  have hany := process_of_carries (fun _ => True) runtime rent? cells hbook hcarries
    fun _ _ _ past invocation cells _ => by
      cases runtime.run past invocation cells <;> trivial
  refine ⟨fun failure hfailure hmismatch => ?_, hany.1, ?_⟩
  · obtain ⟨error, herror, -⟩ := (hany.2 failure hfailure).of_mismatch hmismatch
    exact ⟨error, herror⟩
  · rintro rent rfl failure hfailure hmismatch
    have hfaithful := process_of_carries (· ∈ programErrors) (.faithful scheme programId rent)
      rent? cells hbook hcarries fun _ _ hpassed past invocation cells hmakes =>
        Runtime.faithful_meets rent past cells (hpassed.permits hmakes).program_eq
          (hpassed.exists_grant hmakes)
    obtain ⟨error, rfl, hanswer⟩ := (hfaithful.2 failure hfailure).of_mismatch hmismatch
    have hdisjoint : ∀ error ∈ programErrors, error ∉ mismatchErrors := by decide
    exact hdisjoint error hanswer hmismatch

end Run

theorem carries_sample :
    Carries (Instruction.ofRequest .sample Setup.sample.payer
      ⟨Setup.sample.root, .sample⟩).accesses sampleLoaded.1 where
  keys_eq := by decide +kernel
  signed := by decide +kernel

theorem process_ofRequest_sample :
    let instruction := Instruction.ofRequest .sample Setup.sample.payer ⟨Setup.sample.root, .sample⟩
    let verdict := process .standard .stakePoolProgram failingRuntime (some sampleStore.rent)
      sampleLoaded.1 sampleLoaded.2 instruction.data
    ¬ verdict.result.isOk ∧ verdict.machine.trace.length = 4
      ∧ (∀ failure, verdict.result = .error failure → failure.error ∈ mismatchErrors →
        ∃ error, failure = .invocation error)
      ∧ ∀ event ∈ verdict.machine.trace,
        event.IsBacked .standard .stakePoolProgram instruction Setup.sample.payer := by
  have hagree := process_ofRequest ⟨Setup.sample.root, .sample⟩ failingRuntime
    (some sampleStore.rent) sampleLoaded.2 AddressBook.derive?_sample carries_sample
  simp only [Instruction.ofRequest, process_sample] at hagree ⊢
  exact ⟨by decide +kernel, length_trace_sampleVerdict, hagree.1, hagree.2.1⟩

end Chain

end StakePool
