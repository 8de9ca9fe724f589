import StakePool.Proofs.Chain.Effects
/-!
# What the program may do

The program signs for the addresses of its pools, so what it asks of other programs it asks with an
authority that nobody else has. Here is what bounds the use of it, whatever accounts a request comes
with and whatever the invoked programs do to them. `Job.Allows` says which effects a job may have.
A run is `Confined` if it has had no others, and if it was over with the first invocation that
failed. Each action of a job keeps its run confined (`Passed.maintains_confined`), and no run begins
before all checks are passed.
-/

namespace StakePool

namespace Chain

/-! ### Confined runs -/

namespace Machine

/-- The machine after one more event. -/
def after (runtime : Runtime) (machine : Machine) : Event → Machine
  | .invocation invocation _ =>
    match machine.invoke runtime invocation with
    | .ok next => next
    | .error stop => stop.machine
  | .write handle data => machine.write handle data

/-- The machine that the events of a trace make of the cells. -/
def replay (runtime : Runtime) (cells : Cells) (trace : List Event) : Machine :=
  trace.foldl (after runtime) ⟨cells, []⟩

end Machine

variable {runtime : Runtime} {cells : Cells} {Allowed : Event → Prop}
  {result : Except Failure Unit} {machine next : Machine} {α β : Type}

/-- How far a run has come from its first cells, and with what result. Its trace leaves nothing out
that has happened to the cells, and all of it is allowed. An invocation that failed is the last
event and its error is the result, and only then is there such a result. -/
structure Confined (runtime : Runtime) (cells : Cells) (Allowed : Event → Prop)
    (result : Except Failure Unit) (machine : Machine) : Prop where
  replay_eq : Machine.replay runtime cells machine.trace = machine
  allows : ∀ event ∈ machine.trace, Allowed event
  ends : ∀ earlier invocation error later,
    machine.trace = earlier ++ .invocation invocation (some error) :: later →
      later = [] ∧ result = .error (.invocation error)
  reports : ∀ error, result = .error (.invocation error) →
    ∃ earlier invocation, machine.trace = earlier ++ [.invocation invocation (some error)]

namespace Confined

theorem start (runtime : Runtime) (cells : Cells) (Allowed : Event → Prop) :
    Confined runtime cells Allowed (.ok ()) ⟨cells, []⟩ :=
  ⟨rfl, by simp, by simp, by simp⟩

variable (h : Confined runtime cells Allowed (.ok ()) machine)
include h

theorem extend {event : Event} (hallows : Allowed event)
    (hafter : machine.after runtime event = next)
    (htrace : next.trace = machine.trace ++ [event])
    (hresult : ∀ error, result = .error (.invocation error)
      ↔ ∃ invocation, event = .invocation invocation (some error)) :
    Confined runtime cells Allowed result next where
  replay_eq := by
    rw [htrace, Machine.replay, List.foldl_append, ← Machine.replay, h.replay_eq]
    exact hafter
  allows := by
    rw [htrace]
    simpa [or_imp, forall_and] using ⟨h.allows, hallows⟩
  ends earlier invocation error later hsplit := by
    rw [htrace] at hsplit
    rcases List.eq_nil_or_concat later with rfl | ⟨front, last, rfl⟩
    · obtain ⟨-, hevent⟩ := List.append_inj' hsplit rfl
      exact ⟨rfl, (hresult error).mpr ⟨invocation, List.head_eq_of_cons_eq hevent⟩⟩
    · -- A failure that is not the last event has happened before, and the run had ended then.
      have hearlier : machine.trace = earlier ++ .invocation invocation (some error) :: front := by
        rw [List.concat_eq_append, ← List.cons_append, ← List.append_assoc] at hsplit
        exact (List.append_inj' hsplit rfl).1
      cases (h.ends _ _ _ _ hearlier).2
  reports error herror := by
    obtain ⟨invocation, rfl⟩ := (hresult error).mp herror
    exact ⟨machine.trace, invocation, htrace⟩

theorem write {handle : Handle} {data : Bytes} (hallows : Allowed (.write handle data)) :
    Confined runtime cells Allowed (.ok ()) (machine.write handle data) :=
  h.extend hallows rfl rfl (by simp)

theorem stop {failure : Failure} (hown : ∀ error, failure ≠ .invocation error) :
    Confined runtime cells Allowed (.error failure) machine where
  replay_eq := h.replay_eq
  allows := h.allows
  ends earlier invocation error later hsplit := by cases (h.ends _ _ _ _ hsplit).2
  reports error herror := absurd (Except.error.inj herror) (hown error)

end Confined

theorem Confined.invoke (h : Confined runtime cells Allowed (.ok ()) machine)
    {invocation : Invocation} (hallows : ∀ error?, Allowed (.invocation invocation error?)) :
    Except.Meets (Confined runtime cells Allowed (.ok ()))
      (fun stop => Confined runtime cells Allowed (.error stop.failure) stop.machine)
      (machine.invoke runtime invocation) := by
  cases hrun : runtime.run machine.invocations invocation machine.cells with
  | ok answered =>
    simp only [Machine.invoke, hrun]
    exact h.extend (hallows none) (by simp only [Machine.after, Machine.invoke, hrun]) rfl (by simp)
  | error error =>
    simp only [Machine.invoke, hrun]
    refine h.extend (hallows (some error)) ?_ rfl (by simp)
    simp only [Machine.after, Machine.invoke, hrun]

/-! ### What a job may do -/

/-- The account that the call is to set up. It has to sign the call. -/
def Call.newAccount? : Call → Option Key
  | .createAccount _ target .. | .assign target _ | .allocate target _ => some target
  | .transfer .. | .openMint .. | .openTokenAccount .. => none

namespace Job

variable {scheme : AddressScheme} {programId : Key} {job : Job} {op : Operation}

/-- Invoked are the system program and the token program, each for its own calls. Lamports are
taken from the payer. The only signatures that the job adds are those of new accounts of the pool,
by the seeds that derive their addresses. -/
structure Permits (scheme : AddressScheme) (programId : Key) (job : Job) (invocation : Invocation) :
    Prop where
  program_mem : invocation.program = .systemProgram ∨ invocation.program = .tokenProgram
  program_eq : invocation.program = invocation.call.program
  source_eq : ∀ source, invocation.call.source? = some source → source = job.frame.payer.key
  signs : ∀ seeds ∈ invocation.seeds, ∃ slot ∈ Request.slots,
    invocation.call.newAccount? = some (job.book.slot slot).address
      ∧ seeds = job.book.signerSeeds slot
      ∧ scheme.create? seeds programId = some (job.book.slot slot).address

/-- Besides, a job writes to accounts of the pool. -/
def Allows (scheme : AddressScheme) (programId : Key) (job : Job) : Event → Prop
  | .invocation invocation _ => job.Permits scheme programId invocation
  | .write handle _ => handle ∈ job.frame.pool.map (·.2)

end Job

section Run

variable {scheme : AddressScheme} {programId : Key} {rent : Rent} {handles : List Handle}
  {data : Bytes} {request : Request} {job : Job}
  (hpassed : Passed scheme programId rent handles cells data request job)
include hpassed

theorem Passed.permits {invocation : Invocation} (hmakes : job.Makes invocation) :
    job.Permits scheme programId invocation := by
  have htoken := hpassed.tokenProgram_key
  -- An invocation that makes an account of the pool signs for it, and for nothing else.
  have hsign {slot : Slot} {target : Handle} (htarget : job.Holds slot target) {call : Call}
      (hnew : call.newAccount? = some target.key) :
      ∀ seeds ∈ [job.book.signerSeeds slot], ∃ slot ∈ Request.slots,
        call.newAccount? = some (job.book.slot slot).address
          ∧ seeds = job.book.signerSeeds slot
          ∧ scheme.create? seeds programId = some (job.book.slot slot).address := by
    rintro _ (_ | ⟨_, ⟨⟩⟩)
    exact ⟨slot, htarget.slot_mem, htarget.key_eq ▸ hnew, rfl,
      AddressBook.create?_signerSeeds hpassed.derive?_eq slot⟩
  cases hmakes with
  | createAccount htarget =>
    exact ⟨.inl rfl, rfl, fun _ hsource => (Option.some.inj hsource).symm, hsign htarget rfl⟩
  | transfer htarget => exact ⟨.inl rfl, rfl, fun _ hsource => (Option.some.inj hsource).symm, nofun⟩
  | allocate htarget => exact ⟨.inl rfl, rfl, nofun, hsign htarget rfl⟩
  | assign htarget => exact ⟨.inl rfl, rfl, nofun, hsign htarget rfl⟩
  | openMint => exact ⟨.inr htoken, htoken, nofun, nofun⟩
  | openTokenAccount => exact ⟨.inr htoken, htoken, nofun, nofun⟩

/-- No action of a job breaks out. -/
theorem Passed.maintains_confined (runtime : Runtime) :
    job.Maintains runtime (Confined runtime cells (job.Allows scheme programId) (.ok ()))
      (fun stop => Confined runtime cells (job.Allows scheme programId) (.error stop.failure)
        stop.machine) where
  invoke h hmakes := h.invoke fun _ => hpassed.permits hmakes
  write h htarget _ := h.write htarget.mem
  refuse h hrefusal := h.stop fun _ hfailure => by cases hrefusal <;> cases hfailure

end Run

/-- Whatever accounts and bytes an instruction comes with, and whatever the invoked programs answer
and do, there are two ways for it to end. Either it fails without having invoked or written
anything; or the request has passed all checks, and the run was confined to what its job may do. -/
theorem process_confined (scheme : AddressScheme) (programId : Key) (runtime : Runtime)
    (rent? : Option Rent) (handles : List Handle) (cells : Cells) (data : Bytes) :
    let verdict := process scheme programId runtime rent? handles cells data
    (verdict.machine = ⟨cells, []⟩ ∧ verdict.result ≠ .ok ())
      ∨ ∃ rent request job, rent? = some rent
        ∧ Passed scheme programId rent handles cells data request job
        ∧ Confined runtime cells (job.Allows scheme programId) verdict.result verdict.machine := by
  intro verdict
  cases hprepare : prepare scheme programId rent? handles cells data with
  | error failure => exact .inl (by simp [verdict, process, hprepare])
  | ok job =>
    obtain ⟨rent, request, hrent, hpassed⟩ := exists_passed hprepare
    refine .inr ⟨rent, request, job, hrent, hpassed, ?_⟩
    obtain ⟨hresult, hkept⟩ | ⟨failure, hresult, hkept⟩ :=
      hpassed.process_meets hprepare (hpassed.maintains_confined runtime) (.start ..)
    · exact hresult ▸ hkept
    · exact hresult ▸ hkept

/-! ### A request of which the fourth invocation fails -/

theorem isSome_ofHandles?_sample : (Frame.ofHandles? sampleLoaded.1).isSome := by decide +kernel

def sampleJob : Job where
  frame := (Frame.ofHandles? sampleLoaded.1).get isSome_ofHandles?_sample
  book := .sample
  operations := Plan.all .sample .sample sampleStore.rent

theorem prepare_sample :
    prepare .standard .stakePoolProgram (some sampleStore.rent) sampleLoaded.1 sampleLoaded.2
      (Request.encode ⟨Setup.sample.root, .sample⟩) = .ok sampleJob := by
  have hvalid : Parameters.sample.IsValid := by decide +kernel
  obtain ⟨⟨frame, _, _⟩, -, -, rfl, rfl, hprepare⟩ := prepare_eq sampleStore.rent
    AddressBook.derive?_sample hvalid (by decide +kernel) presents_sample
  have hnew : ¬ (sampleStore.accounts.get AddressBook.sample.pool).data ≠ [] := by decide +kernel
  rw [if_neg hnew] at hprepare
  obtain ⟨_, _, -, hpassed⟩ := exists_passed hprepare
  obtain rfl : sampleJob.frame = frame :=
    Option.get_of_eq_some isSome_ofHandles?_sample hpassed.ofHandles?_eq
  exact hprepare

/-- The first three invocations do nothing. -/
def failingRuntime : Runtime :=
  .override [(0, .skip), (1, .skip), (2, .skip), (3, .fail 7)]
    (.faithful .standard .stakePoolProgram sampleStore.rent)

/-- How the run of the sample's job ends. -/
def sampleVerdict : Verdict :=
  match sampleJob.performAll failingRuntime sampleJob.operations ⟨sampleLoaded.2, []⟩ with
  | .error stop => ⟨.error stop.failure, stop.machine, stop.failure.notice?.toList⟩
  | .ok machine => ⟨.ok (), machine, [sampleJob.notice]⟩

theorem process_sample :
    process .standard .stakePoolProgram failingRuntime (some sampleStore.rent) sampleLoaded.1
      sampleLoaded.2 (Request.encode ⟨Setup.sample.root, .sample⟩) = sampleVerdict := by
  rw [process, prepare_sample]
  rfl

theorem length_trace_sampleVerdict : sampleVerdict.machine.trace.length = 4 := by decide +kernel

theorem process_confined_sample :
    let verdict := process .standard .stakePoolProgram failingRuntime (some sampleStore.rent)
      sampleLoaded.1 sampleLoaded.2 (Request.encode ⟨Setup.sample.root, .sample⟩)
    verdict.machine.trace.length = 4 ∧ verdict.result = .error (.invocation (.custom 7))
      ∧ ∃ rent request job,
        Passed .standard .stakePoolProgram rent sampleLoaded.1 sampleLoaded.2
            (Request.encode ⟨Setup.sample.root, .sample⟩) request job
          ∧ ∀ event ∈ verdict.machine.trace, job.Allows .standard .stakePoolProgram event := by
  have hconfined := process_confined .standard .stakePoolProgram failingRuntime
    (some sampleStore.rent) sampleLoaded.1 sampleLoaded.2
    (Request.encode ⟨Setup.sample.root, .sample⟩)
  rw [process_sample] at hconfined ⊢
  have hlength := length_trace_sampleVerdict
  have hlast : sampleVerdict.machine.trace = sampleVerdict.machine.trace.take 3
      ++ [.invocation (sampleVerdict.machine.invocations.getLast (by decide +kernel))
        (some (.custom 7))] := by decide +kernel
  rcases hconfined with ⟨hfresh, -⟩ | ⟨rent, request, job, -, hpassed, hconfined⟩
  · rw [hfresh] at hlength
    cases hlength
  · exact ⟨hlength, (hconfined.ends _ _ _ _ hlast).2, rent, request, job, hpassed,
      hconfined.allows⟩

end Chain

end StakePool
