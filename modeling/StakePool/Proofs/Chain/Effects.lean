import StakePool.Proofs.Chain.Processing
/-!
# What a job does

A job that has passed all checks acts in three ways: it invokes another program, it writes the data
of an account of the pool, or it stops of its own accord. `Job.Makes` lists the invocations there
are. What each of these actions keeps up, a whole run keeps up, whatever the invoked programs
answer; so a property of runs is a property of the actions (`Passed.process_meets`), and the
operations of a plan are gone through only here.
-/

namespace StakePool

namespace Except

variable {ε α β : Type} {Fail : ε → Prop} {Post : α → Prop} {Final : β → Prop}

/-- A computation ends with a result of one kind or with an error of another. -/
def Meets (Post : α → Prop) (Fail : ε → Prop) : Except ε α → Prop
  | .ok a => Post a
  | .error error => Fail error

theorem Meets.bind {first : Except ε α} {rest : α → Except ε β} (hfirst : Meets Post Fail first)
    (hrest : ∀ a, Post a → Meets Final Fail (rest a)) : Meets Final Fail (first >>= rest) := by
  cases first with
  | ok a => exact hrest a hfirst
  | error error => exact hfirst

theorem Meets.map {result : Except ε α} {f : α → β} (h : Meets (fun a => Final (f a)) Fail result) :
    Meets Final Fail (result.map f) := by
  cases result with
  | ok a => exact h
  | error error => exact h

theorem Meets.of_eq_error {result : Except ε α} {error : ε} (h : Meets Post Fail result)
    (heq : result = .error error) : Fail error := by
  rw [heq] at h
  exact h

theorem Meets.ite_throw {c : Prop} [Decidable c] {error : ε} {f : PUnit → Except ε α}
    {rest : Except ε α} (herror : Fail error) (hrest : Meets Post Fail rest) :
    Meets Post Fail (if c then throw error >>= f else rest) := by
  split
  · exact herror
  · exact hrest

end Except

namespace Chain

/-- The program finds an account in a state in which it will not go on. -/
inductive Failure.IsRefusal : Failure → Prop
  | accountInUse (address : Key) : IsRefusal (.accountInUse address)
  | notPlain (address : Key) : IsRefusal (.notPlain address)
  | wrongSize (address : Key) : IsRefusal (.wrongSize address)

namespace Job

variable {job : Job} {op : Operation} {runtime : Runtime} {machine : Machine}
  {Inv : Machine → Prop} {Final : Stop → Prop}

/-- The handle is listed for an account of the pool and has its key. -/
structure Holds (job : Job) (slot : Slot) (target : Handle) : Prop where
  slot_mem : slot ∈ Request.slots
  mem : target ∈ job.frame.pool.map (·.2)
  key_eq : target.key = (job.book.slot slot).address

theorem Holds.create?_signerSeeds {scheme : AddressScheme} {programId root : Key} {slot : Slot}
    {target : Handle} (h : job.Holds slot target)
    (hbook : AddressBook.derive? scheme programId root = some job.book) :
    scheme.create? (job.book.signerSeeds slot) programId = some target.key :=
  h.key_eq ▸ AddressBook.create?_signerSeeds hbook slot

/-- The invocations of a job. Those that need the signature of a new account are signed for with the
seeds of its slot, the others are not signed for. -/
inductive Makes (job : Job) : Invocation → Prop
  | createAccount {slot : Slot} {target : Handle} (htarget : job.Holds slot target)
      (lamports space : UInt64) (owner : Key) :
      job.Makes (.createAccount job.frame.payer target job.frame.systemProgram lamports space owner
        (job.book.signerSeeds slot))
  | transfer {slot : Slot} {target : Handle} (htarget : job.Holds slot target)
      (lamports : UInt64) :
      job.Makes (.transfer job.frame.payer target job.frame.systemProgram lamports)
  | allocate {slot : Slot} {target : Handle} (htarget : job.Holds slot target)
      (space : UInt64) :
      job.Makes (.allocate target job.frame.systemProgram space (job.book.signerSeeds slot))
  | assign {slot : Slot} {target : Handle} (htarget : job.Holds slot target)
      (owner : Key) :
      job.Makes (.assign target job.frame.systemProgram owner (job.book.signerSeeds slot))
  | openMint {slot : Slot} {mint : Handle} (hmint : job.Holds slot mint) (decimals : UInt8)
      (authority : Key) (freezeAuthority : Option Key) :
      job.Makes (.openMint mint job.frame.tokenProgram decimals authority freezeAuthority)
  | openTokenAccount {slot mintSlot : Slot} {target mint : Handle}
      (htarget : job.Holds slot target) (hmint : job.Holds mintSlot mint) (owner : Key) :
      job.Makes (.openTokenAccount target mint job.frame.tokenProgram owner)

/-- Every action of a job leads from machines of one kind to such machines again, or to stops of
another kind. -/
structure Maintains (runtime : Runtime) (Inv : Machine → Prop) (Final : Stop → Prop) (job : Job) :
    Prop where
  invoke : ∀ {machine invocation}, Inv machine → job.Makes invocation →
    Except.Meets Inv Final (machine.invoke runtime invocation)
  write : ∀ {machine slot target}, Inv machine → job.Holds slot target → ∀ data,
    Inv (machine.write target data)
  refuse : ∀ {machine failure}, Inv machine → failure.IsRefusal → Final ⟨failure, machine⟩

theorem exists_locate {slot : Slot} (hfits : job.frame.Fits job.book)
    (hslot : slot ∈ Request.slots) (machine : Machine) :
    ∃ target, job.Holds slot target
      ∧ job.locate (job.book.slot slot).address machine = .ok target := by
  obtain ⟨target, hmem, hfound, hkey⟩ := Frame.find?_eq_some hfits hslot
  refine ⟨target, ⟨hslot, hmem, hkey⟩, ?_⟩
  rw [locate, ← hkey, hfound]

namespace Maintains

variable (h : job.Maintains runtime Inv Final)
include h

theorem topUp {slot : Slot} {target : Handle} (htarget : job.Holds slot target)
    (lamports : UInt64) (hmachine : Inv machine) :
    Except.Meets Inv Final (job.topUp runtime target lamports machine) := by
  rw [Job.topUp]
  split
  · exact hmachine
  · exact h.invoke hmachine (.transfer htarget lamports)

theorem createAccount {slot : Slot} {target : Handle} (htarget : job.Holds slot target)
    (lamports space : UInt64) (owner : Key) (hmachine : Inv machine) :
    Except.Meets Inv Final
      (job.createAccount runtime target lamports space owner (job.book.signerSeeds slot)
        machine) := by
  rw [createAccount_eq]
  -- There are no lamports yet; the account is taken; there are some.
  split
  · exact h.invoke hmachine (.createAccount htarget lamports space owner)
  split
  · exact h.refuse hmachine (.accountInUse target.key)
  · exact (h.topUp htarget _ hmachine).bind fun _ htopped =>
      (h.invoke htopped (.allocate htarget space)).bind fun _ hallocated =>
        h.invoke hallocated (.assign htarget owner)

variable (hfits : job.frame.Fits job.book)
include hfits

/-- The step lemma, with one case an operation. -/
theorem perform (hknows : job.Knows op) (hmachine : Inv machine) :
    Except.Meets Inv Final (job.perform runtime op machine) := by
  cases op with
  | createAccount slot address space lamports owner =>
    obtain ⟨hslot, rfl⟩ := hknows
    obtain ⟨target, htarget, hlocate⟩ := exists_locate hfits hslot machine
    rw [Job.perform, hlocate]
    exact h.createAccount htarget lamports space owner hmachine
  | fund address lamports =>
    obtain ⟨slot, hslot, rfl⟩ := hknows
    obtain ⟨target, htarget, hlocate⟩ := exists_locate hfits hslot machine
    rw [Job.perform, hlocate, ← htarget.key_eq]
    change Except.Meets Inv Final (if _ then _ else job.topUp runtime target _ machine)
    split
    · exact h.refuse hmachine (.notPlain target.key)
    · exact h.topUp htarget _ hmachine
  | openMint address decimals authority freezeAuthority =>
    obtain ⟨slot, hslot, rfl⟩ := hknows
    obtain ⟨mint, hmint, hlocate⟩ := exists_locate hfits hslot machine
    rw [Job.perform, hlocate]
    exact h.invoke hmachine (.openMint hmint decimals authority freezeAuthority)
  | openTokenAccount address mintAddress owner =>
    obtain ⟨⟨slot, hslot, rfl⟩, mintSlot, hmintSlot, rfl⟩ := hknows
    obtain ⟨target, htarget, hlocate⟩ := exists_locate hfits hslot machine
    obtain ⟨mint, hmint, hlocateMint⟩ := exists_locate hfits hmintSlot machine
    rw [Job.perform, hlocate, hlocateMint]
    exact h.invoke hmachine (.openTokenAccount htarget hmint owner)
  | writeRegistry address header =>
    obtain ⟨slot, hslot, rfl⟩ := hknows
    obtain ⟨target, htarget, hlocate⟩ := exists_locate hfits hslot machine
    rw [Job.perform, hlocate]
    change Except.Meets Inv Final (if _ then _ else _)
    split
    · exact h.refuse hmachine (.wrongSize _)
    · exact h.write hmachine htarget _
  | writeRecord address record =>
    obtain ⟨slot, hslot, rfl⟩ := hknows
    obtain ⟨target, htarget, hlocate⟩ := exists_locate hfits hslot machine
    rw [Job.perform, hlocate]
    change Except.Meets Inv Final (if _ then _ else _)
    split
    · exact h.refuse hmachine (.wrongSize _)
    · exact h.write hmachine htarget _

/-- The run lemma: any number of operations, one after another. -/
theorem performAll {operations : List Operation} (hknows : ∀ op ∈ operations, job.Knows op)
    (hmachine : Inv machine) :
    Except.Meets Inv Final (job.performAll runtime operations machine) := by
  induction operations generalizing machine with
  | nil => exact hmachine
  | cons op rest ih =>
    obtain ⟨hop, hrest⟩ := List.forall_mem_cons.mp hknows
    exact (h.perform hfits hop hmachine).bind fun _ hnext => ih hrest hnext

end Maintains

end Job

variable {scheme : AddressScheme} {programId : Key} {rent : Rent} {handles : List Handle}
  {cells : Cells} {data : Bytes} {request : Request} {job : Job} {runtime : Runtime}
  {Inv : Machine → Prop} {Final : Stop → Prop}

/-- What the actions of a job maintain, the program maintains. -/
theorem Passed.process_meets {rent? : Option Rent}
    (hpassed : Passed scheme programId rent handles cells data request job)
    (hprepare : prepare scheme programId rent? handles cells data = .ok job)
    (h : job.Maintains runtime Inv Final) (hfresh : Inv ⟨cells, []⟩) :
    let verdict := process scheme programId runtime rent? handles cells data
    (verdict.result = .ok () ∧ Inv verdict.machine)
      ∨ ∃ failure, verdict.result = .error failure ∧ Final ⟨failure, verdict.machine⟩ := by
  have hknows := hpassed.operations_eq ▸ job.knows_all request.parameters rent
  have hmeets := h.performAll hpassed.fits hknows hfresh
  simp only [process, hprepare]
  cases hrun : job.performAll runtime job.operations ⟨cells, []⟩ with
  | error stop =>
    rw [hrun] at hmeets
    exact .inr ⟨stop.failure, rfl, hmeets⟩
  | ok machine =>
    rw [hrun] at hmeets
    exact .inl ⟨rfl, hmeets⟩

end Chain

end StakePool
