import Mathlib.Data.List.Pairwise
import StakePool.Proofs.Chain.Confinement
/-!
# Two ways to create an account

An account that holds no lamports is created in one go, any other is topped up, allocated and
assigned. The way makes no difference to what is created, to what it costs and to when it is
refused, and a store does the same. Of the three calls of the longer way only the first can fail,
since a vacant account is still vacant once it has been topped up; so a creation that fails has
changed no account, in either way.
-/

namespace StakePool

namespace Chain

variable {runtime : Runtime} {machine next : Machine} {invocation : Invocation} {stop : Stop}

namespace Machine

/-- The calls that the program has made, also the one that failed. -/
def calls (machine : Machine) : List Call := machine.invocations.map (·.call)

theorem calls_of_invoke_eq_ok (h : machine.invoke runtime invocation = .ok next) :
    next.calls = machine.calls ++ [invocation.call] := by
  obtain ⟨after, -, rfl⟩ := invoke_eq_ok_iff.mp h
  simp [calls, invocations]

theorem cells_of_invoke_eq_error (h : machine.invoke runtime invocation = .error stop) :
    stop.machine.cells = machine.cells := by
  unfold invoke at h
  split at h
  · cases h
  · obtain rfl := Except.error.inj h
    rfl

end Machine

namespace Cells.HoldsApart

variable {cells : Cells} {handles : List Handle} (h : cells.HoldsApart handles)
include h

theorem mirror {view : Key → Account}
    (hview : ∀ handle ∈ handles, view handle.key = cells.get handle) :
    Mirror handles (fun _ => True) cells view where
  cell_lt := h.cell_lt
  cell_inj handle hhandle other hother := by
    by_cases heq : handle = other
    · simp [heq]
    · have hapart := h.pairwise_apart.forall hhandle hother heq
      simp [hapart.1, hapart.2]
  get_eq handle hhandle _ := (hview handle hhandle).symm

theorem exists_mirror : ∃ view, Mirror handles (fun _ => True) cells view := by
  refine ⟨fun key => ((handles.find? (·.key = key)).map cells.get).getD (.plain 0),
    h.mirror fun handle hhandle => ?_⟩
  obtain ⟨found, hmem, hfound, hkey⟩ :=
    exists_find?_eq_some (·.key = handle.key) hhandle rfl
  have heq : found = handle := by
    by_contra hne
    exact (h.pairwise_apart.forall hmem hhandle hne).1 hkey
  rw [hfound, heq, Option.map_some, Option.getD_some]

end Cells.HoldsApart

namespace Job

variable {scheme : AddressScheme} {programId : Key} {rent : Rent} {job : Job} {target : Handle}
  {seeds : List Bytes} {amount space : UInt64} {owner : Key}

/-- The calls by which an account with a balance is created. -/
def creationCalls (payer target : Key) (balance amount space : UInt64) (owner : Key) : List Call :=
  if balance = 0 then
    [.createAccount payer target amount space owner]
  else
    let shortfall := Saturating.sub64 amount balance
    (if shortfall = 0 then [] else [.transfer payer target shortfall])
      ++ [.allocate target space, .assign target owner]

theorem calls_of_topUp_eq_ok {lamports : UInt64}
    (h : job.topUp runtime target lamports machine = .ok next) :
    next.calls = machine.calls ++
      if lamports = 0 then [] else [.transfer job.frame.payer.key target.key lamports] := by
  rw [topUp] at h
  by_cases hzero : lamports = 0
  · rw [if_pos hzero] at h ⊢
    obtain rfl := Except.ok.inj h
    exact (List.append_nil _).symm
  · rw [if_neg hzero] at h ⊢
    exact Machine.calls_of_invoke_eq_ok h

theorem cells_of_topUp_eq_error {lamports : UInt64}
    (h : job.topUp runtime target lamports machine = .error stop) :
    stop.machine.cells = machine.cells := by
  rw [topUp] at h
  split at h
  · cases h
  · exact Machine.cells_of_invoke_eq_error h

theorem calls_of_furnish_eq_ok
    (h : job.furnish runtime target space owner seeds machine = .ok next) :
    next.calls = machine.calls ++ [.allocate target.key space, .assign target.key owner] := by
  obtain ⟨allocated, hallocate, hassign⟩ := Except.bind_eq_ok_iff.mp h
  rw [Machine.calls_of_invoke_eq_ok hassign, Machine.calls_of_invoke_eq_ok hallocate,
    List.append_assoc]
  rfl

theorem calls_of_createAccount_eq_ok
    (h : job.createAccount runtime target amount space owner seeds machine = .ok next) :
    next.calls = machine.calls ++ creationCalls job.frame.payer.key target.key
      (machine.account target).lamports amount space owner := by
  rw [createAccount_eq] at h
  by_cases hempty : (machine.account target).lamports = 0
  · rw [if_pos hempty] at h
    rw [creationCalls, if_pos hempty]
    exact Machine.calls_of_invoke_eq_ok h
  rw [if_neg hempty] at h
  rw [creationCalls, if_neg hempty]
  by_cases hvacant : (machine.account target).IsVacant
  · rw [if_neg (not_not.mpr hvacant)] at h
    obtain ⟨topped, htopUp, hfurnish⟩ := Except.bind_eq_ok_iff.mp h
    rw [calls_of_furnish_eq_ok hfurnish, calls_of_topUp_eq_ok htopUp, List.append_assoc]
  · rw [if_pos hvacant] at h
    cases h

section Sponsored

variable {handles : List Handle} {Matters : Key → Prop} {view : Key → Account}
  (hfaithful : runtime.IsFaithful scheme programId rent)
  (hsponsors : job.Sponsors handles Matters target)
  (hmirror : Mirror handles Matters machine.cells view)
  (hseeds : scheme.create? seeds programId = some target.key) (hspace : space ≤ maxCreatedSpace)
include hfaithful hsponsors hmirror hseeds hspace

/-- A payer who can pay can create exactly the vacant accounts that it can afford. -/
theorem exists_createAccount_eq_ok_iff
    (hchargeable : job.frame.payer.IsChargeable (view job.frame.payer.key))
    (hwritable : target.isWritable) (amount : UInt64) (owner : Key) :
    (∃ next, job.createAccount runtime target amount space owner seeds machine = .ok next)
      ↔ (view target.key).IsVacant
        ∧ Saturating.sub64 amount (view target.key).lamports
          ≤ (view job.frame.payer.key).lamports := by
  have hyields := createAccount_yields hfaithful hsponsors hmirror
    (fun _ : True => ⟨hchargeable, hwritable⟩) hseeds amount hspace owner
  constructor
  · rintro ⟨next, hnext⟩
    exact (hyields.sound next hnext).1
  · intro hcondition
    exact hyields.goes_on trivial hcondition

section Created

variable (h : job.createAccount runtime target amount space owner seeds machine = .ok next)
include h

theorem mirror_createAccount :
    Mirror handles Matters next.cells
      (Function.update
        (debit view job.frame.payer.key (Saturating.sub64 amount (view target.key).lamports))
        target.key ⟨max (view target.key).lamports amount, Bytes.zeros space.toNat, owner⟩) :=
  ((createAccount_yields hfaithful hsponsors hmirror (fun hfalse : False => hfalse.elim) hseeds
    amount hspace owner).sound next h).2

theorem account_createAccount_target :
    next.account target
      = ⟨max (view target.key).lamports amount, Bytes.zeros space.toNat, owner⟩ := by
  have hafter := (mirror_createAccount hfaithful hsponsors hmirror hseeds hspace h).get_eq target
    hsponsors.target_mem hsponsors.target_matters
  rwa [Function.update_self] at hafter

theorem account_createAccount_payer :
    next.account job.frame.payer = { view job.frame.payer.key with
      lamports := (view job.frame.payer.key).lamports
        - Saturating.sub64 amount (view target.key).lamports } := by
  have hafter := (mirror_createAccount hfaithful hsponsors hmirror hseeds hspace h).get_eq
    job.frame.payer hsponsors.payer_mem hsponsors.payer_matters
  rwa [Function.update_of_ne hsponsors.ne_payer.symm, debit, Function.update_self] at hafter

theorem account_createAccount_of_ne {other : Handle} (hother : other ∈ handles)
    (hmatters : Matters other.key) (htarget : other.key ≠ target.key)
    (hpayer : other.key ≠ job.frame.payer.key) : next.account other = machine.account other := by
  have hbefore := hmirror.get_eq other hother hmatters
  have hafter := (mirror_createAccount hfaithful hsponsors hmirror hseeds hspace h).get_eq other
    hother hmatters
  rw [Function.update_of_ne htarget, debit, Function.update_of_ne hpayer, ← hbefore] at hafter
  exact hafter

end Created

/-- Once the payer has paid, nothing can go wrong any more. -/
theorem cells_of_createAccount_eq_error
    (hchargeable : job.frame.payer.IsChargeable (view job.frame.payer.key))
    (hwritable : target.isWritable)
    (h : job.createAccount runtime target amount space owner seeds machine = .error stop) :
    stop.machine.cells = machine.cells := by
  have hget : machine.account target = view target.key :=
    hmirror.get_eq target hsponsors.target_mem hsponsors.target_matters
  have hunhindered (_ : True) :
      job.frame.payer.IsChargeable (view job.frame.payer.key) ∧ target.isWritable :=
    ⟨hchargeable, hwritable⟩
  rw [createAccount_eq, hget] at h
  by_cases hempty : (view target.key).lamports = 0
  · rw [if_pos hempty] at h
    exact Machine.cells_of_invoke_eq_error h
  rw [if_neg hempty] at h
  by_cases hvacant : (view target.key).IsVacant
  · rw [if_neg (not_not.mpr hvacant)] at h
    have hroom := Saturating.toNat_add_sub64_lt (view target.key).lamports amount
    have htopUp := topUp_yields hfaithful hsponsors hmirror hunhindered hroom
    have hrest := topUp_furnish_yields hfaithful hsponsors hmirror hunhindered hseeds _ hspace owner
      hvacant hroom
    cases htopped : job.topUp runtime target
        (Saturating.sub64 amount (view target.key).lamports) machine with
    | ok topped =>
      obtain ⟨next, hnext⟩ := hrest.goes_on trivial (htopUp.sound topped htopped).1
      cases hnext.symm.trans h
    | error unpaid =>
      rw [htopped] at h
      obtain rfl := Except.error.inj h
      exact cells_of_topUp_eq_error htopped
  · rw [if_pos hvacant] at h
    obtain rfl := Except.error.inj h
    rfl

end Sponsored

theorem sponsors_of_holdsApart {others : List Handle} {cells : Cells}
    (hapart : cells.HoldsApart (job.frame.payer :: target :: others)) :
    job.Sponsors (job.frame.payer :: target :: others) (fun _ => True) target where
  payer_mem := by simp
  payer_matters := trivial
  target_mem := by simp
  target_matters := trivial
  ne_payer := (List.rel_of_pairwise_cons hapart.pairwise_apart (by simp)).1.symm

section Apart

variable (hfaithful : runtime.IsFaithful scheme programId rent)
  (hseeds : scheme.create? seeds programId = some target.key) (hspace : space ≤ maxCreatedSpace)
include hfaithful hseeds hspace

theorem account_createAccount_of_apart {other : Handle}
    (hothers : machine.cells.HoldsApart [job.frame.payer, target, other])
    (h : job.createAccount runtime target amount space owner seeds machine = .ok next) :
    next.account other = machine.account other := by
  obtain ⟨view, hmirror⟩ := hothers.exists_mirror
  obtain ⟨hfirst, hrest⟩ := List.pairwise_cons.mp hothers.pairwise_apart
  have hpayer := hfirst other (by simp)
  have htarget := List.rel_of_pairwise_cons hrest (List.mem_singleton_self other)
  exact account_createAccount_of_ne hfaithful (sponsors_of_holdsApart hothers) hmirror hseeds hspace
    h (by simp) trivial htarget.1.symm hpayer.1.symm

/-- A store that has the same two accounts does the same. -/
theorem agree_createAccount
    (hchargeable : job.frame.payer.IsChargeable (machine.account job.frame.payer))
    (hwritable : target.isWritable)
    (hapart : machine.cells.HoldsApart [job.frame.payer, target])
    (hexempt : rent.IsExempt amount space.toNat) {accounts : Accounts}
    (hpaying : accounts.get job.frame.payer.key = machine.account job.frame.payer)
    (hcreated : accounts.get target.key = machine.account target) (slot : Slot) (owner : Key) :
    Except.Agree
      (fun next after => next.account target = after.get target.key
        ∧ next.account job.frame.payer = after.get job.frame.payer.key)
      (job.createAccount runtime target amount space owner seeds machine)
      ((Operation.createAccount slot target.key space amount owner).apply rent programId
        job.frame.payer.key accounts) := by
  have hsponsors := sponsors_of_holdsApart hapart
  have hmirror : Mirror [job.frame.payer, target] (fun _ => True) machine.cells accounts.get :=
    hapart.mirror (by simpa using ⟨hpaying, hcreated⟩)
  have hsimulates := simulates_creation hfaithful hsponsors hmirror
    (fun _ : True => ⟨hpaying ▸ hchargeable, hwritable⟩) hseeds hspace hexempt slot owner
  refine (hsimulates.agree trivial).imp fun next after _ hafter => ⟨?_, ?_⟩
  · exact hafter.get_eq target hsponsors.target_mem trivial
  · exact hafter.get_eq job.frame.payer hsponsors.payer_mem trivial

end Apart

/-- **Both ways of creating an account have one outcome.** Whatever the invoked program does as long
as it does what it is documented to do: at the expense of a payer who has signed, belongs to the
system program and has no data, and with seeds that derive its address, an account is created
exactly if it is vacant and the payer holds what it lacks; that it holds lamports already only
decides on the calls. It ends up with the larger of its balance and the amount, blank data and its
owner, the payer with less by just what it lacked, and all other accounts as they were. Where this
fails, no account has changed. And a store that has the same two accounts refuses the operation as
well, or it leaves the two the same. -/
theorem createAccount_outcome (hfaithful : runtime.IsFaithful scheme programId rent)
    (hchargeable : job.frame.payer.IsChargeable (machine.account job.frame.payer))
    (hwritable : target.isWritable)
    (hapart : machine.cells.HoldsApart [job.frame.payer, target])
    (hseeds : scheme.create? seeds programId = some target.key) (hspace : space ≤ maxCreatedSpace)
    (hexempt : rent.IsExempt amount space.toNat) (owner : Key) :
    let payer := machine.account job.frame.payer
    let before := machine.account target
    let shortfall := Saturating.sub64 amount before.lamports
    let creation := job.createAccount runtime target amount space owner seeds machine
    ((∃ next, creation = .ok next) ↔ before.IsVacant ∧ shortfall ≤ payer.lamports)
      ∧ (∀ next, creation = .ok next →
        next.account target = ⟨max before.lamports amount, Bytes.zeros space.toNat, owner⟩
          ∧ next.account job.frame.payer
            = { payer with lamports := payer.lamports - shortfall }
          ∧ (∀ other, machine.cells.HoldsApart [job.frame.payer, target, other] →
            next.account other = machine.account other)
          ∧ next.calls = machine.calls ++ creationCalls job.frame.payer.key target.key
            before.lamports amount space owner)
      ∧ (∀ stop, creation = .error stop → stop.machine.cells = machine.cells)
      ∧ ∀ (accounts : Accounts) (slot : Slot),
        accounts.get job.frame.payer.key = payer → accounts.get target.key = before →
          Except.Agree
            (fun next after => next.account target = after.get target.key
              ∧ next.account job.frame.payer = after.get job.frame.payer.key)
            creation
            ((Operation.createAccount slot target.key space amount owner).apply rent programId
              job.frame.payer.key accounts) := by
  intro payer before shortfall creation
  have hsponsors := sponsors_of_holdsApart hapart
  obtain ⟨view, hmirror⟩ := hapart.exists_mirror
  have hpayer : payer = view job.frame.payer.key :=
    hmirror.get_eq _ hsponsors.payer_mem hsponsors.payer_matters
  have htarget : before = view target.key :=
    hmirror.get_eq _ hsponsors.target_mem hsponsors.target_matters
  have hshortfall : shortfall = Saturating.sub64 amount (view target.key).lamports := by
    rw [← htarget]
  have hview : job.frame.payer.IsChargeable (view job.frame.payer.key) := hpayer ▸ hchargeable
  refine ⟨?created, fun next hnext => ⟨?target, ?payer, fun other hothers => ?other,
    calls_of_createAccount_eq_ok hnext⟩, fun stop hstop => ?failed,
    fun accounts slot hpaying hcreated => ?stored⟩
  case created =>
    rw [hshortfall, htarget, hpayer]
    exact exists_createAccount_eq_ok_iff hfaithful hsponsors hmirror hseeds hspace hview hwritable
      amount owner
  case target =>
    rw [htarget]
    exact account_createAccount_target hfaithful hsponsors hmirror hseeds hspace hnext
  case payer =>
    rw [hshortfall, hpayer]
    exact account_createAccount_payer hfaithful hsponsors hmirror hseeds hspace hnext
  case other => exact account_createAccount_of_apart hfaithful hseeds hspace hothers hnext
  case failed =>
    exact cells_of_createAccount_eq_error hfaithful hsponsors hmirror hseeds hspace hview hwritable
      hstop
  case stored =>
    exact agree_createAccount hfaithful hseeds hspace hchargeable hwritable hapart hexempt hpaying
      hcreated slot owner

/-! ### The pool's account, empty and with a gift -/

/-- The account of the pool is created with the balance that exempts it. -/
def sampleCreation (machine : Machine) : Except Stop Machine :=
  sampleJob.createAccount (.faithful .standard .stakePoolProgram .standard) sampleJob.frame.config
    4732800 552 .stakePoolProgram (AddressBook.sample.signerSeeds .config) machine

theorem create?_sampleCreation :
    AddressScheme.standard.create? (AddressBook.sample.signerSeeds .config) .stakePoolProgram
      = some sampleJob.frame.config.key :=
  AddressBook.create?_signerSeeds AddressBook.derive?_sample .config

def freshMachine : Machine := ⟨sampleLoaded.2, []⟩

def giftedMachine : Machine := ⟨sampleLoaded.2.put sampleJob.frame.config (.plain 1000), []⟩

theorem createAccount_outcome_samples :
    (∃ next, sampleCreation freshMachine = .ok next
        ∧ next.account sampleJob.frame.config = ⟨4732800, Bytes.zeros 552, .stakePoolProgram⟩
        ∧ next.calls.length = 1)
      ∧ ∃ next, sampleCreation giftedMachine = .ok next
        ∧ next.account sampleJob.frame.config = ⟨4732800, Bytes.zeros 552, .stakePoolProgram⟩
        ∧ next.calls.length = 3 := by
  have hwritable : sampleJob.frame.config.isWritable := by decide +kernel
  have hexempt : Rent.standard.IsExempt 4732800 (552 : UInt64).toNat := by decide +kernel
  have hcreation (machine : Machine)
      (hchargeable : sampleJob.frame.payer.IsChargeable (machine.account sampleJob.frame.payer))
      (hapart : machine.cells.HoldsApart [sampleJob.frame.payer, sampleJob.frame.config])
      (hvacant : (machine.account sampleJob.frame.config).IsVacant)
      (hreach : Saturating.sub64 4732800 (machine.account sampleJob.frame.config).lamports
        ≤ (machine.account sampleJob.frame.payer).lamports) :
      ∃ next, sampleCreation machine = .ok next
        ∧ next.account sampleJob.frame.config
          = ⟨max (machine.account sampleJob.frame.config).lamports 4732800, Bytes.zeros 552,
            .stakePoolProgram⟩
        ∧ next.calls = machine.calls ++ creationCalls sampleJob.frame.payer.key
          sampleJob.frame.config.key (machine.account sampleJob.frame.config).lamports 4732800 552
          .stakePoolProgram := by
    obtain ⟨hcreated, houtcome, -⟩ := createAccount_outcome (Runtime.faithful_isFaithful ..)
      hchargeable hwritable hapart create?_sampleCreation (by decide) hexempt .stakePoolProgram
    obtain ⟨next, hnext⟩ := hcreated.mpr ⟨hvacant, hreach⟩
    obtain ⟨htarget, -, -, hcalls⟩ := houtcome next hnext
    exact ⟨next, hnext, htarget, hcalls⟩
  constructor
  · obtain ⟨next, hnext, htarget, hcalls⟩ := hcreation freshMachine
      ⟨by decide +kernel, by decide +kernel, by decide +kernel, by decide +kernel⟩
      ⟨by decide +kernel, by decide +kernel⟩ (by decide +kernel) (by decide +kernel)
    exact ⟨next, hnext, htarget.trans (by decide +kernel), by rw [hcalls]; decide +kernel⟩
  · obtain ⟨next, hnext, htarget, hcalls⟩ := hcreation giftedMachine
      ⟨by decide +kernel, by decide +kernel, by decide +kernel, by decide +kernel⟩
      ⟨by decide +kernel, by decide +kernel⟩ (by decide +kernel) (by decide +kernel)
    exact ⟨next, hnext, htarget.trans (by decide +kernel), by rw [hcalls]; decide +kernel⟩

/-! ### A payer that has been given away -/

/-- The payer's account in the hands of the token program. -/
def foreignMachine (gifted : Bool) : Machine where
  cells := (bif gifted then giftedMachine else freshMachine).cells.put sampleJob.frame.payer
    { sampleLoaded.2.get sampleJob.frame.payer with owner := .tokenProgram }
  trace := []

/-- The account of the pool is vacant, and the payer has signed, has no data and holds what it
takes. Still the account is not created, in neither way. -/
theorem createAccount_refused_of_foreign_payer :
    sampleJob.frame.payer.isSigner ∧ sampleJob.frame.payer.isWritable
      ∧ sampleJob.frame.config.isWritable
      ∧ AddressScheme.standard.create? (AddressBook.sample.signerSeeds .config) .stakePoolProgram
        = some sampleJob.frame.config.key
      ∧ Rent.standard.IsExempt 4732800 552
      ∧ ∀ gifted,
        let payer := (foreignMachine gifted).account sampleJob.frame.payer
        let before := (foreignMachine gifted).account sampleJob.frame.config
        (foreignMachine gifted).cells.HoldsApart [sampleJob.frame.payer, sampleJob.frame.config]
          ∧ payer.data = [] ∧ before = .plain (bif gifted then 1000 else 0)
          ∧ Saturating.sub64 4732800 before.lamports ≤ payer.lamports
          ∧ ¬ ∃ next, sampleCreation (foreignMachine gifted) = .ok next := by
  refine ⟨by decide +kernel, by decide +kernel, by decide +kernel, create?_sampleCreation,
    by decide +kernel, fun gifted => ?_⟩
  have hcells : ∀ gifted,
      let payer := (foreignMachine gifted).account sampleJob.frame.payer
      let before := (foreignMachine gifted).account sampleJob.frame.config
      payer.data = [] ∧ before = .plain (bif gifted then 1000 else 0)
        ∧ Saturating.sub64 4732800 before.lamports ≤ payer.lamports
        ∧ payer.owner ≠ .systemProgram ∧ Saturating.sub64 4732800 before.lamports ≠ 0 := by
    decide +kernel
  have hlength : ∀ gifted, ∀ handle ∈ [sampleJob.frame.payer, sampleJob.frame.config],
      handle.cell < (foreignMachine gifted).cells.length := by decide +kernel
  have hapart : (foreignMachine gifted).cells.HoldsApart
      [sampleJob.frame.payer, sampleJob.frame.config] := ⟨hlength gifted, by decide +kernel⟩
  obtain ⟨hdata, hvacant, hreach, howner, hlacks⟩ := hcells gifted
  refine ⟨hapart, hdata, hvacant, hreach, ?_⟩
  intro hcreated
  obtain ⟨next, hnext⟩ := hcreated
  obtain ⟨view, hmirror⟩ := hapart.exists_mirror
  have hpayer : (foreignMachine gifted).account sampleJob.frame.payer
      = view sampleJob.frame.payer.key := hmirror.get_eq _ (by simp) trivial
  have htarget : (foreignMachine gifted).account sampleJob.frame.config
      = view sampleJob.frame.config.key := hmirror.get_eq _ (by simp) trivial
  rw [hpayer] at howner
  rw [htarget] at hlacks
  exact howner (owner_of_createAccount_eq_ok
    (Runtime.faithful_isFaithful .standard .stakePoolProgram .standard)
    (sponsors_of_holdsApart hapart) hmirror 4732800 .stakePoolProgram hlacks hnext)

end Job

end Chain

end StakePool
