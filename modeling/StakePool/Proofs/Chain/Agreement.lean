import StakePool.Chain.Execution
import StakePool.Proofs.Chain.Contract
import StakePool.Proofs.Operation.Readiness
import StakePool.Proofs.Plan
/-!
# The two executors of a plan

A plan can be submitted to a store in one batch, or a program can execute it on the chain with the
help of the system program and the token program. `perform_simulates` compares them operation by
operation: where the cells of the program `Mirror` the accounts of the store, the program gets
through an operation only as the store does, and then the cells mirror the accounts again. The
store does not mind whose account the payer's is and what it holds besides lamports, but the system
program takes nothing from an account that has data or belongs to another program; so the two agree,
as `performAll_agree` says, when the program is `Unhindered`. The one thing to know beyond that is
that an account to be filled in is still blank when its turn comes, which holds because the plan
creates it first and touches it no sooner.

Of the two programs that are invoked nothing is used but what they are documented to do.
-/

namespace StakePool

namespace Except

variable {ε δ α β α' β' : Type} {R : α → β → Prop} {S : α' → β' → Prop}

theorem exists_of_isOk {x : Except ε α} (h : x.isOk) : ∃ a, x = .ok a := by
  cases x with
  | ok a => exact ⟨a, rfl⟩
  | error => cases h

/-- Both computations fail, or both succeed and their results are related. -/
def Agree (R : α → β → Prop) : Except ε α → Except δ β → Prop
  | .ok a, .ok b => R a b
  | .error _, .error _ => True
  | .ok _, .error _ | .error _, .ok _ => False

theorem Agree.imp {S : α → β → Prop} {x : Except ε α} {y : Except δ β} (h : Agree R x y)
    (hresults : ∀ a b, y = .ok b → R a b → S a b) : Agree S x y := by
  cases x with
  | ok a =>
    cases y with
    | ok b => exact hresults a b rfl h
    | error => exact h.elim
  | error =>
    cases y with
    | ok b => exact h.elim
    | error => trivial

theorem Agree.bind {x : Except ε α} {y : Except δ β} (h : Agree R x y) {f : α → Except ε α'}
    {g : β → Except δ β'}
    (hnext : ∀ a b, R a b → y = .ok b → Agree S (f a) (g b)) : Agree S (x >>= f) (y >>= g) := by
  cases x with
  | ok a =>
    cases y with
    | ok b => exact hnext a b h rfl
    | error => exact h.elim
  | error =>
    cases y with
    | ok b => exact h.elim
    | error => trivial

end Except

namespace Saturating

theorem sub64_zero (a : UInt64) : sub64 a 0 = a := by
  rw [sub64, if_pos UInt64.zero_le, UInt64.sub_zero]

theorem add_sub64 (a b : UInt64) : a + sub64 b a = max a b := by
  rw [← max_sub_left, UInt64.add_comm, UInt64.sub_add_cancel]

theorem toNat_add_sub64_lt (a b : UInt64) : a.toNat + (sub64 b a).toNat < UInt64.size := by
  have ha := a.toNat_lt
  have hb := b.toNat_lt
  rw [toNat_sub64]
  simp only [UInt64.size]
  omega

end Saturating

namespace Chain

theorem get_apply {rent : Rent} {programId payer : Key} {op : Operation} {before after : Accounts}
    (h : op.apply rent programId payer before = .ok after) :
    after.get = Function.update (debit before.get payer (op.fundingNeeded before.find?)) op.target
      (op.result (before.get op.target)) := by
  funext key
  by_cases htarget : key = op.target
  · rw [htarget, Function.update_self, Operation.get_apply_target h]
  · rw [Function.update_of_ne htarget, Operation.get_apply_of_ne h htarget, debit,
      Function.update_apply]

variable {handles : List Handle} {Matters : Key → Prop} {cells : Cells} {view final : Key → Account}
  {runtime : Runtime} {machine : Machine} {unhindered c c' : Prop}

theorem Machine.invoke_eq_ok_iff {invocation : Invocation} {next : Machine} :
    machine.invoke runtime invocation = .ok next
      ↔ ∃ after, runtime.run machine.invocations invocation machine.cells = .ok after
        ∧ ⟨after, machine.trace ++ [.invocation invocation none]⟩ = next := by
  rw [invoke]
  cases runtime.run machine.invocations invocation machine.cells with
  | ok after => simp
  | error => simp

/-- The program goes on only under a condition, and its cells mirror a view then. If nothing hinders
it, the condition is all that it takes. -/
structure Yields (handles : List Handle) (Matters : Key → Prop) (result : Except Stop Machine)
    (unhindered condition : Prop) (view : Key → Account) : Prop where
  goes_on : unhindered → condition → ∃ machine, result = .ok machine
  sound : ∀ machine, result = .ok machine →
    condition ∧ Mirror handles Matters machine.cells view

namespace Yields

theorem pure (h : Mirror handles Matters machine.cells view) :
    Yields handles Matters (.ok machine) unhindered True view where
  goes_on _ _ := ⟨machine, rfl⟩
  sound next hnext := by
    obtain rfl := Except.ok.inj hnext
    exact ⟨trivial, h⟩

theorem stop (failure : Failure) (hc : ¬ c) :
    Yields handles Matters (machine.stop failure) unhindered c view where
  goes_on _ h := absurd h hc
  sound next hnext := by cases hnext

theorem bind {result : Except Stop Machine} {next : Machine → Except Stop Machine}
    (h : Yields handles Matters result unhindered c view)
    (hnext : ∀ machine, Mirror handles Matters machine.cells view →
      Yields handles Matters (next machine) unhindered c' final) :
    Yields handles Matters (result >>= next) unhindered (c ∧ c') final where
  goes_on hunhindered hboth := by
    obtain ⟨machine, rfl⟩ := h.goes_on hunhindered hboth.1
    exact (hnext machine (h.sound machine rfl).2).goes_on hunhindered hboth.2
  sound last hlast := by
    obtain ⟨machine, hresult, hrest⟩ := Except.bind_eq_ok_iff.mp hlast
    obtain ⟨hc, hmirror⟩ := h.sound machine hresult
    obtain ⟨hc', hfinal⟩ := (hnext machine hmirror).sound last hrest
    exact ⟨⟨hc, hc'⟩, hfinal⟩

theorem write (h : Mirror handles Matters machine.cells view) {target : Handle}
    (htarget : target ∈ handles) (hmatters : Matters target.key) (data : Bytes) :
    Yields handles Matters (.ok (machine.write target data)) unhindered True
      (Function.update view target.key { view target.key with data }) := by
  rw [← h.get_eq target htarget hmatters]
  exact .pure (h.put htarget _)

theorem invoke {invocation : Invocation} {allowed : Prop} {effect : Cells}
    (h : Answers (runtime.run machine.invocations invocation machine.cells) allowed c effect)
    (hallowed : unhindered → allowed) (hmirror : Mirror handles Matters effect view) :
    Yields handles Matters (machine.invoke runtime invocation) unhindered c view where
  goes_on hunhindered hc := by
    exact ⟨_, Machine.invoke_eq_ok_iff.mpr ⟨effect, h.given (hallowed hunhindered) hc, rfl⟩⟩
  sound next hnext := by
    obtain ⟨after, hrun, rfl⟩ := Machine.invoke_eq_ok_iff.mp hnext
    obtain ⟨hc, rfl⟩ := h.only after hrun
    exact ⟨hc, hmirror⟩

end Yields

namespace Job

variable {scheme : AddressScheme} {programId : Key} {rent : Rent} {job : Job}

/-- The job is about the account. -/
def Concerns (job : Job) (key : Key) : Prop := key = job.frame.payer.key ∨ key ∈ job.book

/-- The request lists an account of the pool at the address. -/
def Lists (job : Job) (address : Key) : Prop :=
  ∃ slot ∈ Request.slots, (job.book.slot slot).address = address

/-- The job finds the account of the pool behind the handle. -/
structure Locates (job : Job) (handles : List Handle) (target : Handle) : Prop where
  mem : target ∈ handles
  find? : job.frame.find? target.key = some target
  lists : job.Lists target.key

/-- The accounts of the pool are listed under their addresses, the payer is another account, and the
seeds of every slot give its address. -/
structure InOrder (scheme : AddressScheme) (programId : Key) (handles : List Handle) (job : Job) :
    Prop where
  payer_mem : job.frame.payer ∈ handles
  payer_not_mem : job.frame.payer.key ∉ job.book
  exists_locates : ∀ address, job.Lists address → ∃ target, job.Locates handles target
    ∧ target.key = address
  create? : ∀ slot, scheme.create? (job.book.signerSeeds slot) programId
    = some (job.book.slot slot).address
  tokenProgram_key : job.frame.tokenProgram.key = .tokenProgram

/-- The payer's account can be charged, and those of the pool can be written to. -/
structure Unhindered (job : Job) (handles : List Handle) (account : Account) : Prop where
  chargeable : job.frame.payer.IsChargeable account
  writable : ∀ target, job.Locates handles target → target.isWritable

/-- Move to an account what it lacks, if anything. -/
def topUp (job : Job) (runtime : Runtime) (target : Handle) (lamports : UInt64)
    (machine : Machine) : Except Stop Machine :=
  if lamports = 0 then .ok machine
  else
    machine.invoke runtime (.transfer job.frame.payer target job.frame.systemProgram lamports)

/-- Give a vacant account its data and its owner. -/
def furnish (job : Job) (runtime : Runtime) (target : Handle) (space : UInt64) (owner : Key)
    (seeds : List Bytes) (machine : Machine) : Except Stop Machine := do
  let allocated ←
    machine.invoke runtime (.allocate target job.frame.systemProgram space seeds)
  allocated.invoke runtime (.assign target job.frame.systemProgram owner seeds)

/-- The definition has what follows the top-up in both of its branches. -/
theorem createAccount_eq (job : Job) (runtime : Runtime) (target : Handle)
    (lamports space : UInt64) (owner : Key) (seeds : List Bytes) (machine : Machine) :
    job.createAccount runtime target lamports space owner seeds machine
      = if (machine.account target).lamports = 0 then
          machine.invoke runtime (.createAccount job.frame.payer target job.frame.systemProgram
            lamports space owner seeds)
        else if ¬ (machine.account target).IsVacant then
          machine.stop (.accountInUse target.key)
        else
          job.topUp runtime target (Saturating.sub64 lamports (machine.account target).lamports)
              machine
            >>= job.furnish runtime target space owner seeds := by
  simp only [createAccount, topUp]
  by_cases hzero : Saturating.sub64 lamports (machine.account target).lamports = 0
  · rw [if_pos hzero, if_pos hzero]
    rfl
  · rw [if_neg hzero, if_neg hzero]
    rfl

theorem Locates.mem_book {target : Handle} (h : job.Locates handles target) :
    target.key ∈ job.book := by
  obtain ⟨slot, -, hslot⟩ := h.lists
  exact ⟨slot, hslot⟩

theorem Locates.locate_eq_ok {target : Handle} (h : job.Locates handles target)
    (machine : Machine) : job.locate target.key machine = .ok target := by
  rw [locate, h.find?]

theorem InOrder.ne_payer (horder : InOrder scheme programId handles job) {key : Key}
    (hkey : key ∈ job.book) : key ≠ job.frame.payer.key :=
  fun heq => horder.payer_not_mem (heq ▸ hkey)

/-- The payer pays for another account, and both of them matter. -/
structure Sponsors (job : Job) (handles : List Handle) (Matters : Key → Prop) (target : Handle) :
    Prop where
  payer_mem : job.frame.payer ∈ handles
  payer_matters : Matters job.frame.payer.key
  target_mem : target ∈ handles
  target_matters : Matters target.key
  ne_payer : target.key ≠ job.frame.payer.key

theorem InOrder.sponsors (horder : InOrder scheme programId handles job)
    (hconcerns : ∀ key, job.Concerns key → Matters key) {target : Handle}
    (htarget : job.Locates handles target) : job.Sponsors handles Matters target where
  payer_mem := horder.payer_mem
  payer_matters := hconcerns _ (.inl rfl)
  target_mem := htarget.mem
  target_matters := hconcerns _ (.inr htarget.mem_book)
  ne_payer := horder.ne_payer htarget.mem_book

variable (hfaithful : runtime.IsFaithful scheme programId rent)
include hfaithful

theorem furnish_yields (job : Job) {target : Handle} (htarget : target ∈ handles)
    (hmatters : Matters target.key) (hmirror : Mirror handles Matters machine.cells view)
    (hwritable : unhindered → target.isWritable) {seeds : List Bytes}
    (hseeds : scheme.create? seeds programId = some target.key)
    (hvacant : (view target.key).IsVacant) {space : UInt64} (hspace : space ≤ maxCreatedSpace)
    (owner : Key) :
    Yields handles Matters
      (job.furnish runtime target space owner seeds machine) unhindered True
      (Function.update view target.key
        ⟨(view target.key).lamports, Bytes.zeros space.toNat, owner⟩) := by
  have hallocate := hfaithful.allocate machine.invocations job.frame.systemProgram space seeds
    (hmirror.cell_lt target htarget)
  rw [hmirror.get_eq target htarget hmatters] at hallocate
  have hallocated := Yields.invoke hallocate (fun hu => ⟨hwritable hu, hseeds, hspace⟩)
    (hmirror.put htarget { view target.key with data := Bytes.zeros space.toNat })
  rw [iff_true_intro hvacant] at hallocated
  rw [furnish]
  refine and_true True ▸ hallocated.bind fun allocated hfilled => ?_
  have hassign := hfaithful.assign allocated.invocations job.frame.systemProgram owner seeds
    (hfilled.cell_lt target htarget)
  rw [hfilled.get_eq target htarget hmatters, Function.update_self] at hassign
  have hassigned := Yields.invoke hassign
    (fun hu => ⟨hwritable hu, hseeds, hvacant.2, Bytes.isBlank_zeros _⟩) (hfilled.put htarget _)
  rwa [Function.update_idem] at hassigned

section Target

variable {target : Handle} (hsponsors : job.Sponsors handles Matters target)
  (hmirror : Mirror handles Matters machine.cells view)
  (hcharge : unhindered → job.frame.payer.IsChargeable (view job.frame.payer.key)
    ∧ target.isWritable)
include hsponsors hmirror hcharge

theorem topUp_yields {lamports : UInt64}
    (hroom : (view target.key).lamports.toNat + lamports.toNat < UInt64.size) :
    Yields handles Matters
      (job.topUp runtime target lamports machine) unhindered
      (lamports ≤ (view job.frame.payer.key).lamports)
      (Function.update (debit view job.frame.payer.key lamports) target.key
        { view target.key with lamports := (view target.key).lamports + lamports }) := by
  rw [topUp]
  by_cases hzero : lamports = 0
  · simp only [hzero, debit_zero, UInt64.add_zero, Function.update_eq_self, if_true,
      UInt64.zero_le]
    exact .pure hmirror
  have hget := hmirror.get_eq target hsponsors.target_mem hsponsors.target_matters
  have htransfer := hfaithful.transfer machine.invocations job.frame.systemProgram
    (hmirror.holdsApart hsponsors.payer_mem hsponsors.target_mem hsponsors.ne_payer)
    (hget ▸ hroom)
  rw [hget, hmirror.get_eq _ hsponsors.payer_mem hsponsors.payer_matters] at htransfer
  rw [if_neg hzero]
  exact .invoke htransfer hcharge
    ((hmirror.charge hsponsors.payer_mem hsponsors.payer_matters lamports).put
      hsponsors.target_mem _)

theorem fund_yields (htarget : job.Locates handles target) (lamports : UInt64) :
    Yields handles Matters
      (job.perform runtime (.fund target.key lamports) machine)
      unhindered
      ((view target.key).IsVacant
        ∧ Saturating.sub64 lamports (view target.key).lamports
          ≤ (view job.frame.payer.key).lamports)
      (Function.update
        (debit view job.frame.payer.key (Saturating.sub64 lamports (view target.key).lamports))
        target.key
        { view target.key with lamports := max (view target.key).lamports lamports }) := by
  have htopUp := topUp_yields hfaithful hsponsors hmirror hcharge
    (Saturating.toNat_add_sub64_lt (view target.key).lamports lamports)
  rw [Saturating.add_sub64] at htopUp
  have hget : machine.account target = view target.key :=
    hmirror.get_eq target hsponsors.target_mem hsponsors.target_matters
  rw [perform, htarget.locate_eq_ok]
  change Yields _ _ (if ¬ (machine.account target).IsVacant then _ else
    job.topUp runtime target (Saturating.sub64 lamports (machine.account target).lamports) machine)
    _ _ _
  rw [hget]
  by_cases hvacant : (view target.key).IsVacant
  · rw [if_neg (not_not.mpr hvacant), and_iff_right hvacant]
    exact htopUp
  · rw [if_pos hvacant]
    exact .stop _ fun hgo => hvacant hgo.1

variable {seeds : List Bytes} (hseeds : scheme.create? seeds programId = some target.key)
  (lamports : UInt64) {space : UInt64} (hspace : space ≤ maxCreatedSpace) (owner : Key)
include hseeds hspace

theorem create_yields (hempty : (view target.key).lamports = 0) :
    Yields handles Matters
      (machine.invoke runtime (.createAccount job.frame.payer target job.frame.systemProgram
        lamports space owner seeds))
      unhindered
      ((view target.key).IsVacant ∧ lamports ≤ (view job.frame.payer.key).lamports)
      (Function.update (debit view job.frame.payer.key lamports) target.key
        ⟨lamports, Bytes.zeros space.toNat, owner⟩) := by
  have hget := hmirror.get_eq target hsponsors.target_mem hsponsors.target_matters
  have hcreate := hfaithful.createAccount machine.invocations job.frame.systemProgram lamports
    space owner seeds
    (hmirror.holdsApart hsponsors.payer_mem hsponsors.target_mem hsponsors.ne_payer)
    (hget ▸ hempty)
  rw [hget, hmirror.get_eq _ hsponsors.payer_mem hsponsors.payer_matters] at hcreate
  refine .invoke hcreate (fun hu => ?_)
    ((hmirror.charge hsponsors.payer_mem hsponsors.payer_matters lamports).put
      hsponsors.target_mem _)
  obtain ⟨hchargeable, hwritable⟩ := hcharge hu
  exact ⟨hchargeable, hwritable, hseeds, hspace⟩

theorem topUp_furnish_yields (hvacant : (view target.key).IsVacant)
    (hroom : (view target.key).lamports.toNat + lamports.toNat < UInt64.size) :
    Yields handles Matters
      (job.topUp runtime target lamports machine >>= job.furnish runtime target space owner seeds)
      unhindered (lamports ≤ (view job.frame.payer.key).lamports)
      (Function.update (debit view job.frame.payer.key lamports) target.key
        ⟨(view target.key).lamports + lamports, Bytes.zeros space.toNat, owner⟩) := by
  have hboth := (topUp_yields hfaithful hsponsors hmirror hcharge hroom).bind fun topped htopped =>
    furnish_yields hfaithful job hsponsors.target_mem hsponsors.target_matters htopped
      (fun hu => (hcharge hu).2) hseeds (by rw [Function.update_self]; exact hvacant) hspace owner
  rwa [Function.update_self, Function.update_idem, and_true] at hboth

/-- In either way a vacant account ends up the same. -/
theorem createAccount_yields :
    Yields handles Matters
      (job.createAccount runtime target lamports space owner seeds machine)
      unhindered
      ((view target.key).IsVacant
        ∧ Saturating.sub64 lamports (view target.key).lamports
          ≤ (view job.frame.payer.key).lamports)
      (Function.update
        (debit view job.frame.payer.key (Saturating.sub64 lamports (view target.key).lamports))
        target.key
        ⟨max (view target.key).lamports lamports, Bytes.zeros space.toNat, owner⟩) := by
  have hget : machine.account target = view target.key :=
    hmirror.get_eq target hsponsors.target_mem hsponsors.target_matters
  rw [createAccount_eq, hget, ← Saturating.add_sub64]
  by_cases hempty : (view target.key).lamports = 0
  · rw [if_pos hempty, hempty, Saturating.sub64_zero, UInt64.zero_add]
    exact create_yields hfaithful hsponsors hmirror hcharge hseeds lamports hspace owner hempty
  rw [if_neg hempty]
  by_cases hvacant : (view target.key).IsVacant
  · rw [if_neg (not_not.mpr hvacant), and_iff_right hvacant]
    exact topUp_furnish_yields hfaithful hsponsors hmirror hcharge hseeds _ hspace owner hvacant
      (Saturating.toNat_add_sub64_lt _ lamports)
  · rw [if_pos hvacant]
    exact .stop _ fun hgo => hvacant hgo.1

omit hcharge hseeds hspace in
/-- A payer that belongs to another program cannot pay for what an account lacks. -/
theorem owner_of_createAccount_eq_ok {next : Machine}
    (hlacks : Saturating.sub64 lamports (view target.key).lamports ≠ 0)
    (h : job.createAccount runtime target lamports space owner seeds machine = .ok next) :
    (view job.frame.payer.key).owner = .systemProgram := by
  have hget : machine.account target = view target.key :=
    hmirror.get_eq target hsponsors.target_mem hsponsors.target_matters
  have hapart := hmirror.holdsApart hsponsors.payer_mem hsponsors.target_mem hsponsors.ne_payer
  rw [← hmirror.get_eq _ hsponsors.payer_mem hsponsors.payer_matters]
  rw [createAccount_eq, hget] at h
  by_cases hempty : (view target.key).lamports = 0
  · rw [if_pos hempty] at h
    rw [hempty, Saturating.sub64_zero] at hlacks
    obtain ⟨after, hrun, -⟩ := Machine.invoke_eq_ok_iff.mp h
    rw [← hget] at hempty
    exact hfaithful.owner_of_createAccount hapart hlacks hempty hrun
  rw [if_neg hempty] at h
  by_cases hvacant : (view target.key).IsVacant
  · rw [if_neg (not_not.mpr hvacant)] at h
    obtain ⟨topped, htopUp, -⟩ := Except.bind_eq_ok_iff.mp h
    rw [topUp, if_neg hlacks] at htopUp
    obtain ⟨after, hrun, -⟩ := Machine.invoke_eq_ok_iff.mp htopUp
    have hroom := Saturating.toNat_add_sub64_lt (view target.key).lamports lamports
    rw [← hget] at hroom hrun hlacks
    exact hfaithful.owner_of_transfer hapart hlacks hroom hrun
  · rw [if_pos hvacant] at h
    cases h

end Target

/-! ### One operation -/

omit hfaithful

variable {op : Operation} {accounts : Accounts} {result : Except Stop Machine}
  {applied : Except Rejection Accounts}

/-- What the program gets through the store accepts, and both end up with the same. The program in
turn gets through what the store accepts if nothing hinders it. -/
structure Simulates (handles : List Handle) (Matters : Key → Prop) (unhindered : Prop)
    (result : Except Stop Machine) (applied : Except Rejection Accounts) : Prop where
  sound : ∀ machine, result = .ok machine →
    ∃ after, applied = .ok after ∧ Mirror handles Matters machine.cells after.get
  complete : unhindered → ∀ after, applied = .ok after → ∃ machine, result = .ok machine

theorem Simulates.agree (h : Simulates handles Matters unhindered result applied)
    (hunhindered : unhindered) :
    Except.Agree (fun machine after => Mirror handles Matters machine.cells after.get) result
      applied := by
  cases result with
  | ok machine =>
    obtain ⟨after, rfl, hmirror⟩ := h.sound machine rfl
    exact hmirror
  | error =>
    cases applied with
    | ok after =>
      obtain ⟨machine, hmachine⟩ := h.complete hunhindered after rfl
      cases hmachine
    | error => trivial

theorem simulates_of_yields
    (h : Yields handles Matters result unhindered c
      (Function.update
        (debit accounts.get job.frame.payer.key (op.fundingNeeded accounts.find?)) op.target
        (op.result (accounts.get op.target))))
    (hcondition : c ↔ op.Admits rent programId (accounts.get op.target) ∧ op.HasItsMint accounts
      ∧ op.fundingNeeded accounts.find? ≤ (accounts.get job.frame.payer.key).lamports) :
    Simulates handles Matters unhindered result
      (op.apply rent programId job.frame.payer.key accounts) where
  sound machine hresult := by
    obtain ⟨hc, hmirror⟩ := h.sound machine hresult
    obtain ⟨hadmits, hmint, hpaid⟩ := hcondition.mp hc
    have happly := Operation.apply_eq_ok_iff.mpr ⟨hadmits, hmint, hpaid, rfl⟩
    exact ⟨_, happly, get_apply happly ▸ hmirror⟩
  complete hunhindered after happly := by
    obtain ⟨hadmits, hmint, hpaid, -⟩ := Operation.apply_eq_ok_iff.mp happly
    exact h.goes_on hunhindered (hcondition.mpr ⟨hadmits, hmint, hpaid⟩)

include hfaithful in
theorem simulates_creation {target : Handle} (hsponsors : job.Sponsors handles Matters target)
    (hmirror : Mirror handles Matters machine.cells accounts.get)
    (hcharge : unhindered → job.frame.payer.IsChargeable (accounts.get job.frame.payer.key)
      ∧ target.isWritable)
    {seeds : List Bytes} (hseeds : scheme.create? seeds programId = some target.key)
    {lamports space : UInt64} (hspace : space ≤ maxCreatedSpace)
    (hexempt : rent.IsExempt lamports space.toNat) (slot : Slot) (owner : Key) :
    Simulates handles Matters unhindered
      (job.createAccount runtime target lamports space owner seeds machine)
      ((Operation.createAccount slot target.key space lamports owner).apply rent programId
        job.frame.payer.key accounts) := by
  have hcreated :=
    createAccount_yields hfaithful hsponsors hmirror hcharge hseeds lamports hspace owner
  rw [← Operation.fundingNeeded_createAccount slot target.key owner space lamports] at hcreated
  have hlargest : rent.IsExempt (max (accounts.get target.key).lamports lamports) space.toNat :=
    UInt64.le_trans hexempt (Saturating.le_max_right ..)
  exact simulates_of_yields hcreated
    ⟨fun h => ⟨⟨h.1, hlargest⟩, trivial, h.2⟩, fun h => ⟨h.1.1, h.2.2⟩⟩

/-- A fill that is ready costs nothing and can only be refused for want of a mint. -/
theorem simulates_of_fill (hready : op.Ready rent programId accounts)
    (h : Yields handles Matters result unhindered (op.HasItsMint accounts)
      (Function.update accounts.get op.target (op.result (accounts.get op.target)))) :
    Simulates handles Matters unhindered result
      (op.apply rent programId job.frame.payer.key accounts) := by
  have hneeded : op.fundingNeeded accounts.find? = 0 := by
    obtain ⟨_, _, _, -, hfits, -⟩ := hready
    cases op with
    | createAccount | fund => exact hfits.elim
    | openMint | openTokenAccount | writeRegistry | writeRecord => rfl
  refine simulates_of_yields (c := op.HasItsMint accounts) ?_ ?_
  · rwa [hneeded, debit_zero]
  · rw [hneeded]
    exact ⟨fun hmint => ⟨hready.admits, hmint, UInt64.zero_le⟩, fun h => h.2.1⟩

/-- The operation is about accounts of the pool that the request lists, and it creates them at the
addresses of their slots. -/
def Knows (job : Job) : Operation → Prop
  | .createAccount slot address .. =>
    slot ∈ Request.slots ∧ (job.book.slot slot).address = address
  | .openTokenAccount address mint _ => job.Lists address ∧ job.Lists mint
  | .fund address _ | .openMint address .. | .writeRegistry address _ | .writeRecord address _ =>
    job.Lists address

theorem knows_all (job : Job) (p : Parameters) (rent : Rent) :
    ∀ op ∈ Plan.all job.book p rent, job.Knows op := by
  have hcreate {slot : Slot} {space : UInt64} {owner : Key} (hslot : slot ∈ Request.slots) :
      job.Knows (Plan.create job.book rent slot space owner) := ⟨hslot, rfl⟩
  have hlists (role : Role) (hrole : .role role ∈ Request.slots) :
      job.Lists (job.book.address role) := ⟨.role role, hrole, rfl⟩
  simp only [Plan.all, Plan.groundwork, Plan.accountOperations, Plan.tokenOperations,
    List.cons_append, List.nil_append, List.forall_mem_cons]
  exact ⟨hcreate (by decide), hlists .reserve (by decide), hlists .solLeg (by decide),
    hcreate (by decide), hcreate (by decide), hlists .stakeList (by decide),
    hlists .validatorList (by decide), hcreate (by decide), hcreate (by decide),
    hcreate (by decide), hcreate (by decide), hlists .stMint (by decide),
    hlists .lpMint (by decide), ⟨hlists .stLeg (by decide), hlists .stMint (by decide)⟩,
    ⟨hlists .treasury (by decide), hlists .stMint (by decide)⟩, ⟨.config, by decide, rfl⟩,
    List.forall_mem_nil _⟩

theorem Knows.lists (h : job.Knows op) : job.Lists op.target := by
  cases op with
  | createAccount slot => exact ⟨slot, h.1, h.2⟩
  | openTokenAccount => exact h.1
  | fund | openMint | writeRegistry | writeRecord => exact h

/-- An account is created with just the balance that exempts it and not too large. A token account is
not its own mint, and its mint is not the one of wrapped lamports. -/
def IsOrderly (rent : Rent) : Operation → Prop
  | .createAccount _ _ space lamports _ =>
    lamports = rent.minimumBalance space.toNat ∧ space ≤ maxCreatedSpace
  | .openTokenAccount account mint _ => mint ≠ account ∧ mint ≠ .nativeMint
  | _ => True

theorem isOrderly_all {book : AddressBook} (hdistinct : book.Distinct)
    (hnative : book.address .stMint ≠ .nativeMint) {p : Parameters} (hvalid : p.IsValid) :
    ∀ op ∈ Plan.all book p rent, IsOrderly rent op := by
  obtain ⟨-, -, -, -, -, -, -, hstake, hvalidator⟩ := Parameters.isValid_iff.mp hvalid
  have hcreate {slot : Slot} {space : UInt64} {owner : Key} (hspace : space ≤ maxCreatedSpace) :
      IsOrderly rent (Plan.create book rent slot space owner) := ⟨rfl, hspace⟩
  have hopen {role : Role} {owner : Key} (hrole : role ≠ .stMint) :
      IsOrderly rent (.openTokenAccount (book.address role) (book.address .stMint) owner) :=
    ⟨fun heq => hrole (Slot.role.inj (hdistinct _ _ heq)).symm, hnative⟩
  simp only [Plan.all, Plan.groundwork, Plan.accountOperations, Plan.tokenOperations,
    List.cons_append, List.nil_append, List.forall_mem_cons]
  exact ⟨hcreate (by decide), trivial, trivial, hcreate hstake, hcreate hvalidator, trivial,
    trivial, hcreate (by decide), hcreate (by decide), hcreate (by decide), hcreate (by decide),
    trivial, trivial, hopen (by decide), hopen (by decide), trivial, List.forall_mem_nil _⟩

/-- The operation is one that the program and the store can be compared in. -/
structure Covers (rent : Rent) (job : Job) (op : Operation) : Prop where
  knows : job.Knows op
  orderly : IsOrderly rent op

theorem covers_all (hdistinct : job.book.Distinct)
    (hnative : job.book.address .stMint ≠ .nativeMint) {p : Parameters} (hvalid : p.IsValid) :
    ∀ op ∈ Plan.all job.book p rent, job.Covers rent op := fun op hop =>
  ⟨job.knows_all p rent op hop, isOrderly_all hdistinct hnative hvalid op hop⟩

section Perform

variable {target : Handle} (hconcerns : ∀ key, job.Concerns key → Matters key)
  (hmirror : Mirror handles Matters machine.cells accounts.get)
  (htarget : job.Locates handles target)
include hconcerns hmirror htarget

theorem simulates_writeRegistry (runtime : Runtime) {header : RegistryHeader}
    (hready : (Operation.writeRegistry target.key header).Ready rent programId accounts) :
    Simulates handles Matters unhindered
      (job.perform runtime (.writeRegistry target.key header) machine)
      ((Operation.writeRegistry target.key header).apply rent programId job.frame.payer.key
        accounts) := by
  have hmatters := hconcerns _ (.inr htarget.mem_book)
  have hget : machine.account target = accounts.get target.key :=
    hmirror.get_eq target htarget.mem hmatters
  have hsize : ¬ (accounts.get target.key).data.length < RegistryHeader.size :=
    Nat.not_lt.mpr hready.admits.2.1
  rw [perform, htarget.locate_eq_ok]
  refine simulates_of_fill hready ?_
  change Yields _ _
    (if (machine.account target).data.length < RegistryHeader.size then _ else _) _ _ _
  rw [hget, if_neg hsize]
  exact .write hmirror htarget.mem hmatters _

theorem simulates_writeRecord (runtime : Runtime) {record : PoolRecord}
    (hready : (Operation.writeRecord target.key record).Ready rent programId accounts) :
    Simulates handles Matters unhindered
      (job.perform runtime (.writeRecord target.key record) machine)
      ((Operation.writeRecord target.key record).apply rent programId job.frame.payer.key
        accounts) := by
  have hmatters := hconcerns _ (.inr htarget.mem_book)
  have hget : machine.account target = accounts.get target.key :=
    hmirror.get_eq target htarget.mem hmatters
  have hsize : (accounts.get target.key).data.length = PoolRecord.size := hready.admits.2.1
  rw [perform, htarget.locate_eq_ok]
  refine simulates_of_fill hready ?_
  change Yields _ _ (if (machine.account target).data.length ≠ PoolRecord.size then _ else _) _ _ _
  rw [hget, if_neg (not_not.mpr hsize)]
  exact .write hmirror htarget.mem hmatters _

variable (horder : InOrder scheme programId handles job)
include hfaithful horder

theorem simulates_createAccount {slot : Slot} (hslot : (job.book.slot slot).address = target.key)
    {space : UInt64} (hspace : space ≤ maxCreatedSpace) (owner : Key) :
    Simulates handles Matters (job.Unhindered handles (accounts.get job.frame.payer.key))
      (job.perform runtime
        (.createAccount slot target.key space (rent.minimumBalance space.toNat) owner) machine)
      ((Operation.createAccount slot target.key space (rent.minimumBalance space.toNat) owner).apply
        rent programId job.frame.payer.key accounts) := by
  rw [perform, htarget.locate_eq_ok]
  exact simulates_creation hfaithful (horder.sponsors hconcerns htarget) hmirror
    (fun hu => ⟨hu.chargeable, hu.writable target htarget⟩) (hslot ▸ horder.create? slot) hspace
    (UInt64.le_refl _) slot owner

theorem simulates_fund (lamports : UInt64) :
    Simulates handles Matters (job.Unhindered handles (accounts.get job.frame.payer.key))
      (job.perform runtime (.fund target.key lamports) machine)
      ((Operation.fund target.key lamports).apply rent programId job.frame.payer.key accounts) := by
  have hcharge (hu : job.Unhindered handles (accounts.get job.frame.payer.key)) :
      job.frame.payer.IsChargeable (accounts.get job.frame.payer.key) ∧ target.isWritable :=
    ⟨hu.chargeable, hu.writable target htarget⟩
  have hfunded := fund_yields hfaithful (horder.sponsors hconcerns htarget) hmirror hcharge htarget
    lamports
  rw [← Operation.fundingNeeded_fund target.key lamports] at hfunded
  exact simulates_of_yields hfunded ⟨fun h => ⟨h.1, trivial, h.2⟩, fun h => ⟨h.1, h.2.2⟩⟩

theorem simulates_openMint {authority : Key} {decimals : UInt8} {freezeAuthority : Option Key}
    (hready : (Operation.openMint target.key decimals authority freezeAuthority).Ready rent
      programId accounts) :
    Simulates handles Matters (job.Unhindered handles (accounts.get job.frame.payer.key))
      (job.perform runtime (.openMint target.key decimals authority freezeAuthority) machine)
      ((Operation.openMint target.key decimals authority freezeAuthority).apply rent programId
        job.frame.payer.key accounts) := by
  have hget := hmirror.get_eq target htarget.mem (hconcerns _ (.inr htarget.mem_book))
  obtain ⟨lamports, hblank, hexempt⟩ := hready.mint_eq
  have hopen := hfaithful.openMint machine.invocations decimals authority freezeAuthority
    horder.tokenProgram_key (hmirror.cell_lt target htarget.mem) (hget.trans hblank) hexempt
  rw [hget] at hopen
  rw [perform, htarget.locate_eq_ok]
  exact simulates_of_fill hready
    (.invoke hopen (fun hu => hu.writable target htarget) (hmirror.put htarget.mem _))

theorem simulates_openTokenAccount {mint : Handle} {owner : Key}
    (hmint : job.Locates handles mint) (hne : mint.key ≠ target.key)
    (hnative : mint.key ≠ .nativeMint)
    (hready : (Operation.openTokenAccount target.key mint.key owner).Ready rent programId
      accounts) :
    Simulates handles Matters (job.Unhindered handles (accounts.get job.frame.payer.key))
      (job.perform runtime (.openTokenAccount target.key mint.key owner) machine)
      ((Operation.openTokenAccount target.key mint.key owner).apply rent programId
        job.frame.payer.key accounts) := by
  have hget := hmirror.get_eq target htarget.mem (hconcerns _ (.inr htarget.mem_book))
  obtain ⟨lamports, hblank, hexempt⟩ := hready.tokenAccount_eq
  have hopen := hfaithful.openTokenAccount machine.invocations owner horder.tokenProgram_key
    hnative (hmirror.holdsApart htarget.mem hmint.mem hne) (hget.trans hblank) hexempt
  rw [hget, hmirror.get_eq mint hmint.mem (hconcerns _ (.inr hmint.mem_book))] at hopen
  rw [perform, htarget.locate_eq_ok]
  refine simulates_of_fill hready ?_
  change Yields _ _ (job.locate mint.key machine >>= _) _ _ _
  rw [hmint.locate_eq_ok]
  exact .invoke hopen (fun hu => hu.writable target htarget) (hmirror.put htarget.mem _)

end Perform

/-- The program and the store hold the same, and nothing hinders the program. -/
structure Tracks (handles : List Handle) (job : Job) (machine : Machine) (accounts : Accounts) :
    Prop where
  mirror : Mirror handles job.Concerns machine.cells accounts.get
  unhindered : job.Unhindered handles (accounts.get job.frame.payer.key)

section Plan

variable (horder : InOrder scheme programId handles job)
include hfaithful horder

/-- The step lemma: the program gets through an operation of a plan only as the store does, and if
it is not hindered, it gets through whenever the store does. -/
theorem perform_simulates (hconcerns : ∀ key, job.Concerns key → Matters key)
    (hmirror : Mirror handles Matters machine.cells accounts.get) (hcovers : job.Covers rent op)
    (hready : op.IsFill → op.Ready rent programId accounts) :
    Simulates handles Matters (job.Unhindered handles (accounts.get job.frame.payer.key))
      (job.perform runtime op machine)
      (op.apply rent programId job.frame.payer.key accounts) := by
  obtain ⟨hknows, horderly⟩ := hcovers
  obtain ⟨target, htarget, hkey⟩ := horder.exists_locates op.target hknows.lists
  cases op with
  | createAccount slot address space lamports owner =>
    obtain ⟨-, hslot⟩ := hknows
    obtain ⟨rfl, hspace⟩ := horderly
    obtain rfl : target.key = address := hkey
    exact simulates_createAccount hfaithful hconcerns hmirror htarget horder hslot hspace owner
  | fund address lamports =>
    obtain rfl : target.key = address := hkey
    exact simulates_fund hfaithful hconcerns hmirror htarget horder lamports
  | openMint mint =>
    obtain rfl : target.key = mint := hkey
    exact simulates_openMint hfaithful hconcerns hmirror htarget horder (hready trivial)
  | openTokenAccount account mintKey owner =>
    obtain rfl : target.key = account := hkey
    obtain ⟨hne, hnative⟩ := horderly
    obtain ⟨mint, hmint, rfl⟩ := horder.exists_locates mintKey hknows.2
    exact simulates_openTokenAccount hfaithful hconcerns hmirror htarget horder hmint hne hnative
      (hready trivial)
  | writeRegistry address =>
    obtain rfl : target.key = address := hkey
    exact simulates_writeRegistry hconcerns hmirror htarget runtime (hready trivial)
  | writeRecord address =>
    obtain rfl : target.key = address := hkey
    exact simulates_writeRecord hconcerns hmirror htarget runtime (hready trivial)

/-! ### A whole plan -/

omit hfaithful in
theorem Covers.ne_payer (hcovers : job.Covers rent op) : op.target ≠ job.frame.payer.key := by
  obtain ⟨slot, -, hslot⟩ := hcovers.knows.lists
  exact horder.ne_payer ⟨slot, hslot⟩

/-- What the program gets through the store accepts, whoever pays. -/
theorem performAll_sound (hconcerns : ∀ key, job.Concerns key → Matters key)
    {operations : List Operation} (hcovers : ∀ op ∈ operations, job.Covers rent op)
    (hplan : operations.Pairwise (Operation.Precedes programId))
    (hprepared : Operation.Prepared rent programId operations accounts)
    (hmirror : Mirror handles Matters machine.cells accounts.get) {last : Machine}
    (hrun : job.performAll runtime operations machine = .ok last) :
    ∃ after, (Batch.mk programId job.frame.payer.key operations).apply rent accounts = .ok after
      ∧ Mirror handles Matters last.cells after.get := by
  induction operations generalizing machine accounts with
  | nil =>
    obtain rfl := Except.ok.inj hrun
    exact ⟨accounts, rfl, hmirror⟩
  | cons op rest ih =>
    obtain ⟨hfirst, hrest⟩ := List.forall_mem_cons.mp hcovers
    rw [performAll, List.foldlM_cons] at hrun
    obtain ⟨next, hnext, hlast⟩ := Except.bind_eq_ok_iff.mp hrun
    obtain ⟨middle, happly, hmiddle⟩ := (perform_simulates hfaithful horder hconcerns
      hmirror hfirst fun hfill => hprepared.head hplan hfill).sound next hnext
    obtain ⟨after, hafter, hfinal⟩ := ih hrest hplan.of_cons
      (hprepared.tail hplan (fun other hother => (hrest other hother).ne_payer horder) happly)
      hmiddle hlast
    exact ⟨after, Batch.apply_cons_eq_ok_iff.mpr ⟨middle, happly, hafter⟩, hfinal⟩

theorem perform_agree (htracks : job.Tracks handles machine accounts)
    (hcovers : job.Covers rent op) (hready : op.IsFill → op.Ready rent programId accounts) :
    Except.Agree (job.Tracks handles)
      (job.perform runtime op machine)
      (op.apply rent programId job.frame.payer.key accounts) := by
  have hsimulates := perform_simulates hfaithful horder (fun _ hconcerned => hconcerned)
    htracks.mirror hcovers hready
  refine (hsimulates.agree htracks.unhindered).imp fun next after happly hmirror => ⟨hmirror, ?_⟩
  obtain ⟨hchargeable, hwritable⟩ := htracks.unhindered
  rw [get_apply happly, Function.update_of_ne (hcovers.ne_payer horder).symm, debit,
    Function.update_self]
  exact ⟨⟨hchargeable.signed, hchargeable.writable, hchargeable.data_eq, hchargeable.owner_eq⟩,
    hwritable⟩

/-- The run lemma: both executors stop somewhere in what is left of a plan, or both get through. -/
theorem performAll_agree {operations : List Operation}
    (hcovers : ∀ op ∈ operations, job.Covers rent op)
    (hplan : operations.Pairwise (Operation.Precedes programId))
    (hprepared : Operation.Prepared rent programId operations accounts)
    (htracks : job.Tracks handles machine accounts) :
    Except.Agree (job.Tracks handles)
      (job.performAll runtime operations machine)
      ((Batch.mk programId job.frame.payer.key operations).apply rent accounts) := by
  induction operations generalizing machine accounts with
  | nil => exact htracks
  | cons op rest ih =>
    obtain ⟨hfirst, hrest⟩ := List.forall_mem_cons.mp hcovers
    have hop := perform_agree hfaithful horder htracks hfirst
      fun hfill => hprepared.head hplan hfill
    rw [Batch.apply_cons, performAll, List.foldlM_cons]
    refine hop.bind fun next after hnext happly => ?_
    exact ih hrest hplan.of_cons
      (hprepared.tail hplan (fun other hother => (hrest other hother).ne_payer horder) happly) hnext

end Plan

end Job

end Chain

end StakePool
