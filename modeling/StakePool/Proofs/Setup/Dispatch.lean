import StakePool.Proofs.Chain.Processing
import StakePool.Proofs.Setup.Gifts
/-!
# A setup dispatches the program's plan

The program executes its plan as a whole, in one place. A setup puts its operations together in three
steps, each of which leaves out what it finds done, on accounts that others may have changed since
the step before, and cuts the result at whatever limit the store states in the end. What it has
submitted when the pool is written is nevertheless the plan that the program executes, in order,
without exactly those operations that counted as applied where they were planned. `OnCourse` says
what a setup has drafted on which visits; every step keeps it.
-/

namespace StakePool

theorem length_of_mem_dropLast_chunks {α : Type} {size : Nat} {xs part : List α}
    (h : part ∈ (chunks size xs).dropLast) : part.length = max 1 size := by
  fun_induction chunks size xs with
  | case1 => cases h
  | case2 x rest ih =>
    by_cases hrest : chunks size (rest.drop (size - 1)) = []
    · rw [hrest] at h
      cases h
    · rw [List.dropLast_cons_of_ne_nil hrest] at h
      obtain rfl | hlater := List.mem_cons.mp h
      · -- Something is left behind the run, so it was not cut short.
        have hlong : size - 1 < rest.length := by
          refine Nat.lt_of_not_le fun hle => hrest ?_
          rw [List.drop_eq_nil_of_le hle, chunks_nil]
        rw [List.length_cons, List.length_take]
        omega
      · exact ih hlater

namespace Store

/-- The store accepts batches one after another, and these are the numbers it gives them. -/
inductive Takes : Store → List Batch → List UInt64 → Store → Prop
  | nil (store : Store) : Takes store [] [] store
  | cons {store next last : Store} {batch : Batch} {number : UInt64} {batches : List Batch}
    {numbers : List UInt64} (h : store.submit batch = (.ok number, next))
    (hrest : Takes next batches numbers last) :
    Takes store (batch :: batches) (number :: numbers) last

theorem Takes.length_eq {store last : Store} {batches : List Batch} {numbers : List UInt64}
    (h : store.Takes batches numbers last) : numbers.length = batches.length := by
  induction h with
  | nil => rfl
  | cons _ _ ih => rw [List.length_cons, List.length_cons, ih]

theorem takes_submitAll {store : Store} {batches : List Batch}
    (h : (store.submitAll batches).rejection? = none) :
    (store.submitAll batches).accepted = batches
      ∧ store.Takes batches (store.submitAll batches).numbers (store.submitAll batches).store := by
  induction batches generalizing store with
  | nil => exact ⟨rfl, .nil store⟩
  | cons batch rest ih =>
    cases hsubmit : store.submit batch with
    | mk result next =>
      cases result with
      | error rejection =>
        rw [submitAll_cons_of_error hsubmit] at h
        cases h
      | ok number =>
        rw [submitAll_cons_of_ok hsubmit] at h ⊢
        obtain ⟨haccepted, htakes⟩ := ih h
        exact ⟨congrArg _ haccepted, .cons hsubmit htakes⟩

end Store

namespace Setup

/-! ### The batches of a run -/

/-- A step's view of the store, and of the terms that the store states. -/
structure Visit where
  quote : Quote
  store : Store

/-- Where a run has got to. -/
structure Course where
  phase : Phase
  /-- The batches that have been accepted so far. -/
  units : List Batch

/-- The batches that a step submits, one after another until one is rejected. -/
def offered (setup : Setup) (quote : Quote) (phase : Phase) (store : Store) : List Batch :=
  match phase with
  | .tokensBootstrapped draft =>
    match setup.complete quote.rent store.accounts.find? draft
        >>= setup.afford store.accounts.find? with
    | .ok full => setup.batches quote.limit full.operations
    | .error _ => []
  | _ => []

/-- One step of a run, on whatever store it finds. -/
def Course.next (scheme : AddressScheme) (setup : Setup) (course : Course) (visit : Visit) :
    Course where
  phase := (setup.step scheme visit.quote course.phase visit.store).phase
  units := course.units
    ++ (visit.store.submitAll (setup.offered visit.quote course.phase visit.store)).accepted

/-- A run with others at work between its steps. -/
def follow (scheme : AddressScheme) (setup : Setup) (visits : List Visit) : Course :=
  visits.foldl (Course.next scheme setup) ⟨.unstarted, []⟩

variable {scheme : AddressScheme} {setup : Setup} {rent : Rent} {reader : Reader}
  {book : AddressBook} {quote : Quote} {phase : Phase} {store : Store} {draft : Draft}
  {operations : List Operation} {pool : Key} {transactions : List UInt64}

/-- All that a step does to a store is to submit the batches that it is said to offer. -/
theorem step_store :
    (setup.step scheme quote phase store).store
      = (store.submitAll (setup.offered quote phase store)).store := by
  cases phase with
  | unstarted => rw [step]; cases setup.derive scheme store.accounts.find? <;> rfl
  | addressesDerived draft =>
    rw [step]; cases setup.provision quote.rent store.accounts.find? draft <;> rfl
  | accountsProvisioned draft =>
    rw [step]; cases setup.bootstrap scheme store.accounts.find? draft <;> rfl
  | tokensBootstrapped draft =>
    rw [step, commit, offered]
    cases setup.complete quote.rent store.accounts.find? draft
        >>= setup.afford store.accounts.find? with
    | error failure => rfl
    | ok full => exact store_submit setup quote.limit full store
  | written | aborted => rfl

theorem takes_of_submit {limit : Option Nat}
    (h : (setup.submit limit draft store).phase = .written pool transactions) :
    pool = draft.book.pool
      ∧ (store.submitAll (setup.batches limit draft.operations)).accepted
        = setup.batches limit draft.operations
      ∧ store.Takes (setup.batches limit draft.operations) transactions
        (setup.submit limit draft store).store := by
  rw [store_submit]
  rw [submit] at h
  split at h
  · cases h
  · next haccepted =>
    obtain ⟨rfl, rfl⟩ := Phase.written.inj h
    obtain ⟨hall, htakes⟩ := Store.takes_submitAll haccepted
    exact ⟨rfl, hall, htakes⟩

/-! ### How a draft is cut -/

/-- Units of at most `bound` operations, of which all but the last have exactly as many. -/
structure Staged (setup : Setup) (bound : Nat) (units : List Batch) : Prop where
  programId_eq : ∀ unit ∈ units, unit.programId = setup.programId
  payer_eq : ∀ unit ∈ units, unit.payer = setup.payer
  ne_nil : ∀ unit ∈ units, unit.operations ≠ []
  length_le : ∀ unit ∈ units, unit.operations.length ≤ bound
  length_eq : ∀ unit ∈ units.dropLast, unit.operations.length = bound

/-- The operations of all units in order. -/
def manifest (units : List Batch) : List Operation := units.flatMap Batch.operations

theorem manifest_batches (setup : Setup) (limit : Option Nat) (operations : List Operation) :
    manifest (setup.batches limit operations) = operations := by
  rw [manifest, batches, List.flatMap_def, List.map_map]
  exact (congrArg List.flatten (List.map_id _)).trans (flatten_chunks _ operations)

theorem staged_batches (setup : Setup) (limit : Option Nat) (operations : List Operation) :
    setup.Staged (max 1 (limit.getD operations.length)) (setup.batches limit operations) where
  programId_eq := List.forall_mem_map.mpr fun _ _ => rfl
  payer_eq := List.forall_mem_map.mpr fun _ _ => rfl
  ne_nil := List.forall_mem_map.mpr fun _ hpart => ne_nil_of_mem_chunks hpart
  length_le := List.forall_mem_map.mpr fun _ hpart => length_le_of_mem_chunks hpart
  length_eq := by
    rw [batches, ← List.map_dropLast]
    exact List.forall_mem_map.mpr fun _ hpart => length_of_mem_dropLast_chunks hpart

/-! ### What the drafting steps leave out -/

/-- The operations that do not count as applied, as things stand. -/
def undone (setup : Setup) (reader : Reader) (operations : List Operation) : List Operation :=
  operations.filter fun op => op.status reader setup.programId ≠ .applied

theorem outstanding_eq_undone (h : setup.Unobstructed reader operations) :
    setup.outstanding reader operations = setup.undone reader operations := by
  refine List.filter_congr fun op hop => ?_
  have hclear := h op hop
  cases hstatus : op.status reader setup.programId with
  | pending | applied => rfl
  | conflict => exact absurd hstatus hclear

theorem undone_of_absent (h : ∀ op ∈ operations, reader op.target = none) :
    setup.undone reader operations = operations := by
  refine List.filter_eq_self.mpr fun op hop => ?_
  rw [Operation.status, h op hop]
  rfl

/-! ### The course of a run -/

/-- The parameters are valid, and the draft has the right addresses and these operations. -/
def Drafted (scheme : AddressScheme) (setup : Setup) (draft : Draft)
    (operations : List Operation) : Prop :=
  setup.parameters.IsValid
    ∧ AddressBook.derive? scheme setup.programId setup.root = some draft.book
    ∧ draft.operations = operations

/-- All that a run dispatches, from the views that its second and its third step had. -/
def dispatch (setup : Setup) (book : AddressBook) (rent : Rent) (second third : Visit) :
    List Operation :=
  setup.undone second.store.accounts.find? (Plan.accountOperations book setup.parameters rent)
    ++ setup.undone third.store.accounts.find? (Plan.tokenOperations book)
    ++ [Plan.recordWrite book setup.parameters rent]

/-- The pool has been written on the fourth of some visits. -/
structure Delivered (scheme : AddressScheme) (setup : Setup) (rent : Rent) (book : AddressBook)
    (first second third last : Visit) (transactions : List UInt64) (units : List Batch) : Prop where
  valid : setup.parameters.IsValid
  derive?_eq : AddressBook.derive? scheme setup.programId setup.root = some book
  manifest_eq : manifest units = setup.dispatch book rent second third
  staged : setup.Staged (max 1 (last.quote.limit.getD (manifest units).length)) units
  takes : last.store.Takes units transactions
    (setup.step scheme last.quote (setup.follow scheme [first, second, third]).phase
      last.store).store

/-- Where a run is after the visits it has made, all under the same rent. -/
def OnCourse (scheme : AddressScheme) (setup : Setup) (rent : Rent) (seen : List Visit) :
    Course → Prop
  | ⟨.unstarted, units⟩ => units = [] ∧ seen = []
  | ⟨.addressesDerived draft, units⟩ =>
    units = [] ∧ ∃ first, seen = [first] ∧ setup.Drafted scheme draft []
  | ⟨.accountsProvisioned draft, units⟩ =>
    units = [] ∧ ∃ first second, seen = [first, second]
      ∧ setup.Drafted scheme draft (setup.undone second.store.accounts.find?
        (Plan.accountOperations draft.book setup.parameters rent))
  | ⟨.tokensBootstrapped draft, units⟩ =>
    units = [] ∧ ∃ first second third, seen = [first, second, third]
      ∧ setup.Drafted scheme draft (setup.undone second.store.accounts.find?
          (Plan.accountOperations draft.book setup.parameters rent)
        ++ setup.undone third.store.accounts.find? (Plan.tokenOperations draft.book))
  | ⟨.written pool transactions, units⟩ =>
    ∃ first second third last rest book, seen = first :: second :: third :: last :: rest
      ∧ pool = book.pool
      ∧ setup.Delivered scheme rent book first second third last transactions units
  | ⟨.aborted _, _⟩ => True

theorem follow_concat (seen : List Visit) (visit : Visit) :
    setup.follow scheme (seen ++ [visit]) = (setup.follow scheme seen).next scheme setup visit :=
  List.foldl_append

theorem onCourse_commit {first second third visit : Visit} (hrent : visit.quote.rent = rent)
    (hdrafted : setup.Drafted scheme draft (setup.undone second.store.accounts.find?
        (Plan.accountOperations draft.book setup.parameters rent)
      ++ setup.undone third.store.accounts.find? (Plan.tokenOperations draft.book)))
    (hcourse : setup.follow scheme [first, second, third] = ⟨.tokensBootstrapped draft, []⟩) :
    OnCourse scheme setup rent [first, second, third, visit]
      (Course.next scheme setup ⟨.tokensBootstrapped draft, []⟩ visit) := by
  obtain ⟨hvalid, hbook, hdraft⟩ := hdrafted
  rw [Course.next]
  cases hfull : setup.complete visit.quote.rent visit.store.accounts.find? draft
      >>= setup.afford visit.store.accounts.find? with
  | error failure =>
    rw [step, commit, hfull]
    trivial
  | ok full =>
    have hstep : setup.step scheme visit.quote (.tokensBootstrapped draft) visit.store
        = setup.submit visit.quote.limit full visit.store := by rw [step, commit, hfull]
    have hoffered : setup.offered visit.quote (.tokensBootstrapped draft) visit.store
        = setup.batches visit.quote.limit full.operations := by rw [offered, hfull]
    rw [hstep, hoffered]
    obtain ⟨failure, haborted⟩ | ⟨⟨transactions, hwritten⟩, -⟩ :=
      submit_cases setup visit.quote.limit full visit.store
    · rw [haborted]
      trivial
    · obtain ⟨-, haccepted, htakes⟩ := takes_of_submit hwritten
      obtain ⟨_, hcomplete, hafford⟩ := Except.bind_eq_ok_iff.mp hfull
      obtain ⟨-, rfl⟩ := afford_eq_ok_iff.mp hafford
      obtain ⟨hclear, rfl⟩ := complete_eq_ok_iff.mp hcomplete
      rw [hwritten, haccepted]
      refine ⟨first, second, third, visit, [], draft.book, rfl, rfl, hvalid, hbook, ?_, ?_, ?_⟩
      · rw [List.nil_append, manifest_batches, hdraft, outstanding_recordWrite hclear, hrent]
        rfl
      · rw [List.nil_append, manifest_batches]
        exact staged_batches ..
      · rw [hcourse, hstep]
        exact htakes

/-- The step lemma: whatever a step finds, it keeps to the course. -/
theorem onCourse_concat {seen : List Visit} {visit : Visit} (hrent : visit.quote.rent = rent)
    (h : OnCourse scheme setup rent seen (setup.follow scheme seen)) :
    OnCourse scheme setup rent (seen ++ [visit]) (setup.follow scheme (seen ++ [visit])) := by
  rw [follow_concat]
  generalize hcourse : setup.follow scheme seen = course at h
  obtain ⟨phase, units⟩ := course
  rw [Course.next]
  cases phase with
  | unstarted =>
    obtain ⟨rfl, rfl⟩ := h
    rw [step]
    cases hderive : setup.derive scheme visit.store.accounts.find? with
    | error failure => trivial
    | ok draft =>
      obtain ⟨hvalid, book, hbook, -, rfl⟩ := derive_eq_ok_iff.mp hderive
      exact ⟨rfl, visit, rfl, hvalid, hbook, rfl⟩
  | addressesDerived draft =>
    obtain ⟨rfl, first, rfl, hvalid, hbook, hdraft⟩ := h
    rw [step, hrent]
    cases hprovision : setup.provision rent visit.store.accounts.find? draft with
    | error failure => trivial
    | ok next =>
      obtain ⟨hclear, rfl⟩ := (provision_eq_ok_iff hvalid).mp hprovision
      refine ⟨rfl, first, visit, rfl, hvalid, hbook, ?_⟩
      rw [hdraft, outstanding_eq_undone hclear, List.nil_append]
  | accountsProvisioned draft =>
    obtain ⟨rfl, first, second, rfl, hvalid, hbook, hdraft⟩ := h
    rw [step]
    cases hbootstrap : setup.bootstrap scheme visit.store.accounts.find? draft with
    | error failure => trivial
    | ok next =>
      obtain ⟨hclear, rfl⟩ := (bootstrap_eq_ok_iff hbook).mp hbootstrap
      refine ⟨rfl, first, second, visit, rfl, hvalid, hbook, ?_⟩
      rw [hdraft, outstanding_eq_undone hclear]
  | tokensBootstrapped draft =>
    obtain ⟨rfl, first, second, third, rfl, hvalid, hbook, hdraft⟩ := h
    exact onCourse_commit hrent ⟨hvalid, hbook, hdraft⟩ hcourse
  | written pool transactions =>
    obtain ⟨first, second, third, last, rest, book, rfl, hpool, hdelivered⟩ := h
    refine ⟨first, second, third, last, rest ++ [visit], book, rfl, hpool, ?_⟩
    exact (List.append_nil units).symm ▸ hdelivered
  | aborted failure => trivial

/-- The run lemma. -/
theorem onCourse_follow (visits : List Visit) (hrent : ∀ visit ∈ visits, visit.quote.rent = rent) :
    OnCourse scheme setup rent visits (setup.follow scheme visits) := by
  suffices hlater : ∀ seen, OnCourse scheme setup rent seen (setup.follow scheme seen) →
      OnCourse scheme setup rent (seen ++ visits) (setup.follow scheme (seen ++ visits)) from
    hlater [] ⟨rfl, rfl⟩
  induction visits with
  | nil =>
    intro seen h
    rwa [List.append_nil]
  | cons visit rest ih =>
    obtain ⟨hvisit, hrest⟩ := List.forall_mem_cons.mp hrent
    intro seen h
    rw [List.append_cons]
    exact ih hrest (seen ++ [visit]) (onCourse_concat hvisit h)

theorem exists_delivered {visits : List Visit} (hrent : ∀ visit ∈ visits, visit.quote.rent = rent)
    (hwritten : (setup.follow scheme visits).phase = .written pool transactions) :
    ∃ first second third last rest book, visits = first :: second :: third :: last :: rest
      ∧ pool = book.pool
      ∧ setup.Delivered scheme rent book first second third last transactions
        (setup.follow scheme visits).units := by
  have hcourse : OnCourse scheme setup rent visits (setup.follow scheme visits) :=
    onCourse_follow visits hrent
  generalize setup.follow scheme visits = course at hcourse hwritten
  obtain ⟨phase, units⟩ := course
  obtain rfl : phase = _ := hwritten
  exact hcourse

theorem dispatch_of_absent {second third : Visit}
    (habsent : ∀ slot ∈ Request.slots,
      second.store.accounts.find? (book.slot slot).address = none
        ∧ third.store.accounts.find? (book.slot slot).address = none) :
    setup.dispatch book rent second third = Plan.all book setup.parameters rent := by
  have htarget {op : Operation} (hop : op ∈ Plan.groundwork book setup.parameters rent) :
      second.store.accounts.find? op.target = none
        ∧ third.store.accounts.find? op.target = none := by
    obtain ⟨slot, hslot, htarget⟩ := Plan.exists_slot (List.mem_append_left _ hop)
    exact htarget ▸ habsent slot hslot
  rw [dispatch, undone_of_absent fun op hop => (htarget (List.mem_append_left _ hop)).1,
    undone_of_absent fun op hop => (htarget (List.mem_append_right _ hop)).2]
  rfl

/-- **A setup dispatches the program's plan.** Let a run find whatever it finds on its visits, under
one rent, and let it have written its pool. Then there is a plan, the one that every job of the
program for the same root and parameters executes. The accepted batches, read in order, are that
plan without exactly those operations that counted as applied on the visit on which they were
planned, the second for the accounts and the third for the tokens, and the record comes last. They
are cut at the limit that the fourth visit states, all but the last at exactly that length; where no
limit is stated, all is in one batch. The store takes them one after the other, and the recorded
transactions are the numbers it gives them. If the nine accounts were absent on the second and the
third visit, the batches are the plan itself. -/
theorem follow_written {visits : List Visit} (hrent : ∀ visit ∈ visits, visit.quote.rent = rent)
    (hwritten : (setup.follow scheme visits).phase = .written pool transactions) :
    ∃ first second third last rest book accounts tokens,
      visits = first :: second :: third :: last :: rest
        ∧ AddressBook.derive? scheme setup.programId setup.root = some book ∧ pool = book.pool
        ∧ Plan.provision book setup.parameters rent = .ok accounts
        ∧ Plan.bootstrap scheme book = .ok tokens
        ∧ let record := Plan.recordWrite book setup.parameters rent
          let units := (setup.follow scheme visits).units
          Plan.operations scheme book setup.parameters rent = .ok (accounts ++ tokens ++ [record])
          ∧ (∀ handles cells job, Chain.prepare scheme setup.programId (some rent) handles cells
              (Request.encode ⟨setup.root, setup.parameters⟩) = .ok job →
                job.operations = accounts ++ tokens ++ [record])
          ∧ manifest units = setup.undone second.store.accounts.find? accounts
            ++ setup.undone third.store.accounts.find? tokens ++ [record]
          ∧ setup.Staged (max 1 (last.quote.limit.getD (manifest units).length)) units
          ∧ last.store.Takes units transactions
            (setup.step scheme last.quote (setup.follow scheme [first, second, third]).phase
              last.store).store
          ∧ ((∀ slot ∈ Request.slots,
              second.store.accounts.find? (book.slot slot).address = none
                ∧ third.store.accounts.find? (book.slot slot).address = none) →
            manifest units = accounts ++ tokens ++ [record]) := by
  obtain ⟨first, second, third, last, rest, book, hvisits, hpool, hdelivered⟩ :=
    exists_delivered hrent hwritten
  obtain ⟨hvalid, hbook, hmanifest, hstaged, htakes⟩ := hdelivered
  refine ⟨first, second, third, last, rest, book, _, _, hvisits, hbook, hpool,
    Plan.provision_eq_ok hvalid, Plan.bootstrap_eq_ok hbook, Plan.operations_eq_ok hbook hvalid,
    fun handles cells job hprepare => ?_, hmanifest, hstaged, htakes, fun habsent => ?_⟩
  · obtain ⟨_, request, hsome, hpassed⟩ := Chain.exists_passed hprepare
    obtain rfl := Option.some.inj hsome
    obtain rfl := Option.some.inj ((Request.decode?_encode _).symm.trans hpassed.decode?_eq)
    obtain rfl := Option.some.inj (hbook.symm.trans hpassed.derive?_eq)
    exact hpassed.operations_eq
  · exact hmanifest.trans (dispatch_of_absent habsent)

/-! ### A run that finds a gift halfway -/

/-- Before the second step somebody sends the reserve all of its rent. -/
def giftedSample : Store := Store.sample.airdrop (AddressBook.sample.address .reserve) 1000000000

def visitsSample : List Visit :=
  [Store.sample, giftedSample, giftedSample, giftedSample].map fun store => ⟨store.quote, store⟩

theorem follow_sample :
    (sample.follow .standard visitsSample).phase
      = .written AddressBook.sample.pool [1, 2, 3, 4] := by
  have hfirst : Course.next .standard sample ⟨.unstarted, []⟩ ⟨Store.sample.quote, Store.sample⟩
      = ⟨.addressesDerived ⟨.sample, []⟩, []⟩ := by
    rw [Course.next, step, derive_sample]
    rfl
  rw [visitsSample, List.map_cons, follow, List.foldl_cons, hfirst]
  decide +kernel

/-- The batches are the plan without the funding of the reserve. -/
theorem follow_written_sample :
    let units := (sample.follow .standard visitsSample).units
    manifest units = (Plan.all .sample .sample Store.sample.rent).erase
        (.fund (AddressBook.sample.address .reserve) (Plan.pinned Store.sample.rent))
      ∧ sample.Staged 4 units
      ∧ ∃ last, giftedSample.Takes units [1, 2, 3, 4] last := by
  have hrent : ∀ visit ∈ visitsSample, visit.quote.rent = Store.sample.rent :=
    List.forall_mem_map.mpr (by simp [giftedSample, Store.quote, Store.airdrop, Store.setAccount])
  obtain ⟨first, second, third, last, rest, book, accounts, tokens, hvisits, hbook, -, haccounts,
    htokens, -, -, hmanifest, hstaged, htakes, -⟩ := follow_written hrent follow_sample
  simp only [visitsSample, List.map_cons, List.map_nil, List.cons.injEq] at hvisits
  obtain ⟨rfl, rfl, rfl, rfl, rfl⟩ := hvisits
  obtain rfl := Option.some.inj (derive?_sample.symm.trans hbook)
  obtain rfl := Except.ok.inj ((Plan.provision_eq_ok (by decide +kernel)).symm.trans haccounts)
  obtain rfl := Except.ok.inj ((Plan.bootstrap_eq_ok derive?_sample).symm.trans htokens)
  refine ⟨hmanifest.trans ?_, hstaged, _, htakes⟩
  decide +kernel

end Setup

end StakePool
