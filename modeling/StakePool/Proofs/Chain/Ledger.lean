import StakePool.Proofs.Chain.Instruction
import StakePool.Proofs.Setup.Audited
/-!
# Pools on the chain

An instruction that succeeds founds a pool: everything that its plan asks for is there, so the audit
finds nothing. No instruction takes any of it away. One that asks for the same pool is refused,
since the account of the pool has data by then, and one that asks for another pool changes only the
accounts of that pool and of its payer. So every pool is founded at most once, and it stays as it
should be.
-/

namespace StakePool

theorem Operation.status_of_kept {op : Operation} {programId : Key} {reader kept : Reader}
    (hkept : ∀ account, reader op.target = some account → kept op.target = some account)
    (h : op.status reader programId = .applied) : op.status kept programId = .applied := by
  cases hfound : reader op.target with
  | none =>
    rw [status, hfound] at h
    cases h
  | some account => rwa [status_congr ((hkept account hfound).trans hfound.symm)]

namespace Chain

/-- The groundwork of a pool has been carried out and its record has been written. -/
structure Founded (rent : Rent) (book : AddressBook) (p : Parameters) (reader : Reader) : Prop where
  status_groundwork : ∀ op ∈ Plan.groundwork book p rent,
    op.status reader book.programId = .applied
  exists_record : ∃ account, reader book.pool = some account ∧ account.owner = book.programId
    ∧ account.data = (PoolRecord.initial book p (Plan.pinned rent)).encode

variable {scheme : AddressScheme} {programId root payer : Key} {runtime : Runtime} {rent : Rent}
  {book : AddressBook} {p : Parameters} {accounts before after : Accounts}

namespace Founded

theorem of_apply (hdistinct : book.Distinct) (hpayer : payer ∉ book) (hrent : 0 < Plan.pinned rent)
    (h : (Batch.mk book.programId payer (Plan.all book p rent)).apply rent before = .ok after) :
    Founded rent book p after.find? where
  status_groundwork op hop := by
    have hmem : op ∈ Plan.all book p rent := List.mem_append_left _ hop
    rw [Plan.status_of_apply hdistinct hpayer (fun _ hother => hother) hmem
      (fun _ => Plan.settles_groundwork hrent op hop) h]
    exact if_pos hmem
  exists_record := Setup.find?_pool_of_apply h

theorem of_kept {reader kept : Reader} (h : Founded rent book p reader)
    (hkept : ∀ key ∈ book, ∀ account, reader key = some account → kept key = some account) :
    Founded rent book p kept where
  status_groundwork op hop :=
    Operation.status_of_kept (hkept _ (Plan.target_mem (List.mem_append_left _ hop)))
      (h.status_groundwork op hop)
  exists_record := by
    obtain ⟨account, hfound, hrecord⟩ := h.exists_record
    exact ⟨account, hkept _ book.mem_pool account hfound, hrecord⟩

theorem audit_eq_nil {reader : Reader} (h : Founded rent book p reader)
    (hbook : AddressBook.derive? scheme programId root = some book) :
    audit scheme reader programId book.pool = [] := by
  obtain ⟨rfl, -⟩ := AddressBook.derive?_spec hbook
  obtain ⟨account, hfound, howner, hdata⟩ := h.exists_record
  exact Audit.audit_of_applied hbook h.status_groundwork hfound howner hdata

theorem of_setup {setup : Setup} {store : Store} {pool : Key} {transactions : List UInt64}
    (hbook : AddressBook.derive? scheme setup.programId setup.root = some book)
    (hdistinct : book.Distinct) (hpayer : setup.payer ∉ book) (hrent : 0 < Plan.pinned store.rent)
    (hwritten : (setup.execute scheme store).phase = .written pool transactions) :
    Founded store.rent book setup.parameters
      (setup.execute scheme store).store.accounts.find? := by
  obtain ⟨rfl, -, -, hclear, happly⟩ := Setup.execute_written hbook hwritten
  have happlied := Setup.status_of_apply_agenda hbook hdistinct hpayer hrent hclear happly
  rw [Setup.agenda_eq_append hclear] at happly
  obtain ⟨hprogram, -⟩ := AddressBook.derive?_spec hbook
  exact ⟨hprogram ▸ happlied, hprogram ▸ Setup.find?_pool_of_apply happly⟩

theorem data_pool_ne_nil (h : Founded rent book p accounts.find?) :
    (accounts.get book.pool).data ≠ [] := by
  obtain ⟨account, hfound, -, hdata⟩ := h.exists_record
  have hlength : (PoolRecord.initial book p (Plan.pinned rent)).encode.length = PoolRecord.size :=
    PoolRecord.layout.length_encode _
  rw [Accounts.get_eq_of_find? hfound, hdata]
  intro hnil
  rw [hnil] at hlength
  cases hlength

end Founded

/-! ### Instructions in a row -/

variable {instructions : List Instruction} {instruction : Instruction}

/-- The book has the derived addresses of a pool that some instruction asks for. -/
def Involves (scheme : AddressScheme) (programId : Key) (instructions : List Instruction)
    (book : AddressBook) : Prop :=
  ∃ instruction ∈ instructions, ∃ root, instruction.root? = some root
    ∧ AddressBook.derive? scheme programId root = some book

/-- The derived addresses of all pools that are asked for differ, and none of them is asked to
pay. -/
structure Separate (scheme : AddressScheme) (programId : Key) (instructions : List Instruction) :
    Prop where
  distinct : ∀ first second, Involves scheme programId instructions first →
    Involves scheme programId instructions second → ∀ slot other,
      (first.slot slot).address = (second.slot other).address → first = second ∧ slot = other
  payer_not_mem : ∀ instruction ∈ instructions, ∀ payer, instruction.payer? = some payer →
    ∀ book, Involves scheme programId instructions book → payer ∉ book

/-- The instruction at an index asks for the pool of a root, and it succeeds when its turn comes. -/
def Founds (scheme : AddressScheme) (programId : Key) (runtime : Runtime) (rent : Rent)
    (instructions : List Instruction) (accounts : Accounts) (root : Key) (index : Nat) : Prop :=
  ∃ instruction, instructions[index]? = some instruction ∧ instruction.root? = some root
    ∧ (execute? scheme programId runtime rent
      (run scheme programId runtime rent (instructions.take index) accounts) instruction).isSome

namespace AsksFor

variable {request : Request}

theorem root?_eq (h : AsksFor scheme programId instruction request book payer) :
    instruction.root? = some request.root := by
  rw [Instruction.root?, h.decode?_eq, Option.map_some]

theorem involves (h : AsksFor scheme programId instruction request book payer)
    (hmem : instruction ∈ instructions) : Involves scheme programId instructions book :=
  ⟨instruction, hmem, request.root, h.root?_eq, h.derive?_eq⟩

end AsksFor

theorem ne_nativeMint_of_derive? (hnative : ¬ scheme.OffCurve .nativeMint)
    (hbook : AddressBook.derive? scheme programId root = some book) :
    book.address .stMint ≠ .nativeMint := by
  intro heq
  have hoff := AddressBook.offCurve_slot hbook (.role .stMint)
  exact hnative (heq ▸ hoff)

section Faithful

variable (hfaithful : runtime.IsFaithful scheme programId rent)
include hfaithful

/-- A pool that has been founded is not founded again. -/
theorem execute?_of_founded (hroot : instruction.root? = some root)
    (hbook : AddressBook.derive? scheme programId root = some book)
    (h : Founded rent book p accounts.find?) :
    execute? scheme programId runtime rent accounts instruction = none := by
  by_contra hsome
  obtain ⟨after, hexecute⟩ := Option.ne_none_iff_exists'.mp hsome
  obtain ⟨request, other, payer, hasks, hdata, -⟩ := exists_apply_of_execute? hfaithful hexecute
  obtain rfl := Option.some.inj (hasks.root?_eq.symm.trans hroot)
  obtain rfl := Option.some.inj (hasks.derive?_eq.symm.trans hbook)
  exact h.data_pool_ne_nil hdata

section Separate

variable (hnative : ¬ scheme.OffCurve .nativeMint)
  (hseparate : Separate scheme programId instructions) (hmem : instruction ∈ instructions)
include hseparate

omit hfaithful in
theorem Involves.distinct (hbook : Involves scheme programId instructions book) : book.Distinct :=
  fun slot other heq => (hseparate.distinct book book hbook hbook slot other heq).2

include hnative hmem

/-- An instruction that succeeds founds the pool that it asks for. -/
theorem founded_of_execute? (hrent : 0 < Plan.pinned rent)
    (hroot : instruction.root? = some root)
    (h : execute? scheme programId runtime rent before instruction = some after) :
    ∃ book p, AddressBook.derive? scheme programId root = some book
      ∧ Founded rent book p after.find? := by
  obtain ⟨request, book, payer, hasks, -, happly⟩ := exists_apply_of_execute? hfaithful h
  obtain rfl := Option.some.inj (hasks.root?_eq.symm.trans hroot)
  have hinvolved := hasks.involves hmem
  have hpayer := hseparate.payer_not_mem instruction hmem payer hasks.payer?_eq book hinvolved
  have hdistinct := hinvolved.distinct hseparate
  obtain ⟨applied, hplan, hkept⟩ :=
    happly hpayer hdistinct (ne_nativeMint_of_derive? hnative hasks.derive?_eq)
  obtain ⟨rfl, -⟩ := AddressBook.derive?_spec hasks.derive?_eq
  exact ⟨book, request.parameters, hasks.derive?_eq,
    (Founded.of_apply hdistinct hpayer hrent hplan).of_kept fun key _ => hkept key⟩

/-- The step lemma: no instruction undoes a pool that has been founded. -/
theorem founded_next (hbook : Involves scheme programId instructions book)
    (h : Founded rent book p accounts.find?) :
    Founded rent book p (next scheme programId runtime rent accounts instruction).find? := by
  rw [next]
  cases hexecute : execute? scheme programId runtime rent accounts instruction with
  | none => exact h
  | some after =>
    obtain ⟨request, other, payer, hasks, hdata, happly⟩ :=
      exists_apply_of_execute? hfaithful hexecute
    have hother := hasks.involves hmem
    have hpayer := hseparate.payer_not_mem instruction hmem payer hasks.payer?_eq
    have hnot : other ≠ book := by
      rintro rfl
      exact h.data_pool_ne_nil hdata
    obtain ⟨applied, hplan, hkept⟩ := happly (hpayer other hother) (hother.distinct hseparate)
      (ne_nativeMint_of_derive? hnative hasks.derive?_eq)
    refine h.of_kept fun key hkey account hfound => hkept key account ?_
    rw [← hfound]
    refine Batch.find?_apply_of_ne (fun op hop heq => ?_) (fun heq => ?_) hplan
    · obtain ⟨slot, hslot⟩ := hkey
      obtain ⟨target, htarget⟩ := Plan.target_mem hop
      exact hnot (hseparate.distinct other book hother hbook target slot
        (htarget.trans (heq.symm.trans hslot.symm))).1
    · obtain rfl : key = payer := heq
      exact hpayer book hbook hkey

omit hmem in
/-- The run lemma: nor does any number of them. -/
theorem founded_run {rest : List Instruction} (hrest : ∀ later ∈ rest, later ∈ instructions)
    (hbook : Involves scheme programId instructions book)
    (h : Founded rent book p accounts.find?) :
    Founded rent book p (run scheme programId runtime rent rest accounts).find? := by
  induction rest generalizing accounts with
  | nil => exact h
  | cons later rest ih =>
    obtain ⟨hlater, hrest⟩ := List.forall_mem_cons.mp hrest
    exact ih hrest (founded_next hfaithful hnative hseparate hlater hbook h)

omit hmem in
theorem Founds.founded (hrent : 0 < Plan.pinned rent) {index later : Nat}
    (h : Founds scheme programId runtime rent instructions accounts root index)
    (hlater : index < later) :
    ∃ book p, AddressBook.derive? scheme programId root = some book
      ∧ Founded rent book p
        (run scheme programId runtime rent (instructions.take later) accounts).find? := by
  obtain ⟨instruction, hfound, hroot, hsome⟩ := h
  obtain ⟨after, hexecute⟩ := Option.isSome_iff_exists.mp hsome
  have hmem : instruction ∈ instructions := List.mem_of_getElem? hfound
  obtain ⟨book, p, hbook, hfounded⟩ :=
    founded_of_execute? hfaithful hnative hseparate hmem hrent hroot hexecute
  refine ⟨book, p, hbook, ?_⟩
  -- The first `later` instructions are those before the index, the one there, and some more.
  have hafter :
      run scheme programId runtime rent (instructions.take (index + 1)) accounts = after := by
    rw [List.take_add_one, hfound, run, List.foldl_append]
    exact congrArg (Option.getD · _) hexecute
  have hsplit := List.take_append_drop (index + 1) (instructions.take later)
  rw [List.take_take, Nat.min_eq_left hlater] at hsplit
  rw [← hsplit, run, List.foldl_append]
  rw [run] at hafter
  rw [hafter]
  refine founded_run hfaithful hnative hseparate (fun other hother => ?_)
    ⟨instruction, hmem, root, hroot, hbook⟩ hfounded
  exact List.mem_of_mem_take (List.mem_of_mem_drop hother)

end Separate

/-- A pool is founded once and for all. Whatever the accounts are and whatever instructions are sent
to the program, and whatever the two invoked programs do as long as they do what they are documented
to do, at most one instruction founds the pool of a root, and at every point after that the audit of
this pool finds nothing. -/
theorem founded_once_for_all (hnative : ¬ scheme.OffCurve .nativeMint)
    (instructions : List Instruction) (accounts : Accounts) (root : Key)
    (hrent : 0 < Plan.pinned rent) (hseparate : Separate scheme programId instructions) :
    (∀ first second, Founds scheme programId runtime rent instructions accounts root first →
        Founds scheme programId runtime rent instructions accounts root second → first = second)
      ∧ ∀ index later, Founds scheme programId runtime rent instructions accounts root index →
        index < later → ∃ config, AddressBook.findConfig? scheme programId root = some config
          ∧ audit scheme (run scheme programId runtime rent (instructions.take later) accounts).find?
            programId config.address = [] := by
  refine ⟨fun first second hfirst hsecond => ?_, fun index later hfounds hlater => ?_⟩
  · have hrefused {index later : Nat}
        (hindex : Founds scheme programId runtime rent instructions accounts root index)
        (hagain : Founds scheme programId runtime rent instructions accounts root later) :
        ¬ index < later := fun hlater => by
      obtain ⟨book, p, hbook, hfounded⟩ := hindex.founded hfaithful hnative hseparate hrent hlater
      obtain ⟨instruction, -, hroot, hsome⟩ := hagain
      rw [execute?_of_founded hfaithful hroot hbook hfounded] at hsome
      cases hsome
    exact Nat.le_antisymm (Nat.not_lt.mp (hrefused hsecond hfirst))
      (Nat.not_lt.mp (hrefused hfirst hsecond))
  · obtain ⟨book, p, hbook, hfounded⟩ := hfounds.founded hfaithful hnative hseparate hrent hlater
    obtain ⟨-, -, hconfig, -⟩ := AddressBook.derive?_spec hbook
    exact ⟨book.config, hconfig, hfounded.audit_eq_nil hbook⟩

end Faithful

/-! ### The request of one pool, sent twice -/

def sampleInstruction : Instruction :=
  .ofRequest .sample Setup.sample.payer ⟨Setup.sample.root, .sample⟩

def sampleInstructions : List Instruction := [sampleInstruction, sampleInstruction]

theorem root?_sampleInstruction : sampleInstruction.root? = some Setup.sample.root := by
  rw [sampleInstruction, Instruction.root?, Instruction.ofRequest, Request.decode?_encode]
  rfl

theorem separate_sample : Separate .standard .stakePoolProgram sampleInstructions := by
  have hmem {instruction : Instruction} (h : instruction ∈ sampleInstructions) :
      instruction = sampleInstruction := by simpa [sampleInstructions] using h
  have hsample {book : AddressBook}
      (h : Involves .standard .stakePoolProgram sampleInstructions book) : book = .sample := by
    obtain ⟨instruction, hinstruction, root, hroot, hbook⟩ := h
    obtain rfl := hmem hinstruction
    obtain rfl := Option.some.inj (hroot.symm.trans root?_sampleInstruction)
    exact Option.some.inj (hbook.symm.trans AddressBook.derive?_sample)
  constructor
  · intro first second hfirst hsecond slot other heq
    obtain rfl := hsample hfirst
    obtain rfl := hsample hsecond
    exact ⟨rfl, AddressBook.distinct_sample slot other heq⟩
  · intro instruction hinstruction payer hpayer book hbook
    obtain rfl := hmem hinstruction
    obtain rfl := hsample hbook
    obtain rfl := Option.some.inj hpayer
    decide +kernel

/-- The invoked programs as they are on the chain. -/
def sampleRuntime : Runtime := .faithful .standard .stakePoolProgram sampleStore.rent

theorem sampleRuntime_isFaithful :
    sampleRuntime.IsFaithful .standard .stakePoolProgram sampleStore.rent :=
  Runtime.faithful_isFaithful ..

theorem not_offCurve_nativeMint : ¬ AddressScheme.standard.OffCurve .nativeMint := by
  decide +kernel

theorem founds_sample :
    Founds .standard .stakePoolProgram sampleRuntime sampleStore.rent sampleInstructions
      sampleStore.accounts Setup.sample.root 0 := by
  have hvalid : Parameters.sample.IsValid := by decide +kernel
  have haccepted : ((Batch.mk .stakePoolProgram Setup.sample.payer
      (Plan.all .sample .sample sampleStore.rent)).apply sampleStore.rent
        sampleStore.accounts).isOk := by decide +kernel
  obtain ⟨after, hafter⟩ := Except.exists_of_isOk haccepted
  exact ⟨sampleInstruction, rfl, root?_sampleInstruction,
    isSome_execute?_of_apply sampleRuntime_isFaithful AddressBook.derive?_sample
      AddressBook.distinct_sample (by decide +kernel) hvalid (by decide +kernel)
      (by decide +kernel) (by decide +kernel) hafter⟩

theorem founded_once_for_all_sample :
    sampleRuntime.IsFaithful .standard .stakePoolProgram sampleStore.rent
      ∧ ¬ AddressScheme.standard.OffCurve .nativeMint
      ∧ 0 < Plan.pinned sampleStore.rent
      ∧ Separate .standard .stakePoolProgram sampleInstructions
      ∧ Founds .standard .stakePoolProgram sampleRuntime sampleStore.rent sampleInstructions
        sampleStore.accounts Setup.sample.root 0
      ∧ ¬ Founds .standard .stakePoolProgram sampleRuntime sampleStore.rent sampleInstructions
        sampleStore.accounts Setup.sample.root 1
      ∧ ∃ config, AddressBook.findConfig? .standard .stakePoolProgram Setup.sample.root
          = some config
        ∧ audit .standard (run .standard .stakePoolProgram sampleRuntime sampleStore.rent
          sampleInstructions sampleStore.accounts).find? .stakePoolProgram config.address = [] := by
  have hrent : 0 < Plan.pinned sampleStore.rent := Plan.pinned_standard
  obtain ⟨honce, haudited⟩ := founded_once_for_all sampleRuntime_isFaithful not_offCurve_nativeMint
    sampleInstructions sampleStore.accounts Setup.sample.root hrent separate_sample
  exact ⟨sampleRuntime_isFaithful, not_offCurve_nativeMint, hrent, separate_sample, founds_sample,
    fun hagain => absurd (honce 0 1 founds_sample hagain) Nat.zero_ne_one,
    haudited 0 2 founds_sample Nat.zero_lt_two⟩

end Chain

end StakePool
