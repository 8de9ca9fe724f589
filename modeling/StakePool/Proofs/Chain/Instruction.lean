import StakePool.Chain.Ledger
import StakePool.Proofs.Chain.Processing
/-!
# One instruction on the chain

What an instruction that succeeds has done to all accounts, those that it lists and those that it
does not. The cells that are loaded for it `Mirror` the accounts under every key, so the store
accepts the plan of the program, and what is written back holds everything that the store would
hold.
-/

namespace StakePool

namespace Chain

variable {handles : List Handle} {cells : Cells} {view : Key → Account} {accounts : Accounts}

/-! ### Loading and writing back -/

/-- The accounts of a list have been loaded: the cells mirror the accounts, whatever their keys, and
every handle has the flags with which its account is listed first. -/
structure Loads (accounts : Accounts) (accesses : List Access) (handles : List Handle)
    (cells : Cells) : Prop where
  keys_eq : handles.map (·.key) = accesses.map (·.key)
  mirror : Mirror handles (fun _ => True) cells accounts.get
  find?_key : ∀ handle ∈ handles, accesses.find? (·.key = handle.key)
    = some ⟨handle.key, handle.isSigner, handle.isWritable⟩

namespace Loads

variable {accesses : List Access} {access : Access}

theorem nil (accounts : Accounts) : Loads accounts [] [] [] :=
  ⟨rfl, ⟨by simp, by simp, by simp⟩, by simp⟩

theorem again (h : Loads accounts accesses handles cells) {handle : Handle}
    (hhandle : handle ∈ handles) (hkey : handle.key = access.key) :
    Loads accounts (accesses ++ [access]) (handles ++ [handle]) cells := by
  have hmem : ∀ other ∈ handles ++ [handle], other ∈ handles := by
    simpa [or_imp, forall_and] using hhandle
  refine ⟨?keys_eq, ⟨fun other hother => h.mirror.cell_lt other (hmem _ hother),
    fun first hfirst second hsecond =>
      h.mirror.cell_inj first (hmem _ hfirst) second (hmem _ hsecond),
    fun other hother => h.mirror.get_eq other (hmem _ hother)⟩, fun other hother => ?find?_key⟩
  case keys_eq => simp [h.keys_eq, hkey]
  case find?_key => rw [List.find?_append, h.find?_key other (hmem _ hother), Option.some_or]

theorem first (h : Loads accounts accesses handles cells)
    (hnew : access.key ∉ handles.map (·.key)) :
    Loads accounts (accesses ++ [access])
      (handles ++ [⟨access.key, access.isSigner, access.isWritable, cells.length⟩])
      (cells ++ [accounts.get access.key]) := by
  have hcell : ∀ handle ∈ handles, handle.cell ≠ cells.length := fun handle hhandle =>
    Nat.ne_of_lt (h.mirror.cell_lt handle hhandle)
  have hkey : ∀ handle ∈ handles, handle.key ≠ access.key := fun handle hhandle heq =>
    hnew (heq ▸ List.mem_map_of_mem hhandle)
  have hnone : accesses.find? (·.key = access.key) = none := by
    rw [h.keys_eq] at hnew
    exact List.find?_eq_none.mpr fun other hother heq =>
      hnew (of_decide_eq_true heq ▸ List.mem_map_of_mem hother)
  refine ⟨?keys_eq, ⟨?cell_lt, ?cell_inj, ?get_eq⟩, ?find?_key⟩
  case keys_eq => simp [h.keys_eq]
  case cell_lt =>
    simp only [List.forall_mem_append, List.forall_mem_singleton, List.length_append,
      List.length_singleton, Nat.lt_succ_self, and_true]
    exact fun handle hhandle => Nat.lt_succ_of_lt (h.mirror.cell_lt handle hhandle)
  case cell_inj =>
    simp only [List.forall_mem_append, List.forall_mem_singleton, iff_self, and_true]
    refine ⟨fun handle hhandle => ⟨h.mirror.cell_inj handle hhandle, ?_⟩, fun handle hhandle => ?_⟩
    · exact iff_of_false (hcell handle hhandle) (hkey handle hhandle)
    · exact iff_of_false (hcell handle hhandle).symm (hkey handle hhandle).symm
  case get_eq =>
    simp only [List.forall_mem_append, List.forall_mem_singleton, Cells.get]
    refine ⟨fun handle hhandle hmatters => ?_, fun _ => by simp⟩
    rw [List.getD_eq_getElem?_getD, List.getElem?_append_left (h.mirror.cell_lt handle hhandle),
      ← List.getD_eq_getElem?_getD]
    exact h.mirror.get_eq handle hhandle hmatters
  case find?_key =>
    simp only [List.forall_mem_append, List.forall_mem_singleton, List.find?_append]
    exact ⟨fun handle hhandle => by rw [h.find?_key handle hhandle, Option.some_or],
      by simp [hnone]⟩

theorem loadOnto_ofAccesses (rest : List Access) (h : Loads accounts accesses handles cells) :
    ∃ handles' cells', Listed.loadOnto handles cells
        (Listed.ofAccesses accounts (handles.map (·.key)) rest) = some (handles', cells')
      ∧ Loads accounts (accesses ++ rest) handles' cells' := by
  induction rest generalizing accesses handles cells with
  | nil => exact ⟨handles, cells, by simp [Listed.ofAccesses, Listed.loadOnto], by simpa using h⟩
  | cons access rest ih =>
    rw [Listed.ofAccesses]
    cases hseen : (handles.map (·.key)).idxOf? access.key with
    | some index =>
      obtain ⟨hindex, hkey, -⟩ := List.idxOf?_eq_some_iff.mp hseen
      rw [List.length_map] at hindex
      rw [List.getElem_map] at hkey
      obtain ⟨handles', cells', hload, hloads⟩ := ih (h.again (List.getElem_mem hindex) hkey)
      refine ⟨handles', cells', ?_, by simpa using hloads⟩
      simpa [Listed.loadOnto, hindex, hkey] using hload
    | none =>
      obtain ⟨handles', cells', hload, hloads⟩ := ih (h.first (List.idxOf?_eq_none_iff.mp hseen))
      refine ⟨handles', cells', ?_, by simpa using hloads⟩
      simpa [Listed.loadOnto] using hload

end Loads

theorem load?_ofAccesses (accounts : Accounts) (accesses : List Access) :
    ∃ handles cells,
      Listed.load? (Listed.ofAccesses accounts [] accesses) = some (handles, cells)
        ∧ Loads accounts accesses handles cells :=
  (Loads.nil accounts).loadOnto_ofAccesses accesses

namespace Loads

variable {instruction : Instruction}

theorem payer?_eq (h : Loads accounts instruction.accesses handles cells) {handle : Handle}
    (hhead : handles.head? = some handle) (hsigned : handle.isSigner) :
    instruction.payer? = some handle.key := by
  have hfirst := h.find?_key handle (List.mem_of_head? hhead)
  have hkeys := congrArg List.head? h.keys_eq
  rw [List.head?_map, List.head?_map, hhead] at hkeys
  obtain ⟨accesses, data⟩ := instruction
  cases accesses with
  | nil => cases hkeys
  | cons access rest =>
    have hkey : access.key = handle.key := (Option.some.inj hkeys).symm
    have hentry : access = ⟨handle.key, handle.isSigner, handle.isWritable⟩ := by
      simpa [hkey] using hfirst
    rw [hentry]
    exact if_pos hsigned

/-- A request that is sent as it is meant to be presents its accounts as it should. -/
theorem presents {book : AddressBook} {payer : Key}
    (h : Loads accounts (Request.accesses book payer) handles cells) :
    Presents book payer accounts handles cells where
  keys_eq := h.keys_eq
  signed handle hhandle hkey := by
    have hfirst := h.find?_key handle hhandle
    obtain ⟨-, hsigner, -⟩ : payer = handle.key ∧ true = handle.isSigner
        ∧ true = handle.isWritable := by simpa [Request.accesses, hkey] using hfirst
    exact hsigner.symm
  writable access haccess hwritable handle hhandle hkey := by
    -- Only the programs cannot be written to, and they are listed last.
    let listed : List Access := ⟨payer, true, true⟩
      :: Request.slots.map fun slot => ⟨(book.slot slot).address, false, true⟩
    have hall : ∀ entry ∈ listed, entry.isWritable := by simp [listed]
    have hlisted : access ∈ listed := by
      rcases List.mem_append.mp haccess with hlisted | hprogram
      · exact hlisted
      · rcases List.mem_pair.mp hprogram with rfl | rfl
        · cases hwritable
        · cases hwritable
    obtain ⟨found, hmem, hfound, -⟩ := exists_find?_eq_some (·.key = handle.key) hlisted
      hkey.symm
    have hfirst : (listed.find? (·.key = handle.key)).or _ = some _ :=
      List.find?_append ▸ h.find?_key handle hhandle
    rw [hfound, Option.some_or] at hfirst
    obtain rfl := Option.some.inj hfirst
    exact hall _ hmem
  mirror := ⟨h.mirror.cell_lt, h.mirror.cell_inj,
    fun handle hhandle _ => h.mirror.get_eq handle hhandle trivial⟩

end Loads

theorem find?_settle (hget : ∀ handle ∈ handles, cells.get handle = view handle.key) (key : Key) :
    (cells.settle handles accounts).find? key
      = if key ∈ handles.map (·.key) then some (view key) else accounts.find? key := by
  induction handles generalizing accounts with
  | nil => simp [Cells.settle]
  | cons handle rest ih =>
    obtain ⟨hfirst, hrest⟩ := List.forall_mem_cons.mp hget
    change (cells.settle rest (accounts.insert handle.key (cells.get handle))).find? key = _
    rw [ih hrest, Accounts.find?_insert, hfirst]
    by_cases hkey : key = handle.key
    · simp [hkey]
    · simp [hkey]

/-! ### Executing -/

section Execute

variable {scheme : AddressScheme} {programId : Key} {runtime : Runtime} {rent : Rent}
  {instruction : Instruction} {before after : Accounts}

/-- The instruction asks for the pool with these addresses, at this payer's expense. -/
structure AsksFor (scheme : AddressScheme) (programId : Key) (instruction : Instruction)
    (request : Request) (book : AddressBook) (payer : Key) : Prop where
  decode?_eq : Request.decode? instruction.data = some request
  derive?_eq : AddressBook.derive? scheme programId request.root = some book
  payer?_eq : instruction.payer? = some payer

theorem execute?_eq_some
    (h : execute? scheme programId runtime rent before instruction = some after) :
    ∃ handles cells request job last, Loads before instruction.accesses handles cells
      ∧ Passed scheme programId rent handles cells instruction.data request job
      ∧ job.performAll runtime job.operations ⟨cells, []⟩ = .ok last
      ∧ after = last.cells.settle handles before := by
  obtain ⟨handles, cells, hload, hloads⟩ := load?_ofAccesses before instruction.accesses
  rw [execute?, hload] at h
  cases hprepare : prepare scheme programId (some rent) handles cells instruction.data with
  | error failure =>
    simp [process, hprepare] at h
  | ok job =>
  obtain ⟨_, request, hrent, hpassed⟩ := exists_passed hprepare
  obtain rfl := Option.some.inj hrent
  cases hrun : job.performAll runtime job.operations ⟨cells, []⟩ with
  | error stop => simp [process, hprepare, hrun] at h
  | ok last =>
    refine ⟨handles, cells, request, job, last, hloads, hpassed, hrun, ?_⟩
    simpa [process, hprepare, hrun, eq_comm] using h

section Faithful

variable (hfaithful : runtime.IsFaithful scheme programId rent)
include hfaithful

/-- An instruction that succeeds asks for a pool whose account has no data. The store accepts its
plan, and what the store would hold then is held on the chain. -/
theorem exists_apply_of_execute?
    (h : execute? scheme programId runtime rent before instruction = some after) :
    ∃ request book payer, AsksFor scheme programId instruction request book payer
      ∧ (before.get book.pool).data = []
      ∧ (payer ∉ book → book.Distinct → book.address .stMint ≠ .nativeMint → ∃ applied,
        (Batch.mk programId payer (Plan.all book request.parameters rent)).apply rent before
            = .ok applied
          ∧ ∀ key account, applied.find? key = some account → after.find? key = some account) := by
  obtain ⟨handles, cells, request, job, last, hloads, hpassed, hrun, rfl⟩ := execute?_eq_some h
  obtain ⟨hhead, hlisted⟩ := Frame.mem_of_ofHandles? hpassed.ofHandles?_eq
  have hconfig : job.frame.config ∈ handles :=
    hlisted _ (List.mem_cons_of_mem _ List.mem_cons_self)
  have hconfigKey : job.frame.config.key = job.book.pool :=
    hpassed.fits (.config, job.frame.config) List.mem_cons_self
  refine ⟨request, job.book, job.frame.payer.key,
    ⟨hpassed.decode?_eq, hpassed.derive?_eq, hloads.payer?_eq hhead hpassed.signed⟩, ?_, ?_⟩
  · rw [← hconfigKey, ← hloads.mirror.get_eq _ hconfig trivial]
    exact hpassed.data_config
  · intro hpayer hdistinct hnative
    obtain ⟨applied, happly, hmirror⟩ := hpassed.exists_apply hfaithful hpayer hdistinct hnative
      (fun _ _ => trivial) hloads.mirror hrun
    refine ⟨applied, happly, fun key account hfound => ?_⟩
    rw [find?_settle fun handle hhandle => hmirror.get_eq handle hhandle trivial]
    by_cases hkey : key ∈ handles.map (·.key)
    · rw [if_pos hkey, Accounts.get_eq_of_find? hfound]
    · -- An account that is not listed is none that the plan is about.
      rw [if_neg hkey, ← hfound]
      refine (Batch.find?_apply_of_ne (fun op hop heq => hkey ?_) (fun heq => hkey ?_) happly).symm
      · obtain ⟨target, htarget, htargetKey⟩ := (hpassed.inOrder hpayer).exists_locates op.target
          (job.knows_all request.parameters rent op hop).lists
        rw [heq, ← htargetKey]
        exact List.mem_map_of_mem htarget.mem
      · rw [heq]
        exact List.mem_map_of_mem (hlisted _ List.mem_cons_self)

/-- The other way round, a request that is sent as it is meant to be succeeds if the store accepts
its plan and the payer can pay. -/
theorem isSome_execute?_of_apply {root payer : Key} {book : AddressBook} {p : Parameters}
    (hbook : AddressBook.derive? scheme programId root = some book) (hdistinct : book.Distinct)
    (hnative : book.address .stMint ≠ .nativeMint) (hvalid : p.IsValid) (hpayer : payer ∉ book)
    (hdata : (before.get payer).data = []) (howner : (before.get payer).owner = .systemProgram)
    (h : (Batch.mk programId payer (Plan.all book p rent)).apply rent before = .ok after) :
    (execute? scheme programId runtime rent before (.ofRequest book payer ⟨root, p⟩)).isSome := by
  obtain ⟨handles, cells, hload, hloads⟩ :=
    load?_ofAccesses before (Request.accesses book payer)
  obtain ⟨job, horder, rfl, rfl, hoperations, hprepare⟩ :=
    prepare_eq rent hbook hvalid hpayer hloads.presents
  have hnew : ¬ (before.get job.book.pool).data ≠ [] := fun htaken =>
    apply_plan_ne_ok htaken after h
  have hagree := performAll_plan hfaithful horder (AddressBook.derive?_spec hbook).1 hdistinct
    hnative hvalid (hloads.presents.tracks horder hdata howner)
  rw [h] at hagree
  rw [if_neg hnew] at hprepare
  cases hrun : job.performAll runtime (Plan.all job.book p rent) ⟨cells, []⟩ with
  | error => exact (hrun ▸ hagree).elim
  | ok last =>
    rw [execute?, Instruction.ofRequest, hload]
    simp [process, hprepare, hoperations, hrun]

end Faithful

end Execute

end Chain

end StakePool
