import StakePool.Chain.Machine
/-!
# Executing a request on the chain

The program checks a request and the accounts it came with before it does anything, draws up the same
plan that a setup would submit to a store, and executes it operation by operation. It writes headers
and the record itself and leaves the rest to the system program and the token program.
-/

namespace StakePool

namespace Chain

/-- The accounts of a request, by their places in its account list. -/
structure Frame where
  payer : Handle
  config : Handle
  reserve : Handle
  solLeg : Handle
  stakeList : Handle
  validatorList : Handle
  stMint : Handle
  lpMint : Handle
  stLeg : Handle
  treasury : Handle
  tokenProgram : Handle
  systemProgram : Handle
deriving DecidableEq

namespace Frame

/-- Takes the first twelve handles and leaves the rest alone. -/
def ofHandles? : List Handle → Option Frame
  | payer :: config :: reserve :: solLeg :: stakeList :: validatorList :: stMint :: lpMint ::
      stLeg :: treasury :: tokenProgram :: systemProgram :: _ =>
    some ⟨payer, config, reserve, solLeg, stakeList, validatorList, stMint, lpMint, stLeg, treasury,
      tokenProgram, systemProgram⟩
  | _ => none

variable (frame : Frame)

def pool : List (Slot × Handle) := [
  (.config, frame.config),
  (.role .reserve, frame.reserve),
  (.role .solLeg, frame.solLeg),
  (.role .stakeList, frame.stakeList),
  (.role .validatorList, frame.validatorList),
  (.role .stMint, frame.stMint),
  (.role .lpMint, frame.lpMint),
  (.role .stLeg, frame.stLeg),
  (.role .treasury, frame.treasury)]

/-- The pool account with a given key. -/
def find? (address : Key) : Option Handle :=
  (frame.pool.find? (·.2.key = address)).map (·.2)

end Frame

/-- A request that has passed all checks, with the operations it amounts to. -/
structure Job where
  frame : Frame
  book : AddressBook
  operations : List Operation

variable (scheme : AddressScheme) (programId : Key)

/-- The checks. Both programs are verified before any call that the program signs for. -/
def prepare (rent? : Option Rent) (handles : List Handle) (cells : Cells) (data : Bytes) :
    Except Failure Job := do
  let some request := Request.decode? data | throw .malformedRequest
  let some frame := Frame.ofHandles? handles | throw .missingAccounts
  if ¬ frame.payer.isSigner then throw .payerNotSigner
  if let some breach := request.parameters.breach? then throw (.invalidParameters breach)
  let some book := AddressBook.derive? scheme programId request.root | throw .underivable
  if let some (slot, handle) :=
      frame.pool.find? fun (slot, handle) => handle.key ≠ (book.slot slot).address then
    throw (.wrongAddress slot handle.key (book.slot slot).address)
  if (cells.get frame.config).data ≠ [] then throw .poolExists
  if frame.tokenProgram.key ≠ .tokenProgram then
    throw (.wrongTokenProgram frame.tokenProgram.key)
  if frame.systemProgram.key ≠ .systemProgram then
    throw (.wrongSystemProgram frame.systemProgram.key)
  let some rent := rent? | throw .rentUnavailable
  match Plan.operations scheme book request.parameters rent with
  | .error fault => throw (.unplannable fault)
  | .ok operations => return { frame, book, operations }

variable (runtime : Runtime)

namespace Job

variable (job : Job)

/-- Create an account at a derived address. The system program refuses to create an account that
holds lamports, and anyone may have sent some ahead; such an account is topped up, allocated and
assigned instead. -/
def createAccount (target : Handle) (lamports space : UInt64) (owner : Key) (seeds : List Bytes)
    (machine : Machine) : Except Stop Machine :=
  let payer := job.frame.payer
  let system := job.frame.systemProgram
  let account := machine.account target
  if account.lamports = 0 then
    machine.invoke runtime (.createAccount payer target system lamports space owner seeds)
  else if ¬ account.IsVacant then
    machine.stop (.accountInUse target.key)
  else do
    let topUp := Saturating.sub64 lamports account.lamports
    let machine ←
      if topUp = 0 then .ok machine
      else machine.invoke runtime (.transfer payer target system topUp)
    let machine ← machine.invoke runtime (.allocate target system space seeds)
    machine.invoke runtime (.assign target system owner seeds)

def locate (address : Key) (machine : Machine) : Except Stop Handle :=
  match job.frame.find? address with
  | some handle => .ok handle
  | none => machine.stop (.notListed address)

def perform (op : Operation) (machine : Machine) : Except Stop Machine :=
  match op with
  | .createAccount slot address space lamports owner => do
    let target ← job.locate address machine
    job.createAccount runtime target lamports space owner (job.book.signerSeeds slot) machine
  | .fund address lamports => do
    let target ← job.locate address machine
    let account := machine.account target
    if ¬ account.IsVacant then
      machine.stop (.notPlain address)
    else
      let topUp := Saturating.sub64 lamports account.lamports
      if topUp = 0 then
        return machine
      else
        machine.invoke runtime (.transfer job.frame.payer target job.frame.systemProgram topUp)
  | .openMint mint decimals authority freezeAuthority => do
    let target ← job.locate mint machine
    machine.invoke runtime
      (.openMint target job.frame.tokenProgram decimals authority freezeAuthority)
  | .openTokenAccount address mint owner => do
    let target ← job.locate address machine
    let mintHandle ← job.locate mint machine
    machine.invoke runtime (.openTokenAccount target mintHandle job.frame.tokenProgram owner)
  | .writeRegistry address header => do
    let target ← job.locate address machine
    let data := (machine.account target).data
    if data.length < RegistryHeader.size then
      machine.stop (.wrongSize address)
    else
      return machine.write target (Bytes.overwrite header.encode data)
  | .writeRecord address record => do
    let target ← job.locate address machine
    if (machine.account target).data.length ≠ PoolRecord.size then
      machine.stop (.wrongSize address)
    else
      return machine.write target record.encode

/-- The operations one after another, as far as the first that fails. -/
def performAll (operations : List Operation) (machine : Machine) : Except Stop Machine :=
  operations.foldlM (fun machine op => job.perform runtime op machine) machine

/-- What the log says of a pool that has been set up. -/
def notice : String :=
  let pool := job.frame.config.key
  let root := job.book.root
  let stMint := job.frame.stMint.key
  let lpMint := job.frame.lpMint.key
  s!"Initialized pool {pool} (root {root}, st mint {stMint}, lp mint {lpMint})"

end Job

/-- How an instruction ended. -/
structure Verdict where
  result : Except Failure Unit
  machine : Machine
  log : List String

/-- Execute an instruction. -/
def process (rent? : Option Rent) (handles : List Handle) (cells : Cells) (data : Bytes) :
    Verdict :=
  let fresh : Machine := ⟨cells, []⟩
  match prepare scheme programId rent? handles cells data with
  | .error failure => ⟨.error failure, fresh, failure.notice?.toList⟩
  | .ok job =>
    match job.performAll runtime job.operations fresh with
    | .error stop => ⟨.error stop.failure, stop.machine, stop.failure.notice?.toList⟩
    | .ok machine => ⟨.ok (), machine, [job.notice]⟩

end Chain

end StakePool
