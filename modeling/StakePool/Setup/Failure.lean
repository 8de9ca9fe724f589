import StakePool.Plan
import StakePool.Store.Rejection
/-!
# Failed setups

Why the setup of a pool was given up. Users see a `Report` of three parts, the stage, the address
concerned and the fault; the log gets one more line with the details, unless the report says it all.
-/

namespace StakePool

namespace Setup

inductive Stage where
  | derive
  | provision
  | bootstrap
  | commit
deriving DecidableEq

namespace Stage

def all : List Stage := [derive, provision, bootstrap, commit]

def text : Stage → String
  | derive => "derive"
  | provision => "provision"
  | bootstrap => "bootstrap"
  | commit => "commit"

instance : ToString Stage := ⟨text⟩

end Stage

structure Report where
  stage : Stage
  address? : Option Key
  fault : Fault
deriving DecidableEq

def Report.message (report : Report) : String :=
  let place := match report.address? with
    | some address => s!" at {address}"
    | none => ""
  s!"{report.stage} failed{place}: " ++ report.fault.message

inductive Failure where
  | invalidParameters (breach : Parameters.Breach)
  | underivable
  /-- The pool exists already. -/
  | poolExists (pool : Key)
  | unplannable (stage : Stage) (fault : PlanFault)
  /-- Something that no earlier attempt left there occupies an address of the pool. -/
  | occupied (stage : Stage) (address : Key)
  | underfunded (payer : Key) (available needed : UInt64)
  /-- The store rejected the batch of a given index. -/
  | rejected (index : Nat) (rejection : Rejection)
deriving DecidableEq

namespace Failure

def report : Failure → Report
  | invalidParameters _ => ⟨.derive, none, .invalidConfig⟩
  | underivable => ⟨.derive, none, .derivationExhausted⟩
  | poolExists pool => ⟨.derive, some pool, .accountAlreadyInitialized⟩
  | unplannable stage fault => ⟨stage, none, fault.fault⟩
  | occupied stage address => ⟨stage, some address, .accountAlreadyInitialized⟩
  | underfunded payer .. => ⟨.commit, some payer, .insufficientFunding⟩
  | rejected _ rejection => ⟨.commit, rejection.address?, rejection.fault⟩

def notice? : Failure → Option String
  | invalidParameters breach => some ("Error: invalid config: " ++ breach.message)
  | underivable => none
  | poolExists pool => some s!"Error: pool {pool} already initialized"
  | unplannable _ fault => fault.notice?
  | occupied _ address => some s!"Error: account {address} already in use"
  | underfunded payer available needed =>
    some s!"Error: payer {payer} has {available} lamports, initialization needs {needed}"
  | rejected index rejection => some s!"Error: ledger rejected stage {index}: {rejection}"

/-- The lines that a failure adds to the log. -/
def log (failure : Failure) : List String :=
  failure.notice?.toList ++ ["Initialization aborted: " ++ failure.report.message]

end Failure

end Setup

end StakePool
