import StakePool.Chain.Failure
import StakePool.Chain.Invocation
/-!
# The running program

A `Machine` keeps the accounts of an instruction and everything that the program has done to them so
far, its own writes and its invocations. It survives a failure inside `Stop`, so that what happened
before the failure can be seen.
-/

namespace StakePool

namespace Chain

/-- An effect that the program has had or tried to have. -/
inductive Event where
  /-- An invocation, and the error if it failed. -/
  | invocation (invocation : Invocation) (error? : Option ChainError)
  | write (handle : Handle) (data : Bytes)
deriving DecidableEq

structure Machine where
  cells : Cells
  trace : List Event
deriving DecidableEq

/-- A failure and how things stood when it happened. -/
structure Stop where
  failure : Failure
  machine : Machine
deriving DecidableEq

namespace Machine

variable (machine : Machine)

def invocations : List Invocation :=
  machine.trace.filterMap fun
    | .invocation invocation _ => some invocation
    | .write .. => none

def account (handle : Handle) : Account := machine.cells.get handle

def stop {α : Type} (failure : Failure) : Except Stop α := .error ⟨failure, machine⟩

def invoke (runtime : Runtime) (invocation : Invocation) : Except Stop Machine :=
  match runtime.run machine.invocations invocation machine.cells with
  | .ok cells => .ok ⟨cells, machine.trace ++ [.invocation invocation none]⟩
  | .error error =>
    .error ⟨.invocation error,
      ⟨machine.cells, machine.trace ++ [.invocation invocation (some error)]⟩⟩

def write (handle : Handle) (data : Bytes) : Machine where
  cells := machine.cells.put handle { machine.account handle with data }
  trace := machine.trace ++ [.write handle data]

end Machine

end Chain

end StakePool
