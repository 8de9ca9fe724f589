import StakePool.Operation
import StakePool.Token.Mint
import StakePool.Token.TokenAccount
/-!
# Where an operation stands

An operation of a plan may have been carried out by an earlier attempt, or its target may have been
taken for something else. The status of an operation is read off its target account alone. A vacant
target leaves every operation pending, because an earlier operation of the plan will allocate it.
-/

namespace StakePool

namespace Operation

inductive Status where
  /-- Not carried out yet. -/
  | pending
  /-- Its effect is there. -/
  | applied
  /-- Something else is there. -/
  | conflict
deriving DecidableEq

/-- The status against a vacant target. -/
def statusOfVacant (op : Operation) (target : Account) : Status :=
  match op with
  | fund _ lamports => if lamports ≤ target.lamports then .applied else .pending
  | _ => .pending

/-- The status against a target that is allocated or owned by a program. -/
def statusOfTaken (op : Operation) (target : Account) (programId : Key) : Status :=
  match op with
  | createAccount _ _ space _ owner =>
    if target.owner = owner ∧ target.data.length = space.toNat then .applied else .conflict
  | fund .. => .conflict
  | openMint _ decimals authority freezeAuthority =>
    if target.owner ≠ .tokenProgram then
      .conflict
    else match Mint.ofData? target.data with
      | none => .conflict
      | some mint =>
        if ¬ mint.isInitialized then .pending
        else if mint.decimals = decimals ∧ mint.authority = some authority
            ∧ mint.freezeAuthority = freezeAuthority ∧ mint.supply = 0 then .applied
        else .conflict
  | openTokenAccount _ mint owner =>
    if target.owner ≠ .tokenProgram then
      .conflict
    else match TokenAccount.ofData? target.data with
      | none => .conflict
      | some account =>
        if account.state = .uninitialized then .pending
        else if account.mint = mint ∧ account.owner = owner then .applied
        else .conflict
  | writeRegistry _ header =>
    if target.owner ≠ programId ∨ target.data.length < RegistryHeader.size then
      .conflict
    else
      let written : Bytes := target.data.take RegistryHeader.size
      if written.IsBlank then .pending
      else if written = header.encode then .applied
      else .conflict
  | writeRecord .. =>
    -- A written record means that the pool exists, so no record ever counts as applied.
    if target.owner = programId ∧ target.data.length = PoolRecord.size ∧ target.data.IsBlank then
      .pending
    else
      .conflict

def status (op : Operation) (reader : Reader) (programId : Key) : Status :=
  match reader op.target with
  | none => .pending
  | some target =>
    if target.IsVacant then op.statusOfVacant target else op.statusOfTaken target programId

end Operation

end StakePool
