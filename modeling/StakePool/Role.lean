import StakePool.Bytes
/-!
# The places of a pool

A pool is a configuration record and thirteen roles around it. Eight roles are accounts; the other
five are authorities, addresses that only ever sign.
-/

namespace StakePool

inductive Role where
  /-- Unstaked SOL. -/
  | reserve
  /-- The SOL side of the liquidity pool. -/
  | solLeg
  /-- Owner of the token side of the liquidity pool. -/
  | stLegAuthority
  /-- The token side of the liquidity pool. -/
  | stLeg
  /-- Mint of the staked SOL token. -/
  | stMint
  | stMintAuthority
  /-- Mint of the liquidity pool's shares. -/
  | lpMint
  | lpMintAuthority
  /-- The pool's own staked SOL tokens, owned by the configuration record. -/
  | treasury
  | stakeList
  | validatorList
  /-- Stake authority over the delegated stake accounts. -/
  | depositAuthority
  /-- Withdraw authority over the delegated stake accounts. -/
  | withdrawAuthority
deriving DecidableEq

namespace Role

def all : List Role :=
  [reserve, solLeg, stLegAuthority, stLeg, stMint, stMintAuthority, lpMint, lpMintAuthority,
    treasury, stakeList, validatorList, depositAuthority, withdrawAuthority]

theorem mem_all (role : Role) : role ∈ all := by cases role <;> decide

/-- Tells the role apart among the addresses of one pool. -/
def seed : Role → Bytes
  | reserve => .ascii "reserve"
  | solLeg => .ascii "liq_sol"
  | stLegAuthority => .ascii "liq_st_sol_authority"
  | stLeg => .ascii "liq_st_sol"
  | stMint => .ascii "stake_mint"
  | stMintAuthority => .ascii "st_mint"
  | lpMint => .ascii "liq_pool_mint"
  | lpMintAuthority => .ascii "liq_mint"
  | treasury => .ascii "treasury_st_sol"
  | stakeList => .ascii "stake_list"
  | validatorList => .ascii "validator_list"
  | depositAuthority => .ascii "deposit"
  | withdrawAuthority => .ascii "withdraw"

def isAuthority : Role → Bool
  | stLegAuthority | stMintAuthority | lpMintAuthority | depositAuthority | withdrawAuthority => true
  | _ => false

def name : Role → String
  | reserve => "Reserve"
  | solLeg => "SolLeg"
  | stLegAuthority => "StLegAuthority"
  | stLeg => "StLeg"
  | stMint => "StMint"
  | stMintAuthority => "StMintAuthority"
  | lpMint => "LpMint"
  | lpMintAuthority => "LpMintAuthority"
  | treasury => "TreasuryStAccount"
  | stakeList => "StakeList"
  | validatorList => "ValidatorList"
  | depositAuthority => "StakeDepositAuthority"
  | withdrawAuthority => "StakeWithdrawAuthority"

end Role

inductive Slot where
  | config
  | role (role : Role)
deriving DecidableEq

namespace Slot

def all : List Slot := config :: Role.all.map role

theorem mem_all : (slot : Slot) → slot ∈ all
  | config => List.mem_cons_self
  | role r => List.mem_cons_of_mem _ (List.mem_map_of_mem r.mem_all)

/-- How a message names the slot. -/
def text : Slot → String
  | config => "PoolConfig"
  | role r => "Pool(" ++ r.name ++ ")"

instance : ToString Slot := ⟨text⟩

end Slot

/-- One value for every role. -/
structure RoleTable (α : Type) where
  reserve : α
  solLeg : α
  stLegAuthority : α
  stLeg : α
  stMint : α
  stMintAuthority : α
  lpMint : α
  lpMintAuthority : α
  treasury : α
  stakeList : α
  validatorList : α
  depositAuthority : α
  withdrawAuthority : α
deriving DecidableEq

namespace RoleTable

variable {α : Type}

def get (table : RoleTable α) : Role → α
  | .reserve => table.reserve
  | .solLeg => table.solLeg
  | .stLegAuthority => table.stLegAuthority
  | .stLeg => table.stLeg
  | .stMint => table.stMint
  | .stMintAuthority => table.stMintAuthority
  | .lpMint => table.lpMint
  | .lpMintAuthority => table.lpMintAuthority
  | .treasury => table.treasury
  | .stakeList => table.stakeList
  | .validatorList => table.validatorList
  | .depositAuthority => table.depositAuthority
  | .withdrawAuthority => table.withdrawAuthority

/-- The table of a function's values, if it has one for every role. -/
def collect (value? : Role → Option α) : Option (RoleTable α) := do
  return {
    reserve := ← value? .reserve
    solLeg := ← value? .solLeg
    stLegAuthority := ← value? .stLegAuthority
    stLeg := ← value? .stLeg
    stMint := ← value? .stMint
    stMintAuthority := ← value? .stMintAuthority
    lpMint := ← value? .lpMint
    lpMintAuthority := ← value? .lpMintAuthority
    treasury := ← value? .treasury
    stakeList := ← value? .stakeList
    validatorList := ← value? .validatorList
    depositAuthority := ← value? .depositAuthority
    withdrawAuthority := ← value? .withdrawAuthority }

theorem collect_eq_some_iff {value? : Role → Option α} {table : RoleTable α} :
    collect value? = some table ↔ ∀ role, value? role = some (table.get role) := by
  constructor
  · intro h
    obtain ⟨_, h1, h⟩ := Option.bind_eq_some_iff.mp h
    obtain ⟨_, h2, h⟩ := Option.bind_eq_some_iff.mp h
    obtain ⟨_, h3, h⟩ := Option.bind_eq_some_iff.mp h
    obtain ⟨_, h4, h⟩ := Option.bind_eq_some_iff.mp h
    obtain ⟨_, h5, h⟩ := Option.bind_eq_some_iff.mp h
    obtain ⟨_, h6, h⟩ := Option.bind_eq_some_iff.mp h
    obtain ⟨_, h7, h⟩ := Option.bind_eq_some_iff.mp h
    obtain ⟨_, h8, h⟩ := Option.bind_eq_some_iff.mp h
    obtain ⟨_, h9, h⟩ := Option.bind_eq_some_iff.mp h
    obtain ⟨_, h10, h⟩ := Option.bind_eq_some_iff.mp h
    obtain ⟨_, h11, h⟩ := Option.bind_eq_some_iff.mp h
    obtain ⟨_, h12, h⟩ := Option.bind_eq_some_iff.mp h
    obtain ⟨_, h13, h⟩ := Option.bind_eq_some_iff.mp h
    obtain rfl := Option.some.inj h
    intro role
    cases role <;> assumption
  · intro h
    simp only [collect, h]
    rfl

end RoleTable

end StakePool
