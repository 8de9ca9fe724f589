import StakePool.Key
/-!
# Accounts

An account holds lamports and data and has an owner, the one program that may write the data.
-/

namespace StakePool

structure Account where
  lamports : UInt64
  data : Bytes
  owner : Key
deriving DecidableEq

namespace Account

/-- An account that nobody has allocated yet. -/
def plain (lamports : UInt64) : Account := ⟨lamports, [], .systemProgram⟩

/-- Without data and still owned by the system program. Lamports sent ahead of its creation do not
make an address taken. -/
def IsVacant (account : Account) : Prop := account.data = [] ∧ account.owner = .systemProgram

instance (account : Account) : Decidable account.IsVacant := inferInstanceAs (Decidable (_ ∧ _))

theorem isVacant_plain (lamports : UInt64) : (plain lamports).IsVacant := ⟨rfl, rfl⟩

end Account

/-- What can be looked up of a collection of accounts. -/
abbrev Reader := (address : Key) → Option Account

namespace Reader

/-- The lamports at an address, none where there is no account. -/
def lamports (reader : Reader) (address : Key) : UInt64 :=
  ((reader address).map Account.lamports).getD 0

end Reader

end StakePool
