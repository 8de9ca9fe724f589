import StakePool.Account
/-!
# Collections of accounts

A collection maps keys to accounts. It is seen only through `find?`, which `find?_insert` settles after
every change, and through `total`, the lamports in all of it, which `total_insert` settles.
-/

namespace StakePool

/-- Accounts by their keys, in the order in which the keys were first used. -/
structure Accounts where
  entries : List (Key × Account)
  nodup_keys : (entries.map Prod.fst).Nodup
deriving DecidableEq

namespace Accounts

def lookup (key : Key) : List (Key × Account) → Option Account
  | [] => none
  | (k, account) :: rest => if k = key then some account else lookup key rest

def put (key : Key) (account : Account) : List (Key × Account) → List (Key × Account)
  | [] => [(key, account)]
  | (k, a) :: rest => if k = key then (key, account) :: rest else (k, a) :: put key account rest

theorem mem_keys_put {key k : Key} {account : Account} {entries : List (Key × Account)} :
    k ∈ (put key account entries).map Prod.fst ↔ k = key ∨ k ∈ entries.map Prod.fst := by
  induction entries with
  | nil => simp [put]
  | cons entry rest ih =>
    unfold put
    split
    · next same => simp [same]
    · simp only [List.map_cons, List.mem_cons, ih]
      grind

theorem nodup_keys_put (key : Key) (account : Account) {entries : List (Key × Account)}
    (h : (entries.map Prod.fst).Nodup) : ((put key account entries).map Prod.fst).Nodup := by
  induction entries with
  | nil => simp [put]
  | cons entry rest ih =>
    simp only [List.map_cons, List.nodup_cons] at h
    unfold put
    split
    · next same => simpa [← same] using h
    · next different =>
      simp only [List.map_cons, List.nodup_cons, mem_keys_put, not_or]
      exact ⟨⟨different, h.1⟩, ih h.2⟩

theorem lookup_put (key k : Key) (account : Account) (entries : List (Key × Account)) :
    lookup k (put key account entries) = if k = key then some account else lookup k entries := by
  induction entries with
  | nil => simp [put, lookup, eq_comm]
  | cons entry rest ih => grind [put, lookup]

def lamportsOf : List (Key × Account) → Nat
  | [] => 0
  | (_, account) :: rest => account.lamports.toNat + lamportsOf rest

theorem lamportsOf_put (key : Key) (account : Account) (entries : List (Key × Account)) :
    lamportsOf (put key account entries) + ((lookup key entries).map (·.lamports.toNat)).getD 0
      = lamportsOf entries + account.lamports.toNat := by
  induction entries with
  | nil => simp [put, lookup, lamportsOf]
  | cons entry rest ih =>
    unfold put lookup
    split
    · simp [lamportsOf]; omega
    · simp only [lamportsOf]
      omega

def empty : Accounts := ⟨[], List.nodup_nil⟩

variable (accounts : Accounts)

def find? : Reader := fun key => lookup key accounts.entries

def insert (key : Key) (account : Account) : Accounts where
  entries := put key account accounts.entries
  nodup_keys := nodup_keys_put key account accounts.nodup_keys

/-- The account at a key; where there is none, one without lamports. -/
def get (key : Key) : Account := (accounts.find? key).getD (.plain 0)

/-- All lamports in the collection. -/
def total : Nat := lamportsOf accounts.entries

@[simp] theorem find?_empty (key : Key) : empty.find? key = none := rfl

theorem find?_insert (key k : Key) (account : Account) :
    (accounts.insert key account).find? k = if k = key then some account else accounts.find? k :=
  lookup_put ..

@[simp] theorem find?_insert_self (key : Key) (account : Account) :
    (accounts.insert key account).find? key = some account := by
  simp [find?_insert]

theorem find?_insert_of_ne {key k : Key} (account : Account) (h : k ≠ key) :
    (accounts.insert key account).find? k = accounts.find? k := by
  simp [find?_insert, h]

theorem get_insert (key k : Key) (account : Account) :
    (accounts.insert key account).get k = if k = key then account else accounts.get k := by
  unfold get
  rw [find?_insert]
  split <;> rfl

@[simp] theorem get_insert_self (key : Key) (account : Account) :
    (accounts.insert key account).get key = account := by
  simp [get_insert]

theorem get_insert_of_ne {key k : Key} (account : Account) (h : k ≠ key) :
    (accounts.insert key account).get k = accounts.get k := by
  simp [get_insert, h]

theorem lamports_find? (key : Key) : accounts.find?.lamports key = (accounts.get key).lamports := by
  unfold Reader.lamports get
  cases accounts.find? key <;> rfl

/-- An insertion changes the total by the new balance less the one it replaces. -/
theorem total_insert (key : Key) (account : Account) :
    (accounts.insert key account).total + (accounts.get key).lamports.toNat
      = accounts.total + account.lamports.toNat := by
  have := lamportsOf_put key account accounts.entries
  simp only [total, insert, get, find?]
  cases found : lookup key accounts.entries <;> simpa [found, Account.plain] using this

end Accounts

end StakePool
