import StakePool.Operation.Apply
/-!
# The store

A store keeps accounts and takes batches of operations, each batch as a whole or not at all. It may
bound the size of a batch, and it can be told to fail a later submission, for trying out what an
interruption does. Accepted batches are numbered from one.
-/

namespace StakePool

structure Store where
  accounts : Accounts
  rent : Rent
  /-- The most operations that a batch may have. -/
  limit : Option Nat
  /-- Submissions left until one is made to fail. -/
  failureIn : Option Nat
  /-- Batches accepted so far. -/
  submitted : UInt64

namespace Store

/-- A store without accounts. A limit below one is read as one. -/
def empty (limit : Option Nat) : Store where
  accounts := .empty
  rent := .standard
  limit := limit.map (max 1)
  failureIn := none
  submitted := 0

variable (store : Store)

def setAccount (address : Key) (account : Account) : Store :=
  { store with accounts := store.accounts.insert address account }

/-- Give lamports to an address, as many as its balance can hold. -/
def airdrop (address : Key) (lamports : UInt64) : Store :=
  let account := store.accounts.get address
  store.setAccount address { account with lamports := Saturating.add64 account.lamports lamports }

/-- Let the submission fail that comes after `skipped` others. -/
def failAfter (skipped : Nat) : Store := { store with failureIn := some skipped }

/-- The limit that a batch is over. -/
def exceeded? (batch : Batch) : Option Nat :=
  store.limit.filter (· < batch.operations.length)

/-- The accounts after a batch, if it keeps the limit and all its operations go through. -/
def execute (batch : Batch) : Except Rejection Accounts :=
  match store.exceeded? batch with
  | some limit => .error (.unavailable (.overLimit batch.operations.length limit))
  | none => batch.apply store.rent store.accounts

/-- Submit a batch and get its number. The injected failure comes before anything else, and every
submission that it spares brings it nearer, accepted or not. -/
def submit (batch : Batch) : Except Rejection UInt64 × Store :=
  if store.failureIn = some 0 then
    (.error (.unavailable .injected), { store with failureIn := none })
  else
    let failureIn := store.failureIn.map (· - 1)
    match store.execute batch with
    | .error rejection => (.error rejection, { store with failureIn })
    | .ok accounts =>
      let submitted := store.submitted + 1
      (.ok submitted, { store with accounts, failureIn, submitted })

/-- What came of submitting batches one after another until one was rejected. -/
structure Submission where
  accepted : List Batch
  /-- The numbers of the accepted batches. -/
  numbers : List UInt64
  rejection? : Option Rejection
  store : Store

def submitAll (store : Store) : List Batch → Submission
  | [] => { accepted := [], numbers := [], rejection? := none, store }
  | batch :: rest =>
    match store.submit batch with
    | (.error rejection, store) =>
      { accepted := [], numbers := [], rejection? := some rejection, store }
    | (.ok number, store) =>
      let later := submitAll store rest
      { later with accepted := batch :: later.accepted, numbers := number :: later.numbers }

end Store

end StakePool
