import StakePool.Chain.Invocation
/-!
# Account lists

The accounts that an instruction comes with. An account may be listed more than once; later entries
then point back at the first one, and all of them share its flags and its cell.
-/

namespace StakePool

namespace Chain

inductive Listed where
  | first (key : Key) (account : Account) (isSigner isWritable : Bool)
  /-- The same account as an earlier entry. -/
  | again (index : Nat)
deriving DecidableEq

namespace Listed

/-- The handles and cells of a list that goes on from given ones. -/
def loadOnto (handles : List Handle) (cells : Cells) : List Listed → Option (List Handle × Cells)
  | [] => some (handles, cells)
  | first key account isSigner isWritable :: rest =>
    loadOnto (handles ++ [{ key, isSigner, isWritable, cell := cells.length }])
      (cells ++ [account]) rest
  | again index :: rest =>
    match handles[index]? with
    | some handle => loadOnto (handles ++ [handle]) cells rest
    | none => none

def load? (listed : List Listed) : Option (List Handle × Cells) := loadOnto [] [] listed

end Listed

end Chain

end StakePool
