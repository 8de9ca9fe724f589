import StakePool.Audit
import StakePool.Chain.Execution
import StakePool.Chain.Ledger
import StakePool.Chain.Listing
import StakePool.Chain.Programs
import StakePool.HalfWidth
import StakePool.Request
import StakePool.Setup
import StakePool.Proofs.AddressBook
import StakePool.Proofs.AddressSpace
import StakePool.Proofs.Audit.Independence
import StakePool.Proofs.Bounds
import StakePool.Proofs.CanonicalBump
import StakePool.Proofs.Capacity
import StakePool.Proofs.Chain.Confinement
import StakePool.Proofs.Chain.Creation
import StakePool.Proofs.Chain.Ledger
import StakePool.Proofs.Chain.Privileges
import StakePool.Proofs.Chain.Processing
import StakePool.Proofs.Fee
import StakePool.Proofs.HalfWidth
import StakePool.Proofs.Operation.Effect
import StakePool.Proofs.Operation.Progress
import StakePool.Proofs.Plan
import StakePool.Proofs.Planning
import StakePool.Proofs.RecordFormat
import StakePool.Proofs.Setup.Aborted
import StakePool.Proofs.Setup.Audited
import StakePool.Proofs.Setup.Coherence
import StakePool.Proofs.Setup.Dispatch
import StakePool.Proofs.Setup.Expenses
import StakePool.Proofs.Setup.Gifts
import StakePool.Proofs.Setup.Neighbours
import StakePool.Proofs.Setup.Rejected
import StakePool.Proofs.Setup.Resumption
import StakePool.Proofs.Setup.Rivals
import StakePool.Proofs.Setup.Tampered
import StakePool.Proofs.Store.Conservation
import StakePool.Proofs.Store.Exemption
import StakePool.Proofs.Store.Interruption
import StakePool.Proofs.Store.Standing
import StakePool.Proofs.Store.WriteOnce
import StakePool.Proofs.WireFormat
