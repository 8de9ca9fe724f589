import StakePool.Proofs.Store.Submission
/-!
# Where a sequence of batches is cut

A store takes batches in order until it refuses one. The accepted batches are a first part of the
sequence, they have all gone through, and they have all been counted; the refused one comes right
after them and has changed nothing. A store refuses a batch for no more than three reasons, of which
only the last has to do with its operations.
-/

namespace StakePool

namespace Store

variable {store : Store} {batches : List Batch}

theorem applyAll_accepted (store : Store) (batches : List Batch) :
    Batch.applyAll store.rent (store.submitAll batches).accepted store.accounts
      = .ok (store.submitAll batches).store.accounts := by
  induction batches generalizing store with
  | nil => rfl
  | cons batch rest ih =>
    obtain ⟨accounts, failureIn, hexecute, hsubmit⟩ | ⟨_, _, hsubmit⟩ := submit_cases store batch
    · rw [submitAll_cons_of_ok hsubmit, Batch.applyAll_cons_eq_ok_iff]
      exact ⟨accounts, (execute_eq_ok_iff.mp hexecute).2,
        ih { store with accounts, failureIn, submitted := store.submitted + 1 }⟩
    · rw [submitAll_cons_of_error hsubmit]
      rfl

theorem submitted_submitAll (store : Store) (batches : List Batch) :
    (store.submitAll batches).store.submitted
      = store.submitted + .ofNat (store.submitAll batches).accepted.length := by
  induction batches generalizing store with
  | nil => exact (UInt64.add_zero _).symm
  | cons batch rest ih =>
    obtain ⟨accounts, failureIn, hexecute, hsubmit⟩ | ⟨_, _, hsubmit⟩ := submit_cases store batch
    · rw [submitAll_cons_of_ok hsubmit]
      simp only [ih, List.length_cons]
      rw [Nat.add_comm, UInt64.ofNat_add, UInt64.add_assoc]
      rfl
    · rw [submitAll_cons_of_error hsubmit]
      exact (UInt64.add_zero _).symm

/-- Right after the accepted batches comes one that was refused: for a failure that was due, for the
limit, or for one of its operations. -/
theorem exists_of_rejection {rejection : Rejection}
    (h : (store.submitAll batches).rejection? = some rejection) :
    ∃ batch rest, batches = (store.submitAll batches).accepted ++ batch :: rest
      ∧ (rejection = .unavailable .injected ∨ store.exceeded? batch ≠ none
        ∨ batch.apply store.rent (store.submitAll batches).store.accounts = .error rejection) := by
  induction batches generalizing store with
  | nil => cases h
  | cons batch rest ih =>
    by_cases hdue : store.failureIn = some 0
    · rw [submitAll_cons_of_error (submit_of_failureIn_zero hdue)] at h ⊢
      exact ⟨batch, rest, rfl, .inl (Option.some.inj h).symm⟩
    cases hexecute : store.execute batch with
    | ok accounts =>
      rw [submitAll_cons_of_ok (submit_of_execute_ok hdue hexecute)] at h ⊢
      obtain ⟨refused, later, hsplit, hcause⟩ := ih h
      exact ⟨refused, later, congrArg (batch :: ·) hsplit, hcause⟩
    | error reason =>
      rw [submitAll_cons_of_error (submit_of_execute_error hdue hexecute)] at h ⊢
      obtain rfl := Option.some.inj h
      refine ⟨batch, rest, rfl, .inr ?_⟩
      rw [execute] at hexecute
      cases hlimit : store.exceeded? batch with
      | some limit => exact .inl (Option.some_ne_none limit)
      | none =>
        rw [hlimit] at hexecute
        exact .inr hexecute

theorem take_accepted {rejection : Rejection}
    (h : (store.submitAll batches).rejection? = some rejection) :
    (store.submitAll batches).accepted.length < batches.length
      ∧ batches.take (store.submitAll batches).accepted.length
        = (store.submitAll batches).accepted := by
  obtain ⟨batch, rest, hsplit, -⟩ := exists_of_rejection h
  constructor
  · have hlength := congrArg List.length hsplit
    rw [List.length_append, List.length_cons] at hlength
    omega
  · generalize (store.submitAll batches).accepted = accepted at hsplit ⊢
    rw [hsplit]
    exact List.take_left' rfl

/-- Batches that keep the limit are refused for a failure that was due, or for what would stop them
in any other store as well. -/
theorem rejection_cases {rejection : Rejection}
    (hlimit : ∀ batch ∈ batches, store.exceeded? batch = none)
    (h : (store.submitAll batches).rejection? = some rejection) :
    rejection = .unavailable .injected
      ∨ Batch.applyAll store.rent batches store.accounts = .error rejection := by
  obtain ⟨batch, rest, hsplit, hinjected | hexceeded | hrefused⟩ := exists_of_rejection h
  · exact .inl hinjected
  · exact absurd (hlimit batch (hsplit ▸ by simp)) hexceeded
  · right
    rw [hsplit, Batch.applyAll, List.foldlM_append]
    have haccepted := applyAll_accepted store batches
    rw [Batch.applyAll] at haccepted
    rw [haccepted]
    change (batch.apply _ _ >>= _) = _
    rw [hrefused]
    rfl

end Store

end StakePool
