import StakePool.Proofs.Setup.Cost
import StakePool.Proofs.Setup.Preflight
/-!
# Setups that are interrupted

A failure of the store can cut a setup short before any of its batches. What the setup has done by
then is a first part of what an uninterrupted setup does, `Interim`, and the next attempt drafts
exactly the second part: operations that were carried out count as applied, and nothing that they
changed makes another operation of the plan look different. The two parts together are the
uninterrupted run, so the attempt that gets through ends with its accounts, however many attempts it
took and wherever their batches began.
-/

namespace StakePool

namespace Setup

variable {scheme : AddressScheme} {setup : Setup} {book : AddressBook} {start store : Store}
  {operations rest : List Operation} {final : Accounts}

/-- One attempt, with a failure due after some submissions or with none due. -/
def attempt (scheme : AddressScheme) (setup : Setup) (skipped : Option Nat) (store : Store) :
    Outcome :=
  setup.execute scheme { store with failureIn := skipped }

/-- The failure that was due has struck, for it is not due any more. -/
def Interrupted (skipped : Option Nat) (outcome : Outcome) : Prop :=
  skipped ≠ none ∧ outcome.store.failureIn = none

instance (skipped : Option Nat) (outcome : Outcome) : Decidable (Interrupted skipped outcome) :=
  inferInstanceAs (Decidable (_ ∧ _))

/-- The stores that a series of attempts can lead to when every one of them is interrupted. -/
inductive Interruptions (scheme : AddressScheme) (setup : Setup) (start : Store) :
    Store → Prop where
  | none : Interruptions scheme setup start start
  | attempt {store : Store} {skipped : Option Nat}
      (earlier : Interruptions scheme setup start store)
      (struck : Interrupted skipped (setup.attempt scheme skipped store)) :
      Interruptions scheme setup start (setup.attempt scheme skipped store).store

/-- A store in which a first part of some operations has been carried out, all but the rest. -/
structure Interim (setup : Setup) (start : Store) (operations : List Operation) (store : Store)
    (done rest : List Operation) : Prop where
  split : operations = done ++ rest
  rest_ne_nil : rest ≠ []
  apply_done : (Batch.mk setup.programId setup.payer done).apply start.rent start.accounts
    = .ok store.accounts
  rent_eq : store.rent = start.rent
  limit_eq : store.limit = start.limit

namespace Interim

variable {done : List Operation}

theorem refl (h : operations ≠ []) : Interim setup start operations start [] operations :=
  ⟨rfl, h, rfl, rfl, rfl⟩

theorem apply_rest (hinterim : Interim setup start operations store done rest)
    (h : (Batch.mk setup.programId setup.payer operations).apply start.rent start.accounts
      = .ok final) :
    (Batch.mk setup.programId setup.payer rest).apply store.rent store.accounts = .ok final := by
  rw [hinterim.split, Batch.apply_append_eq_ok_iff] at h
  obtain ⟨middle, hdone, hrest⟩ := h
  rw [hinterim.apply_done] at hdone
  obtain rfl := Except.ok.inj hdone
  rwa [hinterim.rent_eq]

theorem not_mem_done_of_last {op : Operation} {init : List Operation}
    (hinterim : Interim setup start operations store done rest) (hnodup : operations.Nodup)
    (hlast : operations = init ++ [op]) : op ∉ done := by
  obtain hnil | ⟨before, last, hrest⟩ := List.eq_nil_or_concat rest
  · exact absurd hnil hinterim.rest_ne_nil
  · have hsplit := hinterim.split
    rw [hlast, hrest, List.concat_eq_append, ← List.append_assoc] at hsplit
    obtain rfl : op = last := List.singleton_inj.mp (List.append_inj' hsplit rfl).2
    have hdisjoint := (List.nodup_append.mp (hinterim.split ▸ hnodup)).2.2
    exact fun hdone => hdisjoint op hdone op (by simp [hrest]) rfl

end Interim

section Attempts

variable (hbook : AddressBook.derive? scheme setup.programId setup.root = some book)
  (hdistinct : book.Distinct) (hpayer : setup.payer ∉ book) (hrent : 0 < Plan.pinned start.rent)
  (hclear : setup.Unobstructed start.accounts.find?
    (Plan.all book setup.parameters start.rent))
include hbook hdistinct hpayer hrent hclear

theorem status_of_interim {done : List Operation}
    (hinterim : Interim setup start (setup.agenda book start.rent start.accounts.find?) store done
      rest) {op : Operation} (hop : op ∈ Plan.all book setup.parameters start.rent) :
    op.status store.accounts.find? setup.programId
      = if op ∈ done then .applied else op.status start.accounts.find? setup.programId := by
  obtain ⟨hprogram, -⟩ := AddressBook.derive?_spec hbook
  have hrecord :=
    hinterim.not_mem_done_of_last (nodup_agenda hdistinct) (agenda_eq_append hclear)
  have hdone : ∀ other ∈ done, other ∈ Plan.all book setup.parameters start.rent := by
    intro other hother
    exact (mem_agenda_iff.mp (hinterim.split ▸ List.mem_append_left rest hother)).1
  have happly := hinterim.apply_done
  rw [← hprogram] at happly ⊢
  refine Plan.status_of_apply hdistinct hpayer hdone hop (fun hmem => ?_) happly
  rcases List.mem_append.mp hop with hground | hlast
  · exact Plan.settles_groundwork hrent op hground
  · rw [List.mem_singleton.mp hlast] at hmem
    exact absurd hmem hrecord

/-- The operations that were carried out are off the agenda, and no others. -/
theorem agenda_of_interim {done : List Operation}
    (hinterim : Interim setup start (setup.agenda book start.rent start.accounts.find?) store done
      rest) : setup.agenda book store.rent store.accounts.find? = rest := by
  have hnodup : (done ++ rest).Nodup := by
    rw [← hinterim.split]
    exact nodup_agenda hdistinct
  have hdisjoint := (List.nodup_append.mp hnodup).2.2
  calc setup.agenda book store.rent store.accounts.find?
      = (Plan.all book setup.parameters start.rent).filter fun op =>
          op ∉ done ∧ op.status start.accounts.find? setup.programId = .pending := by
        rw [agenda, outstanding, hinterim.rent_eq]
        refine List.filter_congr fun op hop => ?_
        rw [status_of_interim hbook hdistinct hpayer hrent hclear hinterim hop]
        by_cases hmem : op ∈ done <;> simp [hmem]
    _ = (done ++ rest).filter fun op => op ∉ done := by
        rw [← hinterim.split, agenda, outstanding, List.filter_filter]
        simp
    _ = rest := by
        rw [List.filter_append, List.filter_eq_nil_iff.mpr (by simp), List.nil_append]
        refine List.filter_eq_self.mpr fun op hop => ?_
        simpa using fun hmem => hdisjoint op hmem op hop rfl

theorem unobstructed_of_interim {done : List Operation}
    (hinterim : Interim setup start (setup.agenda book start.rent start.accounts.find?) store done
      rest) :
    setup.Unobstructed store.accounts.find? (Plan.all book setup.parameters store.rent) := by
  rw [hinterim.rent_eq]
  intro op hop
  rw [status_of_interim hbook hdistinct hpayer hrent hclear hinterim hop]
  split
  · exact nofun
  · exact hclear op hop

variable (hvalid : setup.parameters.IsValid)
  (happly : (Batch.mk setup.programId setup.payer
    (setup.agenda book start.rent start.accounts.find?)).apply start.rent start.accounts
      = .ok final)
include hvalid happly

theorem preflight_of_interim {done : List Operation}
    (hinterim : Interim setup start (setup.agenda book start.rent start.accounts.find?) store done
      rest) : setup.preflight scheme store.rent store.accounts.find? = .ok ⟨book, rest⟩ := by
  obtain ⟨hprogram, -⟩ := AddressBook.derive?_spec hbook
  have hagenda := agenda_of_interim hbook hdistinct hpayer hrent hclear hinterim
  have hopen := unobstructed_of_interim hbook hdistinct hpayer hrent hclear hinterim
  rw [preflight_eq_ok_iff hbook, hagenda]
  refine ⟨hvalid, fun hexists => ?_, hopen, ?_, rfl⟩
  · have hrecord : Plan.recordWrite book setup.parameters store.rent
        ∈ Plan.all book setup.parameters store.rent := by simp [Plan.all]
    exact hopen _ hrecord (status_recordWrite_of_poolExists hexists)
  · have hplan : rest.Pairwise (Operation.Precedes setup.programId) := by
      rw [← hagenda, ← hprogram]
      exact (Plan.pairwise_all hdistinct).sublist List.filter_sublist
    have htargets : ∀ op ∈ rest, op.target ≠ setup.payer := by
      intro op hop heq
      rw [← hagenda] at hop
      exact hpayer (heq ▸ Plan.target_mem (mem_agenda_iff.mp hop).1)
    rw [Accounts.lamports_find?, UInt64.le_iff_toNat_le]
    exact Nat.le_trans (toNat_fundingNeeded_le _ _)
      (Batch.cost_le_of_apply hplan htargets (hinterim.apply_rest happly))

/-- An attempt that is interrupted leaves off somewhere later, and any other ends as the whole run
does. -/
theorem attempt_of_interim (hlimit : start.limit ≠ some 0) {done : List Operation}
    (hinterim : Interim setup start (setup.agenda book start.rent start.accounts.find?) store done
      rest) (skipped : Option Nat) :
    (Interrupted skipped (setup.attempt scheme skipped store) ∧
        (∃ index, (setup.attempt scheme skipped store).phase
          = .aborted (.rejected index (.unavailable .injected)))
        ∧ ∃ done rest, Interim setup start (setup.agenda book start.rent start.accounts.find?)
          (setup.attempt scheme skipped store).store done rest)
      ∨ (¬ Interrupted skipped (setup.attempt scheme skipped store)
        ∧ (∃ transactions, (setup.attempt scheme skipped store).phase
          = .written book.pool transactions)
        ∧ (setup.attempt scheme skipped store).store.accounts = final) := by
  let armed : Store := { store with failureIn := skipped }
  have hlimit : armed.limit ≠ some 0 := hinterim.limit_eq ▸ hlimit
  have hrest := hinterim.apply_rest happly
  have hdraft : setup.preflight scheme store.rent store.accounts.find? = .ok ⟨book, rest⟩ :=
    preflight_of_interim hbook hdistinct hpayer hrent hclear hvalid happly hinterim
  obtain ⟨hphase, hstore⟩ := execute_agrees scheme setup armed
  rw [hdraft] at hphase hstore
  simp only [Interrupted, attempt]
  rw [hphase, hstore]
  by_cases hstruck : ∃ left, skipped = some left
      ∧ left < (setup.batches armed.limit rest).length
  · obtain ⟨left, hdue, hleft⟩ := hstruck
    obtain ⟨hrejected, hspent, more, later, hsplit, hlater, hmore⟩ :=
      submit_of_failure ⟨book, rest⟩ hlimit hdue hleft hrest
    obtain ⟨hrentEq, hlimitEq⟩ := submit_terms setup armed.limit ⟨book, rest⟩ armed
    refine .inl ⟨⟨by simp [hdue], hspent⟩, hrejected, done ++ more, later, ?_⟩
    refine ⟨?_, hlater, ?_, hrentEq.trans hinterim.rent_eq, hlimitEq.trans hinterim.limit_eq⟩
    · rw [hinterim.split, List.append_assoc]
      exact congrArg (done ++ ·) hsplit
    · rw [Batch.apply_append_eq_ok_iff]
      exact ⟨_, hinterim.apply_done, hinterim.rent_eq ▸ hmore⟩
  · have hspared : ∀ left, armed.failureIn = some left →
        (setup.batches armed.limit rest).length ≤ left := by
      intro left hdue
      exact Nat.not_lt.mp fun hleft => hstruck ⟨left, hdue, hleft⟩
    obtain ⟨hwritten, haccounts, hleft⟩ :=
      submit_of_apply ⟨book, rest⟩ hlimit hspared hrest
    refine .inr ⟨fun ⟨hdue, hspent⟩ => ?_, hwritten, haccounts⟩
    exact hdue (Option.map_eq_none_iff.mp (hleft.symm.trans hspent))

end Attempts

/-- However often a setup is interrupted, every interruption is reported as a failure of the store,
and the first attempt that is not interrupted writes the pool and ends with the very accounts of a
run that was never interrupted and had no limit to keep. A store that starts out empty satisfies
`hrent` by `Plan.pinned_standard`. -/
theorem attempt_of_interruptions {pool : Key} {transactions : List UInt64} {start store : Store}
    (hbook : AddressBook.derive? scheme setup.programId setup.root = some book)
    (hdistinct : book.Distinct) (hpayer : setup.payer ∉ book) (hrent : 0 < Plan.pinned start.rent)
    (hlimit : start.limit ≠ some 0)
    (hreference : (setup.execute scheme { start with limit := none, failureIn := none }).phase
      = .written pool transactions)
    (hearlier : Interruptions scheme setup start store) (skipped : Option Nat) :
    (Interrupted skipped (setup.attempt scheme skipped store) →
        ∃ failure, (setup.attempt scheme skipped store).phase = .aborted failure
          ∧ failure.report = ⟨.commit, none, .storeFailure⟩)
      ∧ (¬ Interrupted skipped (setup.attempt scheme skipped store) →
        (∃ transactions, (setup.attempt scheme skipped store).phase = .written pool transactions)
        ∧ (setup.attempt scheme skipped store).store.accounts
          = (setup.execute scheme
            { start with limit := none, failureIn := none }).store.accounts) := by
  obtain ⟨rfl, hvalid, -, hclear, happly⟩ := execute_written hbook hreference
  have hinterim : ∃ done rest,
      Interim setup start (setup.agenda book start.rent start.accounts.find?) store done rest := by
    induction hearlier with
    | none => exact ⟨_, _, .refl (by simp [agenda_eq_append hclear])⟩
    | attempt earlier struck ih =>
      obtain ⟨done, rest, hinterim⟩ := ih
      obtain ⟨-, -, hnext⟩ | ⟨hspared, -⟩ := attempt_of_interim hbook hdistinct hpayer hrent hclear
        hvalid happly hlimit hinterim _
      · exact hnext
      · exact absurd struck hspared
  obtain ⟨done, rest, hinterim⟩ := hinterim
  obtain ⟨hstruck, ⟨index, hphase⟩, -⟩ | ⟨hspared, hwritten, haccounts⟩ := attempt_of_interim hbook
    hdistinct hpayer hrent hclear hvalid happly hlimit hinterim skipped
  · exact ⟨fun _ => ⟨_, hphase, rfl⟩, fun hspared => absurd hstruck hspared⟩
  · exact ⟨fun hstruck => absurd hstruck hspared, fun _ => ⟨hwritten, haccounts⟩⟩

theorem execute_unlimited_sample :
    (sample.execute .standard { Store.sample with limit := none, failureIn := none }).phase
      = .written AddressBook.sample.pool [1] := by
  rw [(execute_agrees ..).1, preflight]
  rw [show ({ Store.sample with limit := none, failureIn := none } : Store).accounts
      = Store.sample.accounts from rfl, derive_sample]
  decide +kernel

theorem interrupted_sample :
    Interrupted (some 2) (sample.attempt .standard (some 2) Store.sample) := by
  refine ⟨nofun, ?_⟩
  rw [attempt, (execute_agrees ..).2, preflight]
  rw [show ({ Store.sample with failureIn := some 2 } : Store).accounts = Store.sample.accounts
    from rfl, derive_sample]
  decide +kernel

theorem attempt_of_interruptions_sample :
    (∃ failure, (sample.attempt .standard (some 2) Store.sample).phase = .aborted failure
        ∧ failure.report = ⟨.commit, none, .storeFailure⟩)
      ∧ (∃ transactions, (sample.attempt .standard none
          (sample.attempt .standard (some 2) Store.sample).store).phase
        = .written AddressBook.sample.pool transactions)
      ∧ (sample.attempt .standard none
          (sample.attempt .standard (some 2) Store.sample).store).store.accounts
        = (sample.execute .standard
          { Store.sample with limit := none, failureIn := none }).store.accounts := by
  have hpayer : sample.payer ∉ AddressBook.sample := by decide +kernel
  have hrent : 0 < Plan.pinned Store.sample.rent := Plan.pinned_standard
  have hlimit : Store.sample.limit ≠ some 0 := by decide
  have hfirst := (attempt_of_interruptions derive?_sample AddressBook.distinct_sample hpayer hrent
    hlimit execute_unlimited_sample .none (some 2)).1 interrupted_sample
  have hsecond := (attempt_of_interruptions derive?_sample AddressBook.distinct_sample hpayer hrent
    hlimit execute_unlimited_sample (.attempt .none interrupted_sample) none).2 fun h => h.1 rfl
  exact ⟨hfirst, hsecond⟩

end Setup

end StakePool
