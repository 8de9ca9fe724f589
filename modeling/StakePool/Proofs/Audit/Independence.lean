import StakePool.Proofs.Audit.Holdings
/-!
# Findings do not mask one another

An audit goes through the slots of a pool and puts all that it finds into one list. What the list
says of a role is settled by two accounts, the one that holds the record and the role's own: the
record leads to the addresses, and the checks of an account end with that account. So whatever is
missing, foreign or malformed elsewhere, the findings about the role stay the same, in the same
order. The addresses of the roles are those that the record's root leads to, which is where an audit
looks. They need not be distinct.
-/

namespace StakePool

namespace Audit

variable {scheme : AddressScheme} {reader first second : Reader} {programId pool : Key}
  {book : AddressBook} {record : PoolRecord} {role : Role} {slot : Slot} {findings : List Finding}

/-- The part of a report that is about one slot. -/
def findingsOn (slot : Slot) (findings : List Finding) : List Finding :=
  findings.filter fun finding => finding.slot = slot

@[simp] theorem findingsOn_append (left right : List Finding) :
    findingsOn slot (left ++ right) = findingsOn slot left ++ findingsOn slot right :=
  List.filter_append ..

theorem AllOn.findingsOn_eq (h : AllOn slot findings) : findingsOn slot findings = findings :=
  List.filter_eq_self.mpr fun finding hmem => decide_eq_true (h finding hmem)

theorem AllOn.findingsOn_of_ne {other : Slot} (h : AllOn other findings) (hne : other ≠ slot) :
    findingsOn slot findings = [] := by
  refine List.filter_eq_nil_iff.mpr fun finding hmem => ?_
  rw [h finding hmem, decide_eq_true_eq]
  exact hne

/-! ### What each part of an audit reads -/

theorem loadRecord_congr (h : first pool = second pool) :
    loadRecord first programId pool = loadRecord second programId pool := by
  rw [loadRecord, loadRecord, h]

theorem checkAccount_congr {owner : Key} {check : Account → List Finding}
    (h : first (book.address role) = second (book.address role)) :
    checkAccount first book role owner check = checkAccount second book role owner check := by
  rw [checkAccount, checkAccount, h]

/-- The checks of a role read the role's account and no other. -/
theorem checkRole_congr (h : first (book.address role) = second (book.address role)) :
    checkRole first book record role = checkRole second book record role := by
  unfold checkRole
  split <;> first | rfl | exact checkAccount_congr h

theorem findingsOn_flatMap_checkRole {roles : List Role} (hroles : roles.Nodup) :
    findingsOn (.role role) (roles.flatMap (checkRole reader book record))
      = if role ∈ roles then checkRole reader book record role else [] := by
  induction roles with
  | nil => rfl
  | cons other roles ih =>
    obtain ⟨hnot, hroles⟩ := List.nodup_cons.mp hroles
    have hother := allOn_checkRole reader book record other
    rw [List.flatMap_cons, findingsOn_append, ih hroles]
    by_cases hsame : role = other
    · subst hsame
      rw [hother.findingsOn_eq, if_neg hnot, if_pos List.mem_cons_self, List.append_nil]
    · have hslot : Slot.role other ≠ .role role := fun heq => hsame (Slot.role.inj heq).symm
      rw [hother.findingsOn_of_ne hslot, List.nil_append]
      simp only [List.mem_cons, hsame, false_or]

theorem findingsOn_config_flatMap_checkRole (roles : List Role) :
    findingsOn .config (roles.flatMap (checkRole reader book record)) = [] := by
  rw [findingsOn, List.filter_flatMap, List.flatMap_eq_nil_iff]
  exact fun role _ => (allOn_checkRole reader book record role).findingsOn_of_ne nofun

/-! ### What a whole audit says of one slot -/

section Loaded

variable (hload : loadRecord reader programId pool = .ok record)
  (hbook : AddressBook.derive? scheme programId record.root = some book)
include hload hbook

/-- The findings about a role: what the record has wrong about its address and bump, whether it could
have a private key, and what is wrong with its account. -/
theorem findingsOn_audit (role : Role) :
    findingsOn (.role role) (audit scheme reader programId pool)
      = findingsOn (.role role) (checkAddresses book pool record ++ checkAuthorities scheme book)
        ++ if role ∈ accountRoles then checkRole reader book record role else [] := by
  rw [audit_eq_checks hload hbook, findingsOn_append,
    findingsOn_flatMap_checkRole (by decide : accountRoles.Nodup)]

theorem findingsOn_config_audit :
    findingsOn .config (audit scheme reader programId pool)
      = findingsOn .config (checkAddresses book pool record ++ checkAuthorities scheme book) := by
  rw [audit_eq_checks hload hbook, findingsOn_append, findingsOn_config_flatMap_checkRole,
    List.append_nil]

end Loaded

section TwoReaders

variable (hpool : first pool = second pool)
include hpool

/-- Where no record can be read or no address derived from it, the audit does not go further than
the pool's own account. So only pools with known addresses need to be looked into. -/
theorem findingsOn_congr_of_book
    (h : ∀ record book, loadRecord first programId pool = .ok record →
      loadRecord second programId pool = .ok record →
      AddressBook.derive? scheme programId record.root = some book →
      findingsOn slot (audit scheme first programId pool)
        = findingsOn slot (audit scheme second programId pool)) :
    findingsOn slot (audit scheme first programId pool)
      = findingsOn slot (audit scheme second programId pool) := by
  have hsame : loadRecord first programId pool = _ := loadRecord_congr hpool
  cases hload : loadRecord first programId pool with
  | error finding => simp only [audit, ← hsame, hload]
  | ok record =>
    cases hbook : AddressBook.derive? scheme programId record.root with
    | none => simp only [audit, ← hsame, hload, hbook]
    | some book => exact h record book hload (hsame ▸ hload) hbook

theorem findingsOn_config_audit_congr :
    findingsOn .config (audit scheme first programId pool)
      = findingsOn .config (audit scheme second programId pool) := by
  refine findingsOn_congr_of_book hpool fun record book hfirst hsecond hbook => ?_
  rw [findingsOn_config_audit hfirst hbook, findingsOn_config_audit hsecond hbook]

/-- **Findings do not mask one another.** Two readers that show the same account at the pool's
address, and the same account at the address that a role has according to the record there, get the
same findings about that role, in the same order, whatever else they show. -/
theorem findingsOn_audit_congr
    (hrole : ∀ record book, loadRecord first programId pool = .ok record →
      AddressBook.derive? scheme programId record.root = some book →
      first (book.address role) = second (book.address role)) :
    findingsOn (.role role) (audit scheme first programId pool)
      = findingsOn (.role role) (audit scheme second programId pool) := by
  refine findingsOn_congr_of_book hpool fun record book hfirst hsecond hbook => ?_
  rw [findingsOn_audit hfirst hbook, findingsOn_audit hsecond hbook,
    checkRole_congr (hrole record book hfirst hbook)]

end TwoReaders

/-! ### A foreign account, seen with and without the mint beside it -/

section Sample

open AddressBook (sample)

variable (hsame : reader sample.pool = Setup.sampleReader sample.pool)
include hsame

theorem loadRecord_of_sample :
    loadRecord reader .stakePoolProgram sample.pool
      = .ok (.initial sample Setup.sample.parameters (Plan.pinned Store.sample.rent)) := by
  rw [loadRecord_congr hsame]
  exact Setup.loadRecord_sample

theorem findingsOn_of_sample (hrole : role ∈ accountRoles) :
    findingsOn (.role role) (audit .standard reader .stakePoolProgram sample.pool)
      = checkRole reader sample
        (.initial sample Setup.sample.parameters (Plan.pinned Store.sample.rent)) role := by
  have hclean := Setup.founded_sample.audit_eq_nil Setup.derive?_sample
  obtain ⟨-, hfits⟩ :=
    (audit_eq_nil_iff_of_loadRecord Setup.loadRecord_sample Setup.derive?_sample).mp hclean
  obtain ⟨-, -, -, -, haddresses⟩ := hfits .config (by decide)
  rw [findingsOn_audit (loadRecord_of_sample hsame) Setup.derive?_sample, if_pos hrole,
    show checkAddresses _ _ _ = [] from haddresses,
    checkAuthorities_derived Setup.derive?_sample]
  rfl

end Sample

/-- The sample pool with somebody's own account in the place of the staked token leg. -/
def strayReader : Reader :=
  Function.update Setup.sampleReader (AddressBook.sample.address .stLeg) (some (.plain 1))

/-- The same pool, and the mint of the staked token gone. -/
def mintlessReader : Reader :=
  Function.update strayReader (AddressBook.sample.address .stMint) none

theorem strayReader_pool :
    strayReader AddressBook.sample.pool = Setup.sampleReader AddressBook.sample.pool :=
  Function.update_of_ne
    (fun heq => nomatch AddressBook.distinct_sample .config (.role .stLeg) heq) ..

theorem mintlessReader_pool :
    mintlessReader AddressBook.sample.pool = strayReader AddressBook.sample.pool :=
  Function.update_of_ne
    (fun heq => nomatch AddressBook.distinct_sample .config (.role .stMint) heq) ..

theorem findingsOn_audit_congr_mintlessReader :
    let findings := audit .standard mintlessReader .stakePoolProgram AddressBook.sample.pool
    findingsOn (.role .stMint) findings
        = [.missingAccount (.role .stMint) (AddressBook.sample.address .stMint)]
      ∧ findingsOn (.role .stLeg) findings
        = [.wrongOwner (.role .stLeg) .tokenProgram .systemProgram] := by
  have hstray : strayReader (AddressBook.sample.address .stLeg) = some (.plain 1) :=
    Function.update_self ..
  have hgone : mintlessReader (AddressBook.sample.address .stMint) = none :=
    Function.update_self ..
  have hother : AddressBook.sample.address .stLeg ≠ AddressBook.sample.address .stMint :=
    fun heq => nomatch AddressBook.distinct_sample (.role .stLeg) (.role .stMint) heq
  constructor
  · rw [findingsOn_of_sample (mintlessReader_pool.trans strayReader_pool) (by decide)]
    simp only [checkRole, Slot.duty, checkMint, checkAccount, hgone]
  · rw [← findingsOn_audit_congr mintlessReader_pool.symm,
      findingsOn_of_sample strayReader_pool (by decide)]
    · simp only [checkRole, Slot.duty, checkTokenAccount, checkAccount, hstray]
      exact if_pos Key.tokenProgram_ne_systemProgram.symm
    · intro record book hload hbook
      obtain rfl :=
        Except.ok.inj ((loadRecord_of_sample strayReader_pool).symm.trans hload)
      obtain rfl := Option.some.inj (Setup.derive?_sample.symm.trans hbook)
      exact (Function.update_of_ne hother ..).symm

end Audit

end StakePool
