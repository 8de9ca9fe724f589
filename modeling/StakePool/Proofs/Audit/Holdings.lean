import StakePool.Proofs.Audit.Checks
import StakePool.Proofs.Chain.Ledger
/-!
# What nobody looks at in a token account

The staked token leg and the treasury start out without tokens, without a delegate, without anyone
but their owner to close them, and unfrozen. That they are still so is asked by nobody: the audit
and a setup that is resumed both look at the program, the mint and the owner of a token account, and
at whether it is in use. So an audit that finds nothing goes on to find nothing when one of these
accounts is replaced by any other with the same mint and owner.
-/

namespace StakePool

/-- Only the owner can dispose of the account, and there is nothing in it yet. -/
structure TokenAccount.IsPristine (tokens : TokenAccount) : Prop where
  amount_eq : tokens.amount = 0
  delegate_eq : tokens.delegate = none
  closeAuthority_eq : tokens.closeAuthority = none
  not_frozen : tokens.state ≠ .frozen

theorem TokenAccount.isPristine_opened (mint owner : Key) : (opened mint owner).IsPristine :=
  ⟨rfl, rfl, rfl, nofun⟩

theorem Operation.openTokenAccount_applied_iff {reader : Reader}
    {programId address mint owner : Key} {account : Account} (hfound : reader address = some account) :
    (openTokenAccount address mint owner).status reader programId = .applied
      ↔ account.owner = .tokenProgram
        ∧ ∃ tokens, TokenAccount.initialized? account.data = some tokens
          ∧ tokens.owner = owner ∧ tokens.mint = mint := by
  constructor
  · intro h
    obtain ⟨_, tokens, hsame, hprogram, hread, hmint, howner⟩ :=
      exists_of_openTokenAccount_applied h
    obtain rfl := Option.some.inj (hfound.symm.trans hsame)
    exact ⟨hprogram, tokens, hread, howner, hmint⟩
  · rintro ⟨hprogram, tokens, hread, rfl, rfl⟩
    have htaken : ¬ account.IsVacant := fun hvacant =>
      Key.tokenProgram_ne_systemProgram (hprogram.symm.trans hvacant.2)
    obtain ⟨hdata, hstate⟩ := TokenAccount.initialized?_eq_some_iff.mp hread
    rw [status_of_taken _ hfound htaken]
    simp [statusOfTaken, hprogram, hdata, hstate]

namespace Audit

variable {scheme : AddressScheme} {reader : Reader} {programId pool : Key} {book : AddressBook}
  {record : PoolRecord} {role : Role} {owner : Slot}
  (hload : loadRecord reader programId pool = .ok record)
  (hbook : AddressBook.derive? scheme programId record.root = some book)
  (hdistinct : book.Distinct) (hclean : audit scheme reader programId pool = [])
include hload hbook hdistinct hclean

theorem loadRecord_update (role : Role) (account? : Option Account) :
    loadRecord (Function.update reader (book.address role) account?) programId pool
      = .ok record := by
  obtain ⟨rfl, -⟩ := (audit_eq_nil_iff_of_loadRecord hload hbook).mp hclean
  have hpool : book.pool ≠ book.address role :=
    fun heq => absurd (hdistinct .config (.role role) heq) (by simp)
  rw [loadRecord_eq_ok_iff, Function.update_of_ne hpool]
  exact loadRecord_eq_ok_iff.mp hload

/-- Where an audit finds nothing, another account in a role passes exactly if it does the duty of
the role. -/
theorem audit_update_eq_nil_iff (hrole : role ∈ accountRoles) (account : Account) :
    audit scheme (Function.update reader (book.address role) (some account)) programId pool = []
      ↔ (Slot.role role).duty.Fits book record account := by
  have hload' := loadRecord_update hload hbook hdistinct hclean role (some account)
  obtain ⟨hpool, hfits⟩ := (audit_eq_nil_iff_of_loadRecord hload hbook).mp hclean
  rw [audit_eq_nil_iff_of_loadRecord hload' hbook]
  constructor
  · rintro ⟨-, hall⟩
    obtain ⟨found, hfound, hduty⟩ := hall (.role role) (mem_accountRoles_iff.mp hrole)
    have hself : Function.update reader (book.address role) (some account)
        (book.slot (.role role)).address = some account := Function.update_self ..
    obtain rfl := Option.some.inj (hself.symm.trans hfound)
    exact hduty
  · refine fun hduty => ⟨hpool, fun slot hslot => ?_⟩
    by_cases hsame : slot = .role role
    · subst hsame
      exact ⟨account, Function.update_self .., hduty⟩
    · have hother : (book.slot slot).address ≠ book.address role :=
        fun heq => hsame (hdistinct slot (.role role) heq)
      rw [Function.update_of_ne hother]
      exact hfits slot hslot

/-- **All that is asked of a token account.** Where an audit finds nothing, let any account take the
place of the staked token leg or of the treasury. The audit still finds nothing exactly if a setup
that is resumed would take the account for opened, and exactly if it belongs to the token program
and reads as a token account in use with the right owner and the right mint. Its balance, its
delegate, who may close it and whether it is frozen make no difference. -/
theorem audit_update_tokens (hduty : (Slot.role role).duty = .tokens owner) (account : Account) :
    let replaced := Function.update reader (book.address role) (some account)
    (audit scheme replaced programId pool = []
        ↔ (Operation.openTokenAccount (book.address role) (book.address .stMint)
          (book.slot owner).address).status replaced programId = .applied)
      ∧ (audit scheme replaced programId pool = []
        ↔ account.owner = .tokenProgram
          ∧ ∃ tokens, TokenAccount.initialized? account.data = some tokens
            ∧ tokens.owner = (book.slot owner).address ∧ tokens.mint = book.address .stMint) := by
  have hrole : role ∈ accountRoles := by
    cases role <;> first | decide | cases hduty
  have haudit := audit_update_eq_nil_iff hload hbook hdistinct hclean hrole account
  rw [hduty] at haudit
  exact ⟨haudit.trans (Operation.openTokenAccount_applied_iff (Function.update_self ..)).symm,
    haudit⟩

end Audit

/-! ### A pledged staked token leg -/

namespace Setup

/-- The accounts after the setup of the sample pool. -/
def sampleReader : Reader := (sample.execute .standard Store.sample).store.accounts.find?

/-- There are tokens on it, somebody else may move them and close it, and it is frozen. -/
def pledgedTokens : TokenAccount :=
  { TokenAccount.opened (AddressBook.sample.address .stMint)
      (AddressBook.sample.address .stLegAuthority) with
    amount := 1000
    delegate := some (.ofNat 8)
    state := .frozen
    delegatedAmount := 1000
    closeAuthority := some (.ofNat 8) }

def pledgedLeg : Account where
  lamports := Plan.pinned Store.sample.rent
  data := pledgedTokens.writeOver (Bytes.zeros TokenAccount.size)
  owner := .tokenProgram

theorem initialized?_pledgedLeg :
    TokenAccount.initialized? pledgedLeg.data = some pledgedTokens :=
  TokenAccount.initialized?_eq_some_iff.mpr ⟨TokenAccount.ofData?_writeOver _ _, nofun⟩

theorem founded_sample :
    Chain.Founded Store.sample.rent .sample sample.parameters sampleReader :=
  .of_setup derive?_sample AddressBook.distinct_sample (by decide +kernel) Plan.pinned_standard
    execute_sample

theorem loadRecord_sample :
    Audit.loadRecord sampleReader sample.programId AddressBook.sample.pool
      = .ok (.initial .sample sample.parameters (Plan.pinned Store.sample.rent)) := by
  obtain ⟨account, hfound, howner, hdata⟩ := founded_sample.exists_record
  exact Audit.loadRecord_initial hfound howner hdata

end Setup

namespace Audit

theorem audit_update_tokens_sample :
    let replaced := Function.update Setup.sampleReader (AddressBook.sample.address .stLeg)
      (some Setup.pledgedLeg)
    audit .standard replaced .stakePoolProgram AddressBook.sample.pool = []
      ∧ (Operation.openTokenAccount (AddressBook.sample.address .stLeg)
        (AddressBook.sample.address .stMint) (AddressBook.sample.address .stLegAuthority)).status
          replaced .stakePoolProgram = .applied := by
  have htokens := audit_update_tokens Setup.loadRecord_sample Setup.derive?_sample
    AddressBook.distinct_sample (Setup.founded_sample.audit_eq_nil Setup.derive?_sample)
    (rfl : (Slot.role .stLeg).duty = .tokens (.role .stLegAuthority)) Setup.pledgedLeg
  have haccepted := htokens.2.mpr ⟨rfl, _, Setup.initialized?_pledgedLeg, rfl, rfl⟩
  exact ⟨haccepted, htokens.1.mp haccepted⟩

/-- An audit can find nothing although the staked token leg has been pledged. -/
theorem not_forall_isPristine_of_audit :
    ¬ ∀ (scheme : AddressScheme) (reader : Reader) (programId pool : Key) (record : PoolRecord)
      (book : AddressBook), loadRecord reader programId pool = .ok record →
      AddressBook.derive? scheme programId record.root = some book →
      audit scheme reader programId pool = [] →
      ∀ role owner, (Slot.role role).duty = .tokens owner → ∃ account tokens,
        reader (book.address role) = some account
          ∧ TokenAccount.initialized? account.data = some tokens ∧ tokens.IsPristine := by
  intro hclaim
  have hclean := Setup.founded_sample.audit_eq_nil Setup.derive?_sample
  have haccepted := (audit_update_eq_nil_iff Setup.loadRecord_sample Setup.derive?_sample
    AddressBook.distinct_sample hclean (by decide : Role.stLeg ∈ accountRoles)
    Setup.pledgedLeg).mpr ⟨rfl, _, Setup.initialized?_pledgedLeg, rfl, rfl⟩
  obtain ⟨account, tokens, hfound, hread, hpristine⟩ := hclaim _ _ _ _ _ _
    (loadRecord_update Setup.loadRecord_sample Setup.derive?_sample AddressBook.distinct_sample
      hclean .stLeg (some Setup.pledgedLeg))
    Setup.derive?_sample haccepted .stLeg (.role .stLegAuthority) rfl
  rw [Function.update_self] at hfound
  obtain rfl := Option.some.inj hfound
  obtain rfl := Option.some.inj (Setup.initialized?_pledgedLeg.symm.trans hread)
  exact absurd hpristine.amount_eq (by decide)

end Audit

end StakePool
