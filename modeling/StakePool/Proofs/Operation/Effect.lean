import StakePool.Operation.Apply
/-!
# What an operation changes

An accepted operation touches two accounts at most. Its target ends up as `Operation.result` says,
which depends on nothing but the target before, and the payer is charged what the target lacked. It
is accepted exactly when the target `Admits` it, a token account's mint is in use and the payer can
afford the charge. Everything proved about runs goes through `apply_eq_ok_iff` and `find?_apply`; no
later module looks at how an operation is carried out.
-/

namespace StakePool

variable {rent : Rent} {programId payer : Key}

namespace Saturating

theorem max_sub_left (a b : UInt64) : max a b - a = sub64 b a := by
  change (if a ≤ b then b else a) - a = _
  unfold sub64
  split
  · rfl
  · exact UInt64.sub_self a

theorem max_eq_right_of_not_le {a b : UInt64} (h : ¬ b ≤ a) : max a b = b :=
  if_pos (UInt64.le_of_lt (UInt64.not_le.mp h))

theorem max_eq_left_of_le {a b : UInt64} (h : b ≤ a) : max a b = a := by
  change (if a ≤ b then b else a) = a
  split
  · next hle => exact UInt64.le_antisymm h hle
  · rfl

theorem le_max_left (a b : UInt64) : a ≤ max a b := by
  by_cases h : b ≤ a
  · rw [max_eq_left_of_le h]
    exact UInt64.le_refl a
  · rw [max_eq_right_of_not_le h]
    exact UInt64.le_of_lt (UInt64.not_le.mp h)

theorem le_max_right (a b : UInt64) : b ≤ max a b := by
  by_cases h : b ≤ a
  · rwa [max_eq_left_of_le h]
  · rw [max_eq_right_of_not_le h]
    exact UInt64.le_refl b

theorem sub64_eq_zero_iff {a b : UInt64} : sub64 a b = 0 ↔ a ≤ b := by
  rw [← UInt64.toNat_inj, toNat_sub64, UInt64.le_iff_toNat_le]
  exact Nat.sub_eq_zero_iff_le

theorem le_add64 (a b : UInt64) : a ≤ add64 a b := by
  have ha : a.toNat < UInt64.size := a.toNat_lt
  rw [UInt64.le_iff_toNat_le, toNat_add64]
  omega

end Saturating

theorem Except.map_eq_ok_iff {ε α β : Type} {f : α → β} {x : Except ε α} {b : β} :
    x.map f = .ok b ↔ ∃ a, x = .ok a ∧ f a = b := by
  cases x <;> simp [Except.map]

theorem Except.bind_eq_ok_iff {ε α β : Type} {x : Except ε α} {f : α → Except ε β} {b : β} :
    x >>= f = .ok b ↔ ∃ a, x = .ok a ∧ f a = .ok b := by
  cases x <;> simp [bind, Except.bind]

theorem Except.ite_error_eq_ok_iff {ε α : Type} {c : Prop} [Decidable c] {error : ε}
    {rest : Except ε α} {a : α} :
    (if c then .error error else rest) = .ok a ↔ ¬ c ∧ rest = .ok a := by
  by_cases hc : c <;> simp [hc]

theorem Except.ite_throw_eq_ok_iff {ε α : Type} {c : Prop} [Decidable c] {error : ε}
    {f : PUnit → Except ε α} {rest : Except ε α} {a : α} :
    (if c then throw error >>= f else rest) = .ok a ↔ ¬ c ∧ rest = .ok a := by
  by_cases hc : c
  · simp [hc, throw, throwThe, MonadExceptOf.throw, bind, Except.bind]
  · simp [hc]

theorem Account.IsVacant.with_lamports {account : Account} (h : account.IsVacant)
    (lamports : UInt64) : { account with lamports } = .plain lamports := by
  rw [Account.plain, ← h.1, ← h.2]

theorem Account.not_isVacant_of_length {account : Account} (h : 0 < account.data.length) :
    ¬ account.IsVacant := by
  intro hvacant
  rw [hvacant.1] at h
  exact Nat.lt_irrefl 0 h

namespace Accounts

variable {accounts : Accounts}

/-- The accounts after a charge that the payer can afford. -/
def debited (accounts : Accounts) (payer : Key) (amount : UInt64) : Accounts :=
  if amount = 0 then accounts
  else accounts.insert payer
    { accounts.get payer with lamports := (accounts.get payer).lamports - amount }

theorem charge_eq_ok_iff {amount : UInt64} {charged : Accounts} :
    accounts.charge payer amount = .ok charged ↔
      amount ≤ (accounts.get payer).lamports ∧ charged = accounts.debited payer amount := by
  unfold charge debited
  by_cases hzero : amount = 0
  · simp only [hzero, if_true, Except.ok.injEq, UInt64.zero_le, true_and]
    exact eq_comm
  · simp only [hzero, if_false]
    split
    · next hless =>
      simp only [reduceCtorEq, false_iff, not_and]
      exact fun hle => absurd hless (UInt64.not_lt.mpr hle)
    · next hless =>
      simp only [Except.ok.injEq, UInt64.not_lt.mp hless, true_and]
      exact eq_comm

theorem find?_debited (amount : UInt64) (key : Key) :
    (accounts.debited payer amount).find? key =
      if key = payer ∧ amount ≠ 0 then
        some { accounts.get payer with lamports := (accounts.get payer).lamports - amount }
      else accounts.find? key := by
  unfold debited
  by_cases hzero : amount = 0
  · simp [hzero]
  · simp [hzero, find?_insert]

theorem get_eq_of_find? {key : Key} {account : Account} (h : accounts.find? key = some account) :
    accounts.get key = account := by
  simp [get, h]

theorem get_congr {other : Accounts} {key : Key} (h : accounts.find? key = other.find? key) :
    accounts.get key = other.get key := by
  simp only [get, h]

theorem find?_eq_some_get {key : Key} (h : accounts.get key ≠ .plain 0) :
    accounts.find? key = some (accounts.get key) := by
  unfold get at h ⊢
  cases hfound : accounts.find? key with
  | none => simp [hfound] at h
  | some account => rfl

end Accounts

namespace Operation

/-- The target account once the operation has been carried out. -/
def result : Operation → Account → Account
  | createAccount _ _ space lamports owner, target =>
    ⟨max target.lamports lamports, Bytes.zeros space.toNat, owner⟩
  | fund _ lamports, target => { target with lamports := max target.lamports lamports }
  | openMint _ decimals authority freezeAuthority, target =>
    { target with data := (Mint.opened decimals authority freezeAuthority).writeOver target.data }
  | openTokenAccount _ mint owner, target =>
    { target with data := (TokenAccount.opened mint owner).writeOver target.data }
  | writeRegistry _ header, target =>
    { target with data := Bytes.overwrite header.encode target.data }
  | writeRecord _ record, target => { target with data := record.encode }

/-- The target has what the operation would bring, and is left alone. -/
def IsIdle : Operation → Account → Prop
  | fund _ lamports, target => lamports ≤ target.lamports
  | _, _ => False

instance (op : Operation) (target : Account) : Decidable (op.IsIdle target) :=
  match op with
  | fund _ lamports => inferInstanceAs (Decidable (lamports ≤ target.lamports))
  | createAccount .. | openMint .. | openTokenAccount .. | writeRegistry .. | writeRecord .. =>
    inferInstanceAs (Decidable False)

/-- The target account lets the operation be carried out. -/
def Admits (rent : Rent) (programId : Key) : Operation → Account → Prop
  | createAccount _ _ space lamports _, target =>
    target.IsVacant ∧ rent.IsExempt (max target.lamports lamports) space.toNat
  | fund .., target => target.IsVacant
  | openMint .., target =>
    target.owner = .tokenProgram ∧ target.data.length = Mint.size
      ∧ rent.IsExempt target.lamports target.data.length
      ∧ ∃ mint, Mint.ofData? target.data = some mint ∧ mint.isInitialized = false
  | openTokenAccount .., target =>
    target.owner = .tokenProgram ∧ target.data.length = TokenAccount.size
      ∧ rent.IsExempt target.lamports target.data.length
      ∧ ∃ account, TokenAccount.ofData? target.data = some account ∧ account.state = .uninitialized
  | writeRegistry .., target =>
    target.owner = programId ∧ RegistryHeader.size ≤ target.data.length
      ∧ Bytes.IsBlank (target.data.take RegistryHeader.size)
  | writeRecord .., target =>
    target.owner = programId ∧ target.data.length = PoolRecord.size ∧ target.data.IsBlank

/-- A token account is opened only for a mint in use. -/
def HasItsMint : Operation → Accounts → Prop
  | openTokenAccount _ mint _, accounts => accounts.HasMint mint
  | _, _ => True

/-- The accounts after the operation. -/
def effect (op : Operation) (payer : Key) (accounts : Accounts) : Accounts :=
  let target := accounts.get op.target
  if op.IsIdle target then accounts
  else
    (accounts.debited payer (op.fundingNeeded accounts.find?)).insert op.target (op.result target)

theorem fundingNeeded_createAccount (slot : Slot) (address owner : Key) (space lamports : UInt64)
    (accounts : Accounts) :
    (createAccount slot address space lamports owner).fundingNeeded accounts.find?
      = Saturating.sub64 lamports (accounts.get address).lamports := by
  simp only [fundingNeeded, Accounts.lamports_find?]

theorem fundingNeeded_fund (address : Key) (lamports : UInt64) (accounts : Accounts) :
    (fund address lamports).fundingNeeded accounts.find?
      = Saturating.sub64 lamports (accounts.get address).lamports := by
  simp only [fundingNeeded, Accounts.lamports_find?]

end Operation

/-! ### When an operation is accepted -/

namespace Accounts

variable {accounts after : Accounts}

theorem createAccount_eq_ok_iff {address owner : Key} {space lamports : UInt64} :
    accounts.createAccount rent payer address space lamports owner = .ok after ↔
      (accounts.get address).IsVacant
        ∧ rent.IsExempt (max (accounts.get address).lamports lamports) space.toNat
        ∧ Saturating.sub64 lamports (accounts.get address).lamports ≤ (accounts.get payer).lamports
        ∧ after = (accounts.debited payer
            (Saturating.sub64 lamports (accounts.get address).lamports)).insert address
          ⟨max (accounts.get address).lamports lamports, Bytes.zeros space.toNat, owner⟩ := by
  simp only [createAccount, Saturating.max_sub_left]
  split
  · next htaken => simp [htaken]
  · next hvacant =>
    rw [Decidable.not_not] at hvacant
    split
    · next hpoor => simp [hpoor]
    · next hexempt =>
      rw [Decidable.not_not] at hexempt
      simp only [hvacant, hexempt, true_and, Except.map_eq_ok_iff, charge_eq_ok_iff]
      constructor
      · rintro ⟨_, ⟨hpaid, rfl⟩, rfl⟩
        exact ⟨hpaid, rfl⟩
      · rintro ⟨hpaid, rfl⟩
        exact ⟨_, ⟨hpaid, rfl⟩, rfl⟩

theorem fund_eq_ok_iff {address : Key} {lamports : UInt64} :
    accounts.fund payer address lamports = .ok after ↔
      (accounts.get address).IsVacant
        ∧ Saturating.sub64 lamports (accounts.get address).lamports ≤ (accounts.get payer).lamports
        ∧ after = if lamports ≤ (accounts.get address).lamports then accounts
          else (accounts.debited payer
              (Saturating.sub64 lamports (accounts.get address).lamports)).insert address
            (.plain lamports) := by
  simp only [fund]
  split
  · next htaken => simp [htaken]
  · next hvacant =>
    rw [Decidable.not_not] at hvacant
    split
    · next henough =>
      simp [hvacant, Saturating.sub64_eq_zero_iff.mpr henough, eq_comm]
    · next hlack =>
      have hle := UInt64.le_of_lt (UInt64.not_le.mp hlack)
      simp only [hvacant, true_and, Except.map_eq_ok_iff, charge_eq_ok_iff, Saturating.sub64, hle,
        if_true]
      constructor
      · rintro ⟨_, ⟨hpaid, rfl⟩, rfl⟩
        exact ⟨hpaid, rfl⟩
      · rintro ⟨hpaid, rfl⟩
        exact ⟨_, ⟨hpaid, rfl⟩, rfl⟩

theorem owned_eq_ok_iff {owner address : Key} {account : Account} :
    accounts.owned owner address = .ok account ↔
      accounts.find? address = some account ∧ account.owner = owner := by
  unfold owned
  cases hfound : accounts.find? address with
  | none => simp
  | some found =>
    by_cases howner : found.owner = owner
    · simp only [howner, if_true, Except.ok.injEq, Option.some.injEq]
      exact ⟨fun heq => ⟨heq, heq ▸ howner⟩, fun h => h.1⟩
    · simp only [howner, if_false, reduceCtorEq, Option.some.injEq, false_iff, not_and]
      exact fun heq => heq ▸ howner

theorem tokenOwned_eq_ok_iff {address : Key} {size : Nat} {account : Account} :
    accounts.tokenOwned rent address size = .ok account ↔
      accounts.find? address = some account ∧ account.owner = .tokenProgram
        ∧ account.data.length = size ∧ rent.IsExempt account.lamports account.data.length := by
  unfold tokenOwned
  cases howned : accounts.owned .tokenProgram address with
  | error rejection =>
    simp only [reduceCtorEq, false_iff, not_and]
    intro hfound howner
    simp [owned_eq_ok_iff.mpr ⟨hfound, howner⟩] at howned
  | ok found =>
    obtain ⟨hfound, howner⟩ := owned_eq_ok_iff.mp howned
    simp only [hfound, Option.some.injEq]
    split
    · next hsize =>
      simp only [reduceCtorEq, false_iff, not_and]
      rintro rfl _ h
      exact absurd h hsize
    · split
      · next hpoor =>
        simp only [reduceCtorEq, false_iff, not_and]
        rintro rfl _ _
        exact hpoor
      · next hsize hexempt =>
        rw [Decidable.not_not] at hsize hexempt
        simp only [Except.ok.injEq]
        exact ⟨fun heq => heq ▸ ⟨rfl, howner, hsize, hexempt⟩, fun h => h.1⟩

theorem find?_of_length_pos (accounts : Accounts) {address : Key}
    (h : 0 < (accounts.get address).data.length) :
    accounts.find? address = some (accounts.get address) :=
  find?_eq_some_get fun hplain => by simp [hplain, Account.plain] at h

theorem openMint_eq_ok_iff (programId : Key) {mint authority : Key} {decimals : UInt8}
    {freeze : Option Key} :
    accounts.openMint rent mint decimals authority freeze = .ok after ↔
      (Operation.openMint mint decimals authority freeze).Admits rent programId (accounts.get mint)
        ∧ after = accounts.insert mint
          ((Operation.openMint mint decimals authority freeze).result (accounts.get mint)) := by
  simp only [openMint, Operation.Admits, Operation.result]
  cases hopen : accounts.tokenOwned rent mint Mint.size with
  | error rejection =>
    simp only [reduceCtorEq, false_iff, not_and]
    intro ⟨howner, hsize, hexempt, _⟩
    have hfound := accounts.find?_of_length_pos (by rw [hsize, Mint.size_eq]; decide)
    simp [tokenOwned_eq_ok_iff.mpr ⟨hfound, howner, hsize, hexempt⟩] at hopen
  | ok account =>
    obtain ⟨hfound, howner, hsize, hexempt⟩ := tokenOwned_eq_ok_iff.mp hopen
    simp only [get_eq_of_find? hfound, howner, hsize, hsize ▸ hexempt, true_and]
    cases hread : Mint.ofData? account.data with
    | none => simp
    | some state =>
      by_cases hstate : state.isInitialized
      · simp [hstate]
      · simp only [hstate, Bool.false_eq_true, if_false, Except.ok.injEq, Option.some.injEq,
          exists_eq_left', true_and]
        exact eq_comm

theorem openTokenAccount_eq_ok_iff (programId : Key) {address mint owner : Key} :
    accounts.openTokenAccount rent address mint owner = .ok after ↔
      (Operation.openTokenAccount address mint owner).Admits rent programId (accounts.get address)
        ∧ accounts.HasMint mint
        ∧ after = accounts.insert address
          ((Operation.openTokenAccount address mint owner).result (accounts.get address)) := by
  simp only [openTokenAccount, Operation.Admits, Operation.result]
  by_cases hmint : accounts.HasMint mint
  · simp only [hmint, not_true_eq_false, if_false, true_and]
    cases hopen : accounts.tokenOwned rent address TokenAccount.size with
    | error rejection =>
      simp only [reduceCtorEq, false_iff, not_and]
      intro ⟨howner, hsize, hexempt, _⟩
      have hfound := accounts.find?_of_length_pos (by rw [hsize, TokenAccount.size_eq]; decide)
      simp [tokenOwned_eq_ok_iff.mpr ⟨hfound, howner, hsize, hexempt⟩] at hopen
    | ok account =>
      obtain ⟨hfound, howner, hsize, hexempt⟩ := tokenOwned_eq_ok_iff.mp hopen
      simp only [get_eq_of_find? hfound, howner, hsize, hsize ▸ hexempt, true_and]
      cases hread : TokenAccount.ofData? account.data with
      | none => simp
      | some state =>
        by_cases hstate : state.state = .uninitialized
        · simp only [hstate, ne_eq, not_true_eq_false, if_false, Except.ok.injEq, Option.some.injEq,
            exists_eq_left', true_and]
          exact eq_comm
        · simp [hstate]
  · simp [hmint]

theorem writeRegistry_eq_ok_iff (rent : Rent) {address : Key} {header : RegistryHeader} :
    accounts.writeRegistry programId address header = .ok after ↔
      (Operation.writeRegistry address header).Admits rent programId (accounts.get address)
        ∧ after = accounts.insert address
          ((Operation.writeRegistry address header).result (accounts.get address)) := by
  simp only [writeRegistry, Operation.Admits, Operation.result]
  cases howned : accounts.owned programId address with
  | error rejection =>
    simp only [reduceCtorEq, false_iff, not_and]
    intro ⟨howner, hsize, _⟩
    have hfound := accounts.find?_of_length_pos (Nat.lt_of_lt_of_le (by decide) hsize)
    simp [owned_eq_ok_iff.mpr ⟨hfound, howner⟩] at howned
  | ok account =>
    obtain ⟨hfound, howner⟩ := owned_eq_ok_iff.mp howned
    simp only [get_eq_of_find? hfound, howner, true_and]
    by_cases hsize : account.data.length < RegistryHeader.size
    · simp [hsize, Nat.not_le.mpr hsize]
    · by_cases hblank : Bytes.IsBlank (account.data.take RegistryHeader.size) <;>
        simp [hsize, hblank, Nat.not_lt.mp hsize, eq_comm]

theorem writeRecord_eq_ok_iff (rent : Rent) {address : Key} {record : PoolRecord} :
    accounts.writeRecord programId address record = .ok after ↔
      (Operation.writeRecord address record).Admits rent programId (accounts.get address)
        ∧ after = accounts.insert address
          ((Operation.writeRecord address record).result (accounts.get address)) := by
  simp only [writeRecord, Operation.Admits, Operation.result]
  cases howned : accounts.owned programId address with
  | error rejection =>
    simp only [reduceCtorEq, false_iff, not_and]
    intro ⟨howner, hsize, _⟩
    have hfound := accounts.find?_of_length_pos (by rw [hsize, PoolRecord.size_eq]; decide)
    simp [owned_eq_ok_iff.mpr ⟨hfound, howner⟩] at howned
  | ok account =>
    obtain ⟨hfound, howner⟩ := owned_eq_ok_iff.mp howned
    simp only [get_eq_of_find? hfound, howner, true_and]
    by_cases hsize : account.data.length = PoolRecord.size
    · by_cases hblank : account.data.IsBlank <;> simp [hsize, hblank, eq_comm]
    · simp [hsize]

end Accounts

namespace Operation

variable {op : Operation} {before after : Accounts}

/-- When an operation is accepted, and what it leaves behind. -/
theorem apply_eq_ok_iff :
    op.apply rent programId payer before = .ok after ↔
      op.Admits rent programId (before.get op.target) ∧ op.HasItsMint before
        ∧ op.fundingNeeded before.find? ≤ (before.get payer).lamports
        ∧ after = op.effect payer before := by
  cases op with
  | createAccount slot address space lamports owner =>
    rw [apply, Accounts.createAccount_eq_ok_iff, fundingNeeded_createAccount]
    simp [Admits, HasItsMint, target, effect, IsIdle, result, fundingNeeded_createAccount,
      and_assoc]
  | fund address lamports =>
    rw [apply, Accounts.fund_eq_ok_iff, fundingNeeded_fund]
    simp only [Admits, HasItsMint, target, effect, IsIdle, result, fundingNeeded_fund, true_and]
    refine and_congr_right fun hvacant => and_congr_right fun _ => ?_
    rw [hvacant.with_lamports]
    by_cases henough : lamports ≤ (before.get address).lamports
    · simp [henough]
    · simp [henough, Saturating.max_eq_right_of_not_le henough]
  | openMint mint decimals authority freezeAuthority =>
    rw [apply, Accounts.openMint_eq_ok_iff programId]
    simp [HasItsMint, target, effect, IsIdle, fundingNeeded, Accounts.debited]
  | openTokenAccount account mint owner =>
    rw [apply, Accounts.openTokenAccount_eq_ok_iff programId]
    simp [HasItsMint, target, effect, IsIdle, fundingNeeded, Accounts.debited]
  | writeRegistry address header =>
    rw [apply, Accounts.writeRegistry_eq_ok_iff rent]
    simp [HasItsMint, target, effect, IsIdle, fundingNeeded, Accounts.debited]
  | writeRecord address record =>
    rw [apply, Accounts.writeRecord_eq_ok_iff rent]
    simp [HasItsMint, target, effect, IsIdle, fundingNeeded, Accounts.debited]

theorem fundingNeeded_eq_zero_of_isIdle (h : op.IsIdle (before.get op.target)) :
    op.fundingNeeded before.find? = 0 := by
  cases op with
  | fund address lamports =>
    rw [fundingNeeded_fund]
    exact Saturating.sub64_eq_zero_iff.mpr h
  | _ => exact h.elim

theorem result_eq_of_isIdle {account : Account} (h : op.IsIdle account) :
    op.result account = account := by
  cases op with
  | fund address lamports =>
    rw [result, Saturating.max_eq_left_of_le h]
  | _ => exact h.elim

section Accepted

variable (h : op.apply rent programId payer before = .ok after)
include h

theorem find?_apply (key : Key) :
    after.find? key =
      if key = op.target then
        if op.IsIdle (before.get key) then before.find? key else some (op.result (before.get key))
      else (before.debited payer (op.fundingNeeded before.find?)).find? key := by
  obtain ⟨-, -, -, rfl⟩ := apply_eq_ok_iff.mp h
  unfold effect
  by_cases hidle : op.IsIdle (before.get op.target)
  · by_cases hkey : key = op.target
    · subst hkey
      simp [hidle]
    · simp [hidle, hkey, fundingNeeded_eq_zero_of_isIdle hidle, Accounts.debited]
  · by_cases hkey : key = op.target
    · subst hkey
      simp [hidle]
    · simp [hidle, hkey, Accounts.find?_insert]

/-- Only the target and the payer are touched. -/
theorem find?_apply_of_ne {key : Key} (htarget : key ≠ op.target) (hpayer : key ≠ payer) :
    after.find? key = before.find? key := by
  rw [find?_apply h, if_neg htarget, Accounts.find?_debited, if_neg fun hboth => hpayer hboth.1]

theorem get_apply_target : after.get op.target = op.result (before.get op.target) := by
  have hfound := find?_apply h op.target
  rw [if_pos rfl] at hfound
  by_cases hidle : op.IsIdle (before.get op.target)
  · rw [if_pos hidle] at hfound
    rw [Accounts.get_congr hfound, result_eq_of_isIdle hidle]
  · rw [if_neg hidle] at hfound
    exact Accounts.get_eq_of_find? hfound

theorem get_apply_of_ne {key : Key} (htarget : key ≠ op.target) :
    after.get key =
      if key = payer then
        { before.get payer with
          lamports := (before.get payer).lamports - op.fundingNeeded before.find? }
      else before.get key := by
  have hfound := find?_apply h key
  rw [if_neg htarget, Accounts.find?_debited] at hfound
  by_cases hkey : key = payer
  · by_cases hzero : op.fundingNeeded before.find? = 0
    · rw [if_neg fun hboth => hboth.2 hzero] at hfound
      rw [Accounts.get_congr hfound, if_pos hkey, hzero, UInt64.sub_zero, hkey]
    · rw [if_pos ⟨hkey, hzero⟩] at hfound
      rw [Accounts.get_eq_of_find? hfound, if_pos hkey]
  · rw [if_neg fun hboth => hkey hboth.1] at hfound
    rw [Accounts.get_congr hfound, if_neg hkey]

theorem exists_find?_apply_of_ne {key : Key} {account : Account} (htarget : key ≠ op.target)
    (hfound : before.find? key = some account) :
    ∃ kept, after.find? key = some kept ∧ kept.owner = account.owner
      ∧ kept.data = account.data := by
  rw [find?_apply h, if_neg htarget, Accounts.find?_debited]
  split
  · next hpaid =>
    have hget := Accounts.get_eq_of_find? (hpaid.1 ▸ hfound)
    exact ⟨_, rfl, by rw [hget], by rw [hget]⟩
  · exact ⟨account, hfound, rfl, rfl⟩

end Accepted

end Operation

end StakePool
