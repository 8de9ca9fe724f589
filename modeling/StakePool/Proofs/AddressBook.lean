import StakePool.AddressBook
/-!
# Derived address books

What the derivation of a pool's addresses guarantees, for any hash and any curve: every address
comes from its own seeds with its own bump, so the program can sign for it, and no address lies on
the curve. That the addresses differ is a matter of the hash; where a statement needs it, it says so
by `Distinct`.
-/

namespace StakePool

/-- The key whose bytes spell a number, least significant byte first. -/
def Key.ofNat (number : Nat) : Key := ⟨Bytes.ofNat 32 number, Bytes.length_ofNat ..⟩

namespace AddressScheme

variable {scheme : AddressScheme} {seeds : List Bytes} {programId : Key}

theorem offCurve_of_create? {key : Key} (h : scheme.create? seeds programId = some key) :
    scheme.OffCurve key := by
  simp only [create?] at h
  split at h
  · next hoff =>
    obtain rfl := Option.some.inj h
    exact hoff
  · cases h

theorem create?_of_search {bump : Nat} {derived : DerivedAddress}
    (h : scheme.search seeds programId bump = some derived) :
    scheme.create? (seeds ++ [[derived.bump]]) programId = some derived.address := by
  induction bump with
  | zero => cases h
  | succ bump ih =>
    rw [search] at h
    cases hcreate : scheme.create? (seeds ++ [[UInt8.ofNat (bump + 1)]]) programId with
    | none =>
      rw [hcreate] at h
      exact ih h
    | some address =>
      rw [hcreate] at h
      obtain rfl := Option.some.inj h
      exact hcreate

end AddressScheme

namespace AddressBook

variable {scheme : AddressScheme} {programId root : Key} {book : AddressBook}

instance : Membership Key AddressBook := ⟨fun book key => ∃ slot, (book.slot slot).address = key⟩

@[simp] theorem mem_slot (book : AddressBook) (slot : Slot) : (book.slot slot).address ∈ book :=
  ⟨slot, rfl⟩

@[simp] theorem mem_address (book : AddressBook) (role : Role) : book.address role ∈ book :=
  book.mem_slot (.role role)

@[simp] theorem mem_pool (book : AddressBook) : book.pool ∈ book := book.mem_slot .config

theorem mem_iff_mem_all {key : Key} :
    key ∈ book ↔ ∃ slot ∈ Slot.all, (book.slot slot).address = key :=
  ⟨fun ⟨slot, hslot⟩ => ⟨slot, slot.mem_all, hslot⟩, fun ⟨slot, _, hslot⟩ => ⟨slot, hslot⟩⟩

instance (key : Key) : Decidable (key ∈ book) := decidable_of_iff' _ mem_iff_mem_all

/-- No two slots of the pool have the same address. -/
def Distinct (book : AddressBook) : Prop :=
  ∀ first second, (book.slot first).address = (book.slot second).address → first = second

theorem distinct_iff :
    book.Distinct ↔ ∀ first ∈ Slot.all, ∀ second ∈ Slot.all,
      (book.slot first).address = (book.slot second).address → first = second :=
  ⟨fun h first _ second _ => h first second,
    fun h first second => h first first.mem_all second second.mem_all⟩

instance : Decidable book.Distinct := decidable_of_iff' _ distinct_iff

theorem Distinct.address_inj (h : book.Distinct) {first second : Slot} :
    (book.slot first).address = (book.slot second).address ↔ first = second :=
  ⟨h first second, fun heq => heq ▸ rfl⟩

theorem pool_eq_slot (book : AddressBook) : book.pool = (book.slot .config).address := rfl

theorem address_eq_slot (book : AddressBook) (role : Role) :
    book.address role = (book.slot (.role role)).address := rfl

section Derived

variable (h : derive? scheme programId root = some book)
include h

theorem derive?_spec :
    book.programId = programId ∧ book.root = root
      ∧ findConfig? scheme programId root = some book.config
      ∧ ∀ role, findRole? scheme programId book.pool role = some (book.roles.get role) := by
  obtain ⟨config, hconfig, h⟩ := Option.bind_eq_some_iff.mp h
  obtain ⟨roles, hroles, h⟩ := Option.bind_eq_some_iff.mp h
  obtain rfl := Option.some.inj h
  exact ⟨rfl, rfl, hconfig, RoleTable.collect_eq_some_iff.mp hroles⟩

theorem create?_signerSeeds (slot : Slot) :
    scheme.create? (book.signerSeeds slot) programId = some (book.slot slot).address := by
  obtain ⟨-, hroot, hconfig, hroles⟩ := derive?_spec h
  cases slot with
  | config =>
    rw [← hroot] at hconfig
    exact AddressScheme.create?_of_search hconfig
  | role role => exact AddressScheme.create?_of_search (hroles role)

/-- No private key stands behind an address of a pool. -/
theorem offCurve_slot (slot : Slot) : scheme.OffCurve (book.slot slot).address :=
  AddressScheme.offCurve_of_create? (create?_signerSeeds h slot)

end Derived

/-! ### The addresses of one pool

All of them are found with the first bump that is tried. -/

def sampleRoot : Key := .ofNat 0x381b

def sample : AddressBook :=
  let first (number : Nat) : DerivedAddress := ⟨.ofNat number, 255⟩
  { programId := .stakePoolProgram
    root := sampleRoot
    config := first 0xe90b1a3d56e4342364afa7d568d439180bbb4eb9970e89b521784d5d8a174bc1
    roles := {
      reserve := first 0x3a056e07a83bf370488b0d103aa22b81d68d12042f329f7caa3cb6788032670f
      solLeg := first 0xe8148735e218603b01833417513683fc252145997f637b6046b829722f3bc9ad
      stLegAuthority := first 0xb5fda2cc51cb83e4e245556f65a7202fac9a74d8fb721a1aea78ff2b4d3982b7
      stLeg := first 0x5633f53e8ed7cc650e32c92e97d61310d0b534877d328a88785a467154d4acac
      stMint := first 0xcc3d607bc8fc5086057b4121b8f0e981f3b4f1c09920b83d946d6febf4e7b848
      stMintAuthority := first 0xb101389fab357ab1ecf67b61480a1c8faaf1e339623b7b342e0994f093f71826
      lpMint := first 0x76778bb3a45ea0d77483d8f78a297ab5776cd1ba046ff6c76d09233c39b43f79
      lpMintAuthority := first 0xe1072473538abf987d1f6916dd50fe5928aaad41f2a6caa272928917e2bd74b
      treasury := first 0x35ca75114b93796471f9e93edf0391ea8232f938c8143eed61b330ee516112b4
      stakeList := first 0xdeae1b3151eea379f488ab35ee3b62a6ad3401d7f0b5bd0512fdf872d4a6c235
      validatorList := first 0x86047bacfc6842a662a642bca3f36bff37396284417f06866207a2a9cfde15ca
      depositAuthority := first 0x14bc2a98821edb45a83e1377a830ded317b2bc71a8f5bd94e1b0bb6cfb0835f3
      withdrawAuthority :=
        first 0x72dd3108c6cbfe77cc4caa433957930c980512a767df7db4e6473acef04295c9 } }

theorem derive?_sample : derive? .standard .stakePoolProgram sampleRoot = some sample := by
  decide +kernel

theorem distinct_sample : sample.Distinct := by decide +kernel

end AddressBook

end StakePool
