import StakePool.Proofs.AddressSpace
/-!
# Canonical bumps

The search for a derived address tries the bumps from 255 down to 1 and stops at the first candidate
that is off the curve. What it stops at is characterized here without the search: the bump is not
zero, the program can sign with it, and every larger bump gives a candidate that somebody might hold
the private key of. `Canonical` says so, for one list of seeds; a book is what the derivation gives
exactly if every slot of it is canonical for its own path. Whoever has the root can therefore
compute the same addresses and bumps again, and nobody can have others accepted as canonical.

Nothing is asked of the hash or the curve.
-/

namespace StakePool

namespace AddressScheme

variable {scheme : AddressScheme} {seeds : List Bytes} {programId : Key} {derived : DerivedAddress}

theorem create?_eq_none_iff :
    scheme.create? seeds programId = none
      ↔ scheme.onCurve (scheme.digest (preimage seeds programId)) = true := by
  rw [create?, ite_eq_right_iff]
  simp [OffCurve]

/-- The address is created with the largest bump that creates one. -/
structure Canonical (scheme : AddressScheme) (seeds : List Bytes) (programId : Key)
    (derived : DerivedAddress) : Prop where
  bump_ne_zero : derived.bump ≠ 0
  created : scheme.create? (seeds ++ [[derived.bump]]) programId = some derived.address
  refused : ∀ larger, derived.bump < larger →
    scheme.create? (seeds ++ [[larger]]) programId = none

theorem Canonical.unique {other : DerivedAddress} (h : scheme.Canonical seeds programId derived)
    (h' : scheme.Canonical seeds programId other) : derived = other := by
  have hbump : derived.bump = other.bump := by
    rcases Nat.lt_trichotomy derived.bump.toNat other.bump.toNat with hlt | heq | hgt
    · have := h.refused _ (UInt8.lt_iff_toNat_lt.mpr hlt)
      simp [h'.created] at this
    · exact UInt8.toNat.inj heq
    · have := h'.refused _ (UInt8.lt_iff_toNat_lt.mpr hgt)
      simp [h.created] at this
  have haddress : some derived.address = some other.address := by
    rw [← h.created, ← h'.created, hbump]
  cases derived
  cases other
  simp_all

/-! ### The bytes that a search tries -/

theorem toNat_ofNat_succ {bump : Nat} (hbump : bump < 255) :
    (UInt8.ofNat (bump + 1)).toNat = bump + 1 :=
  UInt8.toNat_ofNat_of_lt' (Nat.succ_lt_succ hbump)

theorem ofNat_succ_ne_zero {bump : Nat} (hbump : bump < 255) : UInt8.ofNat (bump + 1) ≠ 0 := by
  intro hzero
  have hbyte := toNat_ofNat_succ hbump
  rw [hzero] at hbyte
  cases hbyte

theorem eq_ofNat_of_not_le {bump : Nat} {byte : UInt8} (hle : byte.toNat ≤ bump + 1)
    (hnot : ¬ byte.toNat ≤ bump) (hbump : bump < 255) : byte = UInt8.ofNat (bump + 1) := by
  have hbyte := toNat_ofNat_succ hbump
  exact UInt8.toNat.inj (by omega)

/-! ### What a search stops at -/

theorem refused_of_search {bump : Nat} (hbump : bump ≤ 255)
    (h : scheme.search seeds programId bump = some derived) :
    derived.bump ≠ 0 ∧ ∀ larger, derived.bump < larger → larger.toNat ≤ bump →
      scheme.create? (seeds ++ [[larger]]) programId = none := by
  induction bump with
  | zero => cases h
  | succ bump ih =>
    rw [search] at h
    cases hcreate : scheme.create? (seeds ++ [[UInt8.ofNat (bump + 1)]]) programId with
    | some address =>
      rw [hcreate] at h
      obtain rfl := Option.some.inj h
      refine ⟨ofNat_succ_ne_zero hbump, fun larger hlt hle => ?_⟩
      rw [UInt8.lt_iff_toNat_lt, toNat_ofNat_succ hbump] at hlt
      exact absurd hle (Nat.not_le_of_lt hlt)
    | none =>
      rw [hcreate] at h
      obtain ⟨hne, hrefused⟩ := ih (Nat.le_of_succ_le hbump) h
      refine ⟨hne, fun larger hlt hlarger => ?_⟩
      by_cases hle : larger.toNat ≤ bump
      · exact hrefused larger hlt hle
      · rw [eq_ofNat_of_not_le hlarger hle hbump, hcreate]

theorem search_eq_none_iff {bump : Nat} (hbump : bump ≤ 255) :
    scheme.search seeds programId bump = none
      ↔ ∀ byte, byte ≠ 0 → byte.toNat ≤ bump →
        scheme.create? (seeds ++ [[byte]]) programId = none := by
  induction bump with
  | zero =>
    refine iff_of_true rfl fun byte hne hle => ?_
    exact absurd (UInt8.toNat.inj (Nat.le_zero.mp hle)) hne
  | succ bump ih =>
    rw [search]
    cases hcreate : scheme.create? (seeds ++ [[UInt8.ofNat (bump + 1)]]) programId with
    | some address =>
      refine iff_of_false (by simp) fun hnone => ?_
      have := hnone _ (ofNat_succ_ne_zero hbump) (Nat.le_of_eq (toNat_ofNat_succ hbump))
      simp only [hcreate, reduceCtorEq] at this
    | none =>
      refine (ih (Nat.le_of_succ_le hbump)).trans ⟨fun h byte hne hle => ?_, fun h byte hne hle => ?_⟩
      · by_cases hsmall : byte.toNat ≤ bump
        · exact h byte hne hsmall
        · rw [eq_ofNat_of_not_le hle hsmall hbump, hcreate]
      · exact h byte hne (Nat.le_succ_of_le hle)

theorem find?_eq_none_iff :
    scheme.find? seeds programId = none
      ↔ ∀ byte, byte ≠ 0 → scheme.create? (seeds ++ [[byte]]) programId = none := by
  rw [find?, search_eq_none_iff (Nat.le_refl _)]
  exact forall_congr' fun byte => forall_congr' fun _ =>
    ⟨fun h => h (Nat.le_of_lt_succ byte.toNat_lt), fun h _ => h⟩

theorem canonical_of_find? (h : scheme.find? seeds programId = some derived) :
    scheme.Canonical seeds programId derived := by
  obtain ⟨hne, hrefused⟩ := refused_of_search (Nat.le_refl _) h
  exact ⟨hne, create?_of_search h,
    fun larger hlt => hrefused larger hlt (Nat.le_of_lt_succ larger.toNat_lt)⟩

/-- The search cannot miss a bump that works, and it cannot stop at two. -/
theorem find?_eq_some_iff :
    scheme.find? seeds programId = some derived ↔ scheme.Canonical seeds programId derived := by
  refine ⟨canonical_of_find?, fun h => ?_⟩
  cases hfind : scheme.find? seeds programId with
  | none =>
    have := find?_eq_none_iff.mp hfind derived.bump h.bump_ne_zero
    simp [h.created] at this
  | some found => rw [(canonical_of_find? hfind).unique h]

end AddressScheme

namespace AddressBook

variable {scheme : AddressScheme} {programId root : Key} {book : AddressBook}

/-- The runtime takes at most sixteen seeds, each of at most thirty-two bytes. -/
theorem signerSeeds_within_limits (book : AddressBook) (slot : Slot) :
    (book.signerSeeds slot).length = 3 ∧ ∀ seed ∈ book.signerSeeds slot, seed.length ≤ 32 := by
  have hroles : ∀ role ∈ Role.all, role.seed.length ≤ 32 := by decide +kernel
  have hconfig : AddressPath.configSeed.length ≤ 32 := by decide +kernel
  cases slot <;>
    simp [signerSeeds, path, AddressPath.seeds, Key.length_bytes, hconfig, hroles _ (Role.mem_all _)]

theorem derive?_eq_some_iff :
    derive? scheme programId root = some book
      ↔ book.programId = programId ∧ book.root = root
        ∧ ∀ slot, scheme.Canonical (book.path slot).seeds programId (book.slot slot) := by
  constructor
  · intro h
    obtain ⟨hprogram, rfl, hconfig, hroles⟩ := derive?_spec h
    refine ⟨hprogram, rfl, fun slot => AddressScheme.find?_eq_some_iff.mp ?_⟩
    cases slot with
    | config => exact hconfig
    | role role => exact hroles role
  · rintro ⟨rfl, rfl, hslots⟩
    have hconfig := AddressScheme.find?_eq_some_iff.mpr (hslots .config)
    have hroles := RoleTable.collect_eq_some_iff.mpr fun role =>
      AddressScheme.find?_eq_some_iff.mpr (hslots (.role role))
    refine Option.bind_eq_some_iff.mpr ⟨_, hconfig, ?_⟩
    exact Option.bind_eq_some_iff.mpr ⟨_, hroles, rfl⟩

/-- **Derived addresses are canonical, unsignable and reproducible.** For every slot of a derived
book the address is off the curve, its signer seeds create exactly it, and with any larger bump the
same seeds lead onto the curve. The finders, asked for the same root and the book's own pool, give
the same addresses and bumps. -/
theorem derive?_canonical (h : derive? scheme programId root = some book) :
    (∀ slot,
      scheme.OffCurve (book.slot slot).address
        ∧ scheme.create? (book.signerSeeds slot) programId = some (book.slot slot).address
        ∧ ∀ larger, (book.slot slot).bump < larger →
          scheme.onCurve (scheme.digest ((book.path slot).candidate larger programId)) = true)
      ∧ book.root = root
      ∧ findConfig? scheme programId root = some (book.slot .config)
      ∧ ∀ role, findRole? scheme programId book.pool role = some (book.slot (.role role)) := by
  obtain ⟨-, hroot, hslots⟩ := derive?_eq_some_iff.mp h
  obtain ⟨-, -, hconfig, hroles⟩ := derive?_spec h
  refine ⟨fun slot => ?_, hroot, hconfig, hroles⟩
  have hcreated : scheme.create? (book.signerSeeds slot) programId = _ := (hslots slot).created
  refine ⟨AddressScheme.offCurve_of_create? hcreated, hcreated, fun larger hlarger => ?_⟩
  exact AddressScheme.create?_eq_none_iff.mp ((hslots slot).refused larger hlarger)

/-- A sum for a hash, and a curve that most keys lie on, so that the search has to go on a while. -/
def crowded : AddressScheme where
  digest message := .ofNat (message.foldl (fun sum byte => 31 * sum + byte.toNat) 0)
  onCurve key := 64 ≤ key.bytes.headD 0

def crowdedSample : AddressBook :=
  (derive? crowded .stakePoolProgram sampleRoot).get (by decide +kernel)

theorem derive?_crowdedSample :
    derive? crowded .stakePoolProgram sampleRoot = some crowdedSample :=
  (Option.some_get _).symm

/-- On the real curve all bumps of `sample` are the first that is tried. The token side of the
crowded pool needs five attempts. -/
theorem derive?_canonical_samples :
    (∀ slot, AddressScheme.standard.create? (sample.signerSeeds slot) .stakePoolProgram
        = some (sample.slot slot).address)
      ∧ (crowdedSample.slot (.role .stLeg)).bump = 251
      ∧ crowded.onCurve (crowded.digest
          ((crowdedSample.path (.role .stLeg)).candidate 252 .stakePoolProgram)) = true
      ∧ findConfig? crowded .stakePoolProgram sampleRoot = some (crowdedSample.slot .config) := by
  obtain ⟨hslots, -, hconfig, -⟩ := derive?_canonical derive?_crowdedSample
  have hbump : (crowdedSample.slot (.role .stLeg)).bump = 251 := by decide +kernel
  refine ⟨fun slot => ((derive?_canonical derive?_sample).1 slot).2.1, hbump, ?_, hconfig⟩
  exact (hslots (.role .stLeg)).2.2 252 (by rw [hbump]; decide)

end AddressBook

end StakePool
