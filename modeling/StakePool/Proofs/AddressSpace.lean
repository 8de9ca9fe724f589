import StakePool.Proofs.AddressBook
/-!
# The address space

Which places the hashed byte string tells apart. Seeds are run together without their lengths, so
only their widths say where one ends: a configuration record hashes a tag of ten bytes and then its
root, a role hashes a pool's key and then a seed of its own. Between two places of one kind the
fixed widths settle the matter. Between the two kinds they do not, since a pool's key may begin with
the tag, and then the rest of it may be the front of a root that ends with the role's seed. `Mimics`
is exactly that coincidence.
-/

namespace StakePool

theorem Role.seed_inj {first second : Role} : first.seed = second.seed ↔ first = second := by
  cases first <;> cases second <;> decide +kernel

namespace AddressPath

/-- The seeds of a place, run together as the hash takes them. -/
def stem (path : AddressPath) : Bytes := path.seeds.flatten

/-- The byte string that is hashed for a place with one bump. -/
def candidate (path : AddressPath) (bump : UInt8) (programId : Key) : Bytes :=
  AddressScheme.preimage (path.seeds ++ [[bump]]) programId

/-- A configuration record and a role have the same stem: the role's pool begins with the tag, and
the root is what the pool has left, followed by the role's seed. -/
def Mimics : AddressPath → AddressPath → Prop
  | config root, role pool r =>
    ∃ middle, pool.bytes = configSeed ++ middle ∧ root.bytes = middle ++ r.seed
  | _, _ => False

@[simp] theorem stem_config (root : Key) : (config root).stem = configSeed ++ root.bytes := by
  simp [stem, seeds]

@[simp] theorem stem_role (pool : Key) (r : Role) : (role pool r).stem = pool.bytes ++ r.seed := by
  simp [stem, seeds]

theorem candidate_eq (path : AddressPath) (bump : UInt8) (programId : Key) :
    path.candidate bump programId
      = path.stem ++ (bump :: programId.bytes ++ AddressScheme.marker) := by
  simp [candidate, AddressScheme.preimage, stem]

/-- Everything behind the stem has one width, so the string determines all its parts. -/
theorem candidate_inj {first second : AddressPath} {bump bump' : UInt8}
    {programId programId' : Key} :
    first.candidate bump programId = second.candidate bump' programId'
      ↔ first.stem = second.stem ∧ bump = bump' ∧ programId = programId' := by
  constructor
  · intro h
    rw [candidate_eq, candidate_eq] at h
    obtain ⟨hstem, hrest⟩ := List.append_inj' h (by simp [Key.length_bytes])
    obtain ⟨hbump, hrest⟩ := List.cons.inj hrest
    exact ⟨hstem, hbump, Key.ext_bytes (List.append_cancel_right hrest)⟩
  · rintro ⟨hstem, rfl, rfl⟩
    rw [candidate_eq, candidate_eq, hstem]

theorem stem_config_eq_stem_role_iff (root pool : Key) (r : Role) :
    (config root).stem = (role pool r).stem ↔ (config root).Mimics (role pool r) := by
  rw [stem_config, stem_role, List.append_eq_append_iff]
  constructor
  · rintro (common | ⟨rest, htag, -⟩)
    · exact common
    · have width := congrArg List.length htag
      rw [List.length_append, pool.length_bytes] at width
      have short : configSeed.length = 10 := by decide
      omega
  · exact Or.inl

theorem stem_eq_iff (first second : AddressPath) :
    first.stem = second.stem ↔ first = second ∨ first.Mimics second ∨ second.Mimics first := by
  cases first with
  | config root =>
    cases second with
    | config other => simp [Mimics, Key.bytes_inj]
    | role pool r => rw [stem_config_eq_stem_role_iff]; simp [Mimics]
  | role pool r =>
    cases second with
    | config root => rw [eq_comm, stem_config_eq_stem_role_iff]; simp [Mimics]
    | role other s =>
      have parts : pool.bytes ++ r.seed = other.bytes ++ s.seed ↔ pool = other ∧ r = s := by
        constructor
        · intro h
          obtain ⟨hpool, hseed⟩ := List.append_inj h (by simp [Key.length_bytes])
          exact ⟨Key.ext_bytes hpool, Role.seed_inj.mp hseed⟩
        · rintro ⟨rfl, rfl⟩
          rfl
      rw [stem_role, stem_role, parts]
      simp [Mimics]

/-- A role can be mimicked exactly if its pool begins with the tag and its seed is as long as the
tag, so that the rest of the pool and the seed make up a root. -/
theorem exists_mimics_iff (pool : Key) (r : Role) :
    (∃ root, (config root).Mimics (role pool r))
      ↔ configSeed <+: pool.bytes ∧ r.seed.length = configSeed.length := by
  constructor
  · rintro ⟨root, middle, hpool, hroot⟩
    have poolWidth := congrArg List.length hpool
    have rootWidth := congrArg List.length hroot
    rw [List.length_append, Key.length_bytes] at poolWidth rootWidth
    exact ⟨⟨middle, hpool.symm⟩, by omega⟩
  · rintro ⟨⟨middle, hpool⟩, hseed⟩
    have width : (middle ++ r.seed).length = 32 := by
      rw [← pool.length_bytes, ← hpool, List.length_append, List.length_append, hseed, Nat.add_comm]
    exact ⟨⟨middle ++ r.seed, width⟩, middle, hpool.symm, rfl⟩

end AddressPath

namespace AddressScheme

variable (scheme : AddressScheme) {programId : Key}

/-- Two different byte strings with one digest. -/
def Collision (left right : Bytes) : Prop := left ≠ right ∧ scheme.digest left = scheme.digest right

theorem search_congr {first second : List Bytes} (h : first.flatten = second.flatten) (bump : Nat) :
    scheme.search first programId bump = scheme.search second programId bump := by
  induction bump with
  | zero => rfl
  | succ bump ih =>
    have create (byte : UInt8) :
        scheme.create? (first ++ [[byte]]) programId
          = scheme.create? (second ++ [[byte]]) programId := by
      simp [create?, preimage, h]
    rw [search, search, create, ih]

theorem digest_of_find? {path : AddressPath} {found : DerivedAddress}
    (h : scheme.find? path.seeds programId = some found) :
    scheme.digest (path.candidate found.bump programId) = found.address := by
  have hcreate := create?_of_search h
  simp only [create?] at hcreate
  split at hcreate
  · exact Option.some.inj hcreate
  · cases hcreate

end AddressScheme

namespace AddressPath

/-- **Domain separation, and where it ends.** Two places hash one byte string exactly if the bumps
agree and they are the same place or one mimics the other. Where one mimics the other they have one
derived address whatever the hash; any other two places can share an address only if the hash
collides on the very strings that gave it. -/
theorem candidate_eq_iff_mimics (programId : Key) (first second : AddressPath) :
    (∀ bump bump', first.candidate bump programId = second.candidate bump' programId
      ↔ bump = bump' ∧ (first = second ∨ first.Mimics second ∨ second.Mimics first))
    ∧ (first.Mimics second → ∀ scheme : AddressScheme,
      scheme.find? first.seeds programId = scheme.find? second.seeds programId)
    ∧ ∀ (scheme : AddressScheme) (found found' : DerivedAddress),
      scheme.find? first.seeds programId = some found →
      scheme.find? second.seeds programId = some found' → found.address = found'.address →
        first = second ∨ first.Mimics second ∨ second.Mimics first
          ∨ scheme.Collision (first.candidate found.bump programId)
            (second.candidate found'.bump programId) := by
  have separated (bump bump' : UInt8) :
      first.candidate bump programId = second.candidate bump' programId
        ↔ bump = bump' ∧ (first = second ∨ first.Mimics second ∨ second.Mimics first) := by
    rw [candidate_inj, stem_eq_iff]
    simp only [and_true]
    exact and_comm
  refine ⟨separated, ?_, ?_⟩
  · intro hmimics scheme
    exact scheme.search_congr ((stem_eq_iff first second).mpr (.inr (.inl hmimics))) 255
  · intro scheme found found' hfirst hsecond haddress
    by_cases same : first.candidate found.bump programId = second.candidate found'.bump programId
    · obtain h | h | h := ((separated ..).mp same).2
      · exact .inl h
      · exact .inr (.inl h)
      · exact .inr (.inr (.inl h))
    · have digests : scheme.digest (first.candidate found.bump programId)
          = scheme.digest (second.candidate found'.bump programId) := by
        rw [scheme.digest_of_find? hfirst, scheme.digest_of_find? hsecond, haddress]
      exact .inr (.inr (.inr ⟨same, digests⟩))

/-! ### A root and a pool that are confused

The pool is the tag followed by zero bytes, the root is zero bytes followed by the seed of the
liquidity pool's token side. -/

def mimickingRoot : Key := ⟨Bytes.zeros 22 ++ Role.stLeg.seed, rfl⟩

def mimickedPool : Key := ⟨configSeed ++ Bytes.zeros 22, rfl⟩

theorem mimics_sample : (config mimickingRoot).Mimics (role mimickedPool .stLeg) :=
  ⟨Bytes.zeros 22, rfl, rfl⟩

/-- A hash that tells nothing apart, under which every two places share an address. -/
def blindScheme : AddressScheme where
  digest _ := .zero
  onCurve _ := false

theorem not_mimics_zero (root : Key) (r : Role) : ¬ (config root).Mimics (role .zero r) := by
  rintro ⟨middle, hpool, -⟩
  exact absurd (congrArg (·.head?) hpool) (by simp [configSeed, Bytes.ascii, Key.zero, Bytes.zeros])

/-- The two confused places have one address under the chain's own hash. Under the blind hash it is
a collision that gives the zero root and the reserve of the zero pool theirs. -/
theorem candidate_eq_iff_mimics_sample :
    (config mimickingRoot ≠ role mimickedPool .stLeg
      ∧ AddressScheme.standard.find? (config mimickingRoot).seeds .stakePoolProgram
        = AddressScheme.standard.find? (role mimickedPool .stLeg).seeds .stakePoolProgram)
    ∧ blindScheme.Collision ((config .zero).candidate 255 .stakePoolProgram)
      ((role .zero .reserve).candidate 255 .stakePoolProgram) := by
  constructor
  · exact ⟨nofun, (candidate_eq_iff_mimics .stakePoolProgram _ _).2.1 mimics_sample .standard⟩
  · obtain h | h | h | h := (candidate_eq_iff_mimics .stakePoolProgram (config .zero)
      (role .zero .reserve)).2.2 blindScheme ⟨.zero, 255⟩ ⟨.zero, 255⟩ rfl rfl rfl
    · exact absurd h nofun
    · exact absurd h (not_mimics_zero _ _)
    · exact h.elim
    · exact h

/-- The namespaces are not separated for every root and pool. -/
theorem not_forall_candidate_ne :
    ¬ ∀ (programId : Key) (first second : AddressPath) (bump bump' : UInt8), first ≠ second →
      first.candidate bump programId ≠ second.candidate bump' programId := by
  intro separated
  have different : config mimickingRoot ≠ role mimickedPool .stLeg := nofun
  exact separated .stakePoolProgram _ _ 255 255 different rfl

end AddressPath

end StakePool
