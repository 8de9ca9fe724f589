import StakePool.Request
/-!
# The wire format of a request

A request travels as fourteen fields in fixed places: a tag, the root, and the twelve parameters, with
numbers least significant byte first. `Request.fields` writes the fields down one after another and
`Request.readAt` reads each of them at its own offset; both are shown to be what the nested layouts
do. Every byte behind the tag belongs to some field and every value of a field is allowed, so the tag
and the length alone decide what is accepted.
-/

namespace StakePool

namespace Bytes

/-- The bytes of a field: so many from an offset on. -/
def slice (bytes : Bytes) (offset width : Nat) : Bytes := (bytes.drop offset).take width

theorem take_slice (bytes : Bytes) (offset : Nat) {inner width : Nat} (h : inner ≤ width) :
    (bytes.slice offset width).take inner = bytes.slice offset inner := by
  rw [slice, slice, List.take_take, Nat.min_eq_left h]

theorem drop_slice (bytes : Bytes) (offset front width : Nat) :
    (bytes.slice offset (front + width)).drop front = bytes.slice (offset + front) width := by
  rw [slice, slice, List.drop_take, List.drop_drop, Nat.add_sub_cancel_left]

end Bytes

namespace Layout

variable {α β : Type}

/-- A pair is read field by field, the second where the first ends. -/
theorem decode_pair_slice (first : Layout α) (second : Layout β) (bytes : Bytes) (offset : Nat) :
    (first.pair second).decode (bytes.slice offset (first.pair second).width)
      = (first.decode (bytes.slice offset first.width),
        second.decode (bytes.slice (offset + first.width) second.width)) := by
  have front := bytes.take_slice offset (Nat.le_add_right first.width second.width)
  have back := bytes.drop_slice offset first.width second.width
  exact congr (congrArg (fun a b => (first.decode a, second.decode b)) front) back

end Layout

namespace Request

/-- The fields of a request in the order in which they travel. -/
def fields (request : Request) : List Bytes :=
  let p := request.parameters
  [[tag], request.root.bytes, p.admin.bytes, p.validatorManager.bytes, p.pauser.bytes,
    Bytes.ofNat 8 p.minStake.toNat, Bytes.ofNat 4 p.rewardFee.basisPoints.toNat,
    Bytes.ofNat 8 p.lpLiquidityTarget.toNat, Bytes.ofNat 4 p.lpMaxFee.basisPoints.toNat,
    Bytes.ofNat 4 p.lpMinFee.basisPoints.toNat, Bytes.ofNat 4 p.lpTreasuryCut.basisPoints.toNat,
    Bytes.ofNat 4 p.stakeRecordSpare.toNat, Bytes.ofNat 4 p.validatorRecordSpare.toNat,
    Bytes.ofNat 8 p.stakeDeltaWindow.toNat]

theorem encode_eq_flatten (request : Request) : request.encode = request.fields.flatten := by
  simp only [fields, List.flatten_cons, List.flatten_nil, List.append_nil, List.singleton_append]
  rfl

/-- The request in a byte string, every field read at its own offset. -/
def readAt (bytes : Bytes) : Request where
  root := Key.layout.decode (bytes.slice 1 32)
  parameters := {
    admin := Key.layout.decode (bytes.slice 33 32)
    validatorManager := Key.layout.decode (bytes.slice 65 32)
    pauser := Key.layout.decode (bytes.slice 97 32)
    minStake := .ofNat (bytes.slice 129 8).toNat
    rewardFee := ⟨.ofNat (bytes.slice 137 4).toNat⟩
    lpLiquidityTarget := .ofNat (bytes.slice 141 8).toNat
    lpMaxFee := ⟨.ofNat (bytes.slice 149 4).toNat⟩
    lpMinFee := ⟨.ofNat (bytes.slice 153 4).toNat⟩
    lpTreasuryCut := ⟨.ofNat (bytes.slice 157 4).toNat⟩
    stakeRecordSpare := .ofNat (bytes.slice 161 4).toNat
    validatorRecordSpare := .ofNat (bytes.slice 165 4).toNat
    stakeDeltaWindow := .ofNat (bytes.slice 169 8).toNat }

theorem decode_slice (bytes : Bytes) : layout.decode (bytes.slice 1 layout.width) = readAt bytes := by
  simp only [layout, Parameters.layout, Layout.map, Layout.decode_pair_slice]
  rfl

theorem length_encode (request : Request) : request.encode.length = size := by
  rw [encode, List.length_cons, layout.length_encode, size, Nat.add_comm]

theorem decode?_eq_ite (bytes : Bytes) :
    decode? bytes
      = if size ≤ bytes.length ∧ bytes.head? = some tag then some (readAt bytes) else none := by
  cases bytes with
  | nil => rfl
  | cons byte rest =>
    have fits : size ≤ (byte :: rest).length ↔ layout.width ≤ rest.length := by
      rw [size, List.length_cons]
      omega
    simp only [decode?, Layout.readFront?, fits, List.head?_cons, Option.some.injEq,
      ← decode_slice, Bytes.slice, List.drop_one, List.tail_cons]
    by_cases htag : byte = tag <;> simp [htag]

/-- What is accepted as a request is its encoding, whatever follows. -/
theorem decode?_eq_some_iff {bytes : Bytes} {request : Request} :
    decode? bytes = some request ↔ ∃ rest, bytes = request.encode ++ rest := by
  cases bytes with
  | nil => simp [decode?, encode]
  | cons byte rest =>
    simp only [decode?, encode, List.cons_append, List.cons.injEq]
    by_cases htag : byte = tag
    · simp [htag, layout.readFront?_eq_some_iff]
    · simp [htag]

theorem decode?_encode (request : Request) : decode? request.encode = some request :=
  decode?_eq_some_iff.mpr ⟨[], (List.append_nil _).symm⟩

theorem encode_eq_take {bytes : Bytes} {request : Request} (h : decode? bytes = some request) :
    request.encode = bytes.take size := by
  obtain ⟨rest, rfl⟩ := decode?_eq_some_iff.mp h
  exact (List.take_left' request.length_encode).symm

/-- **The wire format.** A request travels as the bytes of its fields in order, 177 in all, and reads
back from them with anything behind. A byte string is accepted exactly if it has so many bytes and
begins with the tag, and it is read field by field at fixed offsets. Packing what was read gives its
first 177 bytes again, so inputs that differ there differ as requests. -/
theorem wire_format :
    (∀ (request : Request) (rest : Bytes),
      request.encode = request.fields.flatten ∧ request.encode.length = 177
        ∧ decode? (request.encode ++ rest) = some request)
    ∧ (∀ bytes, ((decode? bytes).isSome ↔ 177 ≤ bytes.length ∧ bytes.head? = some 0)
      ∧ ∀ request, decode? bytes = some request →
        request = readAt bytes ∧ request.encode = bytes.take 177)
    ∧ ∀ (first second : Bytes) (request request' : Request),
      decode? first = some request → decode? second = some request' →
        first.take 177 ≠ second.take 177 → request ≠ request' := by
  refine ⟨?_, ?_, ?_⟩
  · intro request rest
    exact ⟨request.encode_eq_flatten, request.length_encode, decode?_eq_some_iff.mpr ⟨rest, rfl⟩⟩
  · intro bytes
    refine ⟨?_, fun request h => ⟨?_, encode_eq_take h⟩⟩
    · rw [decode?_eq_ite, size_eq, Option.isSome_ite]
      rfl
    · rw [decode?_eq_ite] at h
      exact (Option.some.inj (Option.ite_none_right_eq_some.mp h).2).symm
  · intro first second request request' hfirst hsecond different same
    subst same
    exact different ((encode_eq_take hfirst).symm.trans (encode_eq_take hsecond))

/-- The bytes 0, 1, 2 and so on up to 176, an accepted request. -/
def counting : Bytes := (List.range 177).map UInt8.ofNat

theorem wire_format_counting :
    decode? (counting ++ [7, 7]) = some (readAt counting)
    ∧ ¬ (decode? (counting.take 176)).isSome
    ∧ ¬ (decode? (counting.set 0 1)).isSome
    ∧ (readAt counting).encode = counting
    ∧ readAt counting ≠ readAt (counting.set 176 0) := by
  have hread : decode? counting = some (readAt counting) := by decide +kernel
  have hother : decode? (counting.set 176 0) = some (readAt (counting.set 176 0)) := by
    decide +kernel
  have hwhole : counting.take 177 = counting := by decide +kernel
  have hencode : (readAt counting).encode = counting :=
    ((wire_format.2.1 counting).2 _ hread).2.trans hwhole
  have hdifferent : counting.take 177 ≠ (counting.set 176 0).take 177 := by decide +kernel
  refine ⟨?_, ?_, ?_, hencode, wire_format.2.2 _ _ _ _ hread hother hdifferent⟩
  · have round := (wire_format.1 (readAt counting) [7, 7]).2.2
    rwa [hencode] at round
  · exact fun h => absurd ((wire_format.2.1 _).1.mp h) (by decide +kernel)
  · exact fun h => absurd ((wire_format.2.1 _).1.mp h) (by decide +kernel)

end Request

end StakePool
