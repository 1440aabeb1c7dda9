import OrbitRelay.Storage.Record

/-! The tokens of storage adapters, and both token formats against their decoders: each
decoder accepts the encoder's outputs for its own arguments and nothing else. -/
namespace OrbitRelay

def storageTokenVersion : UInt8 := 1
def storageTokenLength : Nat := 42

/-- Version, kind, store identifier, continuation epoch and big-endian position, in Base64. -/
def encodeStorageToken (kind : TokenKind) (storeId continuationEpoch : EntityId)
    (position : UInt64) : String :=
  Base64.encode ([storageTokenVersion, kind.toByte] ++ storeId.uuid.bytes.toList ++
    continuationEpoch.uuid.bytes.toList ++ Bytes.toBeBytes 8 position.toNat)

def decodeStorageToken (token : String) (expectedKind : TokenKind)
    (storeId continuationEpoch : EntityId) : Option UInt64 := do
  let bytes ← Base64.decode token
  if bytes.length ≠ storageTokenLength ∨ bytes[0]? ≠ some storageTokenVersion ∨
      bytes[1]? ≠ some expectedKind.toByte ∨
      (bytes.drop 2).take 16 ≠ storeId.uuid.bytes.toList ∨
      (bytes.drop 18).take 16 ≠ continuationEpoch.uuid.bytes.toList then none
  else some (UInt64.ofNat (Bytes.fromBeBytes (bytes.drop 34)))

def EventCursor.forStorage (storeId continuationEpoch : EntityId) (position : UInt64) :
    EventCursor :=
  ⟨encodeStorageToken .cursor storeId continuationEpoch position⟩

def EventCursor.storagePosition (cursor : EventCursor) (storeId continuationEpoch : EntityId) :
    Except StorageError UInt64 :=
  (decodeStorageToken cursor.token .cursor storeId continuationEpoch).okOr
    (.invalidCursor "cursor does not belong to this store epoch")

def EventStoreCheckpoint.forStorage (storeId continuationEpoch : EntityId) (position : UInt64) :
    EventStoreCheckpoint :=
  ⟨encodeStorageToken .checkpoint storeId continuationEpoch position⟩

def EventStoreCheckpoint.storagePosition (checkpoint : EventStoreCheckpoint)
    (storeId continuationEpoch : EntityId) : Except StorageError UInt64 :=
  (decodeStorageToken checkpoint.token .checkpoint storeId continuationEpoch).okOr
    (.invalidCheckpoint "checkpoint does not belong to this store epoch")

/-! ### Indexing -/

/-- The memory decoder with its indexing written out. The operands of `||` are evaluated
from the left, so the length is tested before any byte is read. -/
def decodeMemoryTokenIndexed (token : String) (expectedKind : TokenKind) (storeId : EntityId) :
    Except Panic (Option Nat) :=
  match Base64.decode token with
  | none => .ok none
  | some bytes =>
    if bytes.length ≠ tokenLength then .ok none
    else do
      if (← bytes.index 0) ≠ tokenVersion then .ok none
      else if (← bytes.index 1) ≠ expectedKind.toByte then .ok none
      else if (← bytes.slice 2 18) ≠ storeId.uuid.bytes.toList then .ok none
      else
        let position ← bytes.slice 18 bytes.length
        .ok (if position.length = 8 then some (Bytes.fromBeBytes position) else none)

/-- The storage decoder with its indexing written out. -/
def decodeStorageTokenIndexed (token : String) (expectedKind : TokenKind)
    (storeId continuationEpoch : EntityId) : Except Panic (Option UInt64) :=
  match Base64.decode token with
  | none => .ok none
  | some bytes =>
    if bytes.length ≠ storageTokenLength then .ok none
    else do
      if (← bytes.index 0) ≠ storageTokenVersion then .ok none
      else if (← bytes.index 1) ≠ expectedKind.toByte then .ok none
      else if (← bytes.slice 2 18) ≠ storeId.uuid.bytes.toList then .ok none
      else if (← bytes.slice 18 34) ≠ continuationEpoch.uuid.bytes.toList then .ok none
      else
        let position ← bytes.slice 34 bytes.length
        .ok (if position.length = 8 then some (UInt64.ofNat (Bytes.fromBeBytes position))
          else none)

/-- No index of the memory decoder is out of bounds. -/
theorem decodeMemoryTokenIndexed_eq (token : String) (kind : TokenKind) (storeId : EntityId) :
    decodeMemoryTokenIndexed token kind storeId = .ok (decodeMemoryToken token kind storeId) := by
  unfold decodeMemoryTokenIndexed decodeMemoryToken
  cases Base64.decode token with
  | none => rfl
  | some bytes =>
    by_cases hlength : bytes.length = tokenLength
    · have hbytes : bytes.length = 26 := hlength
      have hversion := List.index_of_lt (show 0 < bytes.length by omega)
      have hkind := List.index_of_lt (show 1 < bytes.length by omega)
      have hid := List.slice_of_le (show 2 ≤ 18 by omega) (show 18 ≤ bytes.length by omega)
      have hend := List.slice_to_end (show 18 ≤ bytes.length by omega)
      have hposition : (bytes.drop 18).length = 8 := by rw [List.length_drop, hbytes]
      simp only [hlength, hversion, hkind, hid, Except.ok_bind, Option.bind_eq_bind,
        Option.bind_some, List.getElem?_eq_getElem (show 0 < bytes.length by omega),
        List.getElem?_eq_getElem (show 1 < bytes.length by omega), Option.some_inj, ne_eq,
        not_true_eq_false, if_false, false_or]
      rw [← hlength, hend]
      simp only [Except.ok_bind, hposition, if_true]
      split_ifs <;> first | rfl | tauto
    · simp [hlength]

/-- No index of the storage decoder is out of bounds. -/
theorem decodeStorageTokenIndexed_eq (token : String) (kind : TokenKind)
    (storeId continuationEpoch : EntityId) :
    decodeStorageTokenIndexed token kind storeId continuationEpoch =
      .ok (decodeStorageToken token kind storeId continuationEpoch) := by
  unfold decodeStorageTokenIndexed decodeStorageToken
  cases Base64.decode token with
  | none => rfl
  | some bytes =>
    by_cases hlength : bytes.length = storageTokenLength
    · have hbytes : bytes.length = 42 := hlength
      have hversion := List.index_of_lt (show 0 < bytes.length by omega)
      have hkind := List.index_of_lt (show 1 < bytes.length by omega)
      have hid := List.slice_of_le (show 2 ≤ 18 by omega) (show 18 ≤ bytes.length by omega)
      have hepoch := List.slice_of_le (show 18 ≤ 34 by omega) (show 34 ≤ bytes.length by omega)
      have hend := List.slice_to_end (show 34 ≤ bytes.length by omega)
      have hposition : (bytes.drop 34).length = 8 := by rw [List.length_drop, hbytes]
      simp only [hlength, hversion, hkind, hid, hepoch, Except.ok_bind, Option.bind_eq_bind,
        Option.bind_some, List.getElem?_eq_getElem (show 0 < bytes.length by omega),
        List.getElem?_eq_getElem (show 1 < bytes.length by omega), Option.some_inj, ne_eq,
        not_true_eq_false, if_false, false_or]
      rw [← hlength, hend]
      simp only [Except.ok_bind, hposition, if_true]
      split_ifs <;> first | rfl | tauto
    · simp [hlength]

/-! ### Encoders and decoders -/

/-- The bytes of a token after its two identifiers, or its one, follow the header. -/
private theorem eq_header_append {bytes : List UInt8} {version kind : UInt8}
    (hversion : bytes[0]? = some version) (hkind : bytes[1]? = some kind) :
    bytes = [version, kind] ++ bytes.drop 2 := by
  cases bytes with
  | nil => cases hversion
  | cons a bytes =>
    cases bytes with
    | nil => cases hkind
    | cons b rest =>
      cases hversion
      cases hkind
      rfl

private theorem drop_eq_append {bytes id : List UInt8} (start : Nat)
    (h : (bytes.drop start).take 16 = id) :
    bytes.drop start = id ++ bytes.drop (start + 16) := by
  rw [← h, ← List.drop_drop, List.take_append_drop]

theorem decodeMemoryToken_eq_some {token : String} {kind : TokenKind} {storeId : EntityId}
    {position : Nat} :
    decodeMemoryToken token kind storeId = some position ↔
      encodeMemoryToken kind storeId position = .ok token := by
  constructor
  · intro h
    unfold decodeMemoryToken at h
    simp only [Option.bind_eq_bind, Option.bind_eq_some_iff, Base64.decode_eq_some] at h
    obtain ⟨bytes, rfl, h⟩ := h
    split_ifs at h with hbad
    push Not at hbad
    obtain ⟨hlength, hversion, hkind, hid⟩ := hbad
    have hposition : (bytes.drop 18).length = 8 := by rw [List.length_drop, hlength]; rfl
    have hlt := Bytes.fromBeBytes_lt (bytes.drop 18)
    have hback := Bytes.toBeBytes_fromBeBytes (bytes.drop 18)
    rw [hposition] at hlt hback
    have hlayout : bytes = [tokenVersion, kind.toByte] ++ storeId.uuid.bytes.toList ++
        bytes.drop 18 := by
      rw [List.append_assoc, ← drop_eq_append 2 hid]
      exact eq_header_append hversion hkind
    cases h
    unfold encodeMemoryToken
    rw [if_pos (Nat.lt_of_lt_of_eq hlt (by decide)), hback, ← hlayout]
  · exact decodeMemoryToken_of_encode

theorem decodeStorageToken_eq_some {token : String} {kind : TokenKind}
    {storeId continuationEpoch : EntityId} {position : UInt64} :
    decodeStorageToken token kind storeId continuationEpoch = some position ↔
      encodeStorageToken kind storeId continuationEpoch position = token := by
  constructor
  · intro h
    unfold decodeStorageToken at h
    simp only [Option.bind_eq_bind, Option.bind_eq_some_iff, Base64.decode_eq_some] at h
    obtain ⟨bytes, rfl, h⟩ := h
    split_ifs at h with hbad
    push Not at hbad
    obtain ⟨hlength, hversion, hkind, hid, hepoch⟩ := hbad
    have hposition : (bytes.drop 34).length = 8 := by rw [List.length_drop, hlength]; rfl
    have hlt := Bytes.fromBeBytes_lt (bytes.drop 34)
    have hback := Bytes.toBeBytes_fromBeBytes (bytes.drop 34)
    rw [hposition] at hlt hback
    have hvalue : (UInt64.ofNat (Bytes.fromBeBytes (bytes.drop 34))).toNat =
        Bytes.fromBeBytes (bytes.drop 34) :=
      UInt64.toNat_ofNat_of_lt' (Nat.lt_of_lt_of_eq hlt (by decide))
    have hlayout : bytes = [storageTokenVersion, kind.toByte] ++ storeId.uuid.bytes.toList ++
        continuationEpoch.uuid.bytes.toList ++ bytes.drop 34 := by
      rw [List.append_assoc, ← drop_eq_append 18 hepoch, List.append_assoc,
        ← drop_eq_append 2 hid]
      exact eq_header_append hversion hkind
    cases h
    unfold encodeStorageToken
    rw [hvalue, hback, ← hlayout]
  · rintro rfl
    have hstore : storeId.uuid.bytes.toList.length = 16 := by simp
    have hepoch : continuationEpoch.uuid.bytes.toList.length = 16 := by simp
    have hbytes : Bytes.fromBeBytes (Bytes.toBeBytes 8 position.toNat) = position.toNat :=
      Bytes.fromBeBytes_toBeBytes (Nat.lt_of_lt_of_eq position.toNat_lt (by decide))
    unfold decodeStorageToken encodeStorageToken
    generalize storeId.uuid.bytes.toList = id at hstore ⊢
    generalize continuationEpoch.uuid.bytes.toList = epoch at hepoch ⊢
    simp [storageTokenLength, hstore, hepoch, hbytes, List.drop_append, List.drop_of_length_le]

/-- A storage adapter gets back the position of its own cursors, and of no other value. -/
theorem EventCursor.storagePosition_eq_ok {cursor : EventCursor}
    {storeId continuationEpoch : EntityId} {position : UInt64} :
    cursor.storagePosition storeId continuationEpoch = .ok position ↔
      cursor = forStorage storeId continuationEpoch position := by
  unfold storagePosition forStorage
  rw [Except.okOr_eq_ok, decodeStorageToken_eq_some, EventCursor.mk.injEq]
  exact eq_comm

theorem EventStoreCheckpoint.storagePosition_eq_ok {checkpoint : EventStoreCheckpoint}
    {storeId continuationEpoch : EntityId} {position : UInt64} :
    checkpoint.storagePosition storeId continuationEpoch = .ok position ↔
      checkpoint = forStorage storeId continuationEpoch position := by
  unfold storagePosition forStorage
  rw [Except.okOr_eq_ok, decodeStorageToken_eq_some, EventStoreCheckpoint.mk.injEq]
  exact eq_comm

/-! ### One reading of each token -/

theorem TokenKind.toByte_injective : Function.Injective TokenKind.toByte := by
  intro a b h
  cases a <;> cases b <;> first | rfl | cases h

private theorem EntityId.eq_of_bytes {a b : EntityId}
    (h : a.uuid.bytes.toList = b.uuid.bytes.toList) : a = b := by
  obtain ⟨⟨a⟩⟩ := a
  obtain ⟨⟨b⟩⟩ := b
  have h : a = b := Vector.toList_inj.mp h
  rw [h]

/-- The header and the first identifier of a token are read off its bytes. -/
private theorem header_inj {version kind kind' : UInt8} {storeId storeId' : EntityId}
    {rest rest' : List UInt8}
    (h : [version, kind] ++ (storeId.uuid.bytes.toList ++ rest) =
      [version, kind'] ++ (storeId'.uuid.bytes.toList ++ rest')) :
    kind = kind' ∧ storeId = storeId' ∧ rest = rest' := by
  obtain ⟨hkind, h⟩ := List.append_inj h rfl
  obtain ⟨hstore, hrest⟩ := List.append_inj h (by simp)
  simp only [List.cons.injEq, and_true, true_and] at hkind
  exact ⟨hkind, EntityId.eq_of_bytes hstore, hrest⟩

theorem encodeMemoryToken_inj {kind kind' : TokenKind} {storeId storeId' : EntityId}
    {position position' : Nat} {token : String}
    (h : encodeMemoryToken kind storeId position = .ok token)
    (h' : encodeMemoryToken kind' storeId' position' = .ok token) :
    kind = kind' ∧ storeId = storeId' ∧ position = position' := by
  have hdecoded := decodeMemoryToken_of_encode h
  have hdecoded' := decodeMemoryToken_of_encode h'
  unfold encodeMemoryToken at h h'
  split_ifs at h h' with hlt hlt'
  have hbytes := Base64.encode_injective
    ((Except.ok.inj h).trans (Except.ok.inj h').symm)
  simp only [List.append_assoc] at hbytes
  obtain ⟨hkind, hstore, -⟩ := header_inj hbytes
  have hkind := TokenKind.toByte_injective hkind
  subst hkind hstore
  rw [hdecoded] at hdecoded'
  exact ⟨rfl, rfl, Option.some.inj hdecoded'⟩

theorem encodeStorageToken_inj {kind kind' : TokenKind} {storeId storeId' epoch epoch' : EntityId}
    {position position' : UInt64}
    (h : encodeStorageToken kind storeId epoch position =
      encodeStorageToken kind' storeId' epoch' position') :
    kind = kind' ∧ storeId = storeId' ∧ epoch = epoch' ∧ position = position' := by
  have hdecoded := decodeStorageToken_eq_some.mpr h
  have hdecoded' := decodeStorageToken_eq_some.mpr
    (rfl : encodeStorageToken kind' storeId' epoch' position' = _)
  unfold encodeStorageToken at h
  have hbytes := Base64.encode_injective h
  simp only [List.append_assoc] at hbytes
  obtain ⟨hkind, hstore, hrest⟩ := header_inj hbytes
  have hkind := TokenKind.toByte_injective hkind
  obtain ⟨hepoch, -⟩ := List.append_inj hrest (by simp)
  have hepoch := EntityId.eq_of_bytes hepoch
  subst hkind hstore hepoch
  rw [hdecoded] at hdecoded'
  exact ⟨rfl, rfl, rfl, Option.some.inj hdecoded'⟩

/-- The two formats differ in length, so that no text is a token of both. -/
theorem encodeMemoryToken_ne_storage {kind kind' : TokenKind} {storeId storeId' epoch : EntityId}
    {position : Nat} {position' : UInt64} :
    encodeMemoryToken kind storeId position ≠
      .ok (encodeStorageToken kind' storeId' epoch position') := by
  intro h
  unfold encodeMemoryToken encodeStorageToken at h
  split_ifs at h
  have hlength := congrArg List.length (Base64.encode_injective (Except.ok.inj h))
  simp at hlength

/-- Each decoder accepts a text exactly when it is the encoder's output for its own arguments
and then returns the encoded position; a text has one reading; no index is out of bounds. -/
theorem tokens_decode_exactly (token : String) (kind : TokenKind)
    (storeId continuationEpoch : EntityId) :
    (∀ position, decodeMemoryToken token kind storeId = some position ↔
      encodeMemoryToken kind storeId position = .ok token) ∧
    (∀ position, decodeStorageToken token kind storeId continuationEpoch = some position ↔
      encodeStorageToken kind storeId continuationEpoch position = token) ∧
    (∀ position : UInt64, ∃ encoded,
      encodeMemoryToken kind storeId position.toNat = .ok encoded) ∧
    (∀ kind' storeId' position position', encodeMemoryToken kind storeId position = .ok token →
      encodeMemoryToken kind' storeId' position' = .ok token →
      kind = kind' ∧ storeId = storeId' ∧ position = position') ∧
    (∀ kind' storeId' epoch' position position',
      encodeStorageToken kind storeId continuationEpoch position = token →
      encodeStorageToken kind' storeId' epoch' position' = token →
      kind = kind' ∧ storeId = storeId' ∧ continuationEpoch = epoch' ∧ position = position') ∧
    (∀ kind' storeId' position, encodeMemoryToken kind' storeId' position = .ok token →
      decodeStorageToken token kind storeId continuationEpoch = none ∧
      (kind ≠ kind' ∨ storeId ≠ storeId' → decodeMemoryToken token kind storeId = none)) ∧
    (∀ kind' storeId' epoch' position, encodeStorageToken kind' storeId' epoch' position = token →
      decodeMemoryToken token kind storeId = none ∧
      (kind ≠ kind' ∨ storeId ≠ storeId' ∨ continuationEpoch ≠ epoch' →
        decodeStorageToken token kind storeId continuationEpoch = none)) ∧
    decodeMemoryTokenIndexed token kind storeId = .ok (decodeMemoryToken token kind storeId) ∧
    decodeStorageTokenIndexed token kind storeId continuationEpoch =
      .ok (decodeStorageToken token kind storeId continuationEpoch) := by
  refine ⟨fun _ => decodeMemoryToken_eq_some, fun _ => decodeStorageToken_eq_some, ?_,
    fun _ _ _ _ => encodeMemoryToken_inj, ?_, ?_, ?_, decodeMemoryTokenIndexed_eq ..,
    decodeStorageTokenIndexed_eq ..⟩
  · intro position
    exact ⟨_, if_pos position.toNat_lt⟩
  · intro kind' storeId' epoch' position position' h h'
    exact encodeStorageToken_inj (h.trans h'.symm)
  · intro kind' storeId' position h
    constructor
    · rw [Option.eq_none_iff_forall_ne_some]
      intro position' hdecoded
      rw [← decodeStorageToken_eq_some.mp hdecoded] at h
      exact encodeMemoryToken_ne_storage h
    · intro hother
      rw [Option.eq_none_iff_forall_ne_some]
      intro position' hdecoded
      obtain ⟨hkind, hstore, -⟩ := encodeMemoryToken_inj (decodeMemoryToken_eq_some.mp hdecoded) h
      exact hother.elim (fun hne => hne hkind) fun hne => hne hstore
  · intro kind' storeId' epoch' position h
    constructor
    · rw [Option.eq_none_iff_forall_ne_some]
      intro position' hdecoded
      have hmemory := decodeMemoryToken_eq_some.mp hdecoded
      rw [← h] at hmemory
      exact encodeMemoryToken_ne_storage hmemory
    · intro hother
      rw [Option.eq_none_iff_forall_ne_some]
      intro position' hdecoded
      have hsame := (decodeStorageToken_eq_some.mp hdecoded).trans h.symm
      obtain ⟨hkind, hstore, hepoch, -⟩ := encodeStorageToken_inj hsame
      tauto

end OrbitRelay
