import OrbitRelay.Transport.Codec

/-! How strict the JSON codec is: which parts of a decoded message are sure to be objects without
unknown fields. -/
namespace OrbitRelay
open Json

/-- What rejects unknown fields at a position of a message. -/
inductive Guard
  /-- a list of exact field names -/
  | validated
  /-- `deny_unknown_fields` -/
  | denied
  /-- neither -/
  | unguarded
deriving DecidableEq

/-- A value with a fixed struct schema. -/
structure Position where
  fields : List String
  guard : Guard
  value : Value

namespace Position

/-- An object that has no key outside the fields of its struct. -/
def IsStrict (position : Position) : Prop := Strict position.fields position.value

/-- The value is not one that gets past its guard without being strict. -/
def IsPlain (position : Position) : Prop :=
  match position.guard with
  | .validated => True
  | .denied => position.value.isArray = false
  | .unguarded => position.value.isArray = false ∧ NoExtraKeys position.fields position.value

/-- The position of a field, where there is a value. -/
def ofMember (fields : List String) (guard : Guard) (value : Option Value) : List Position :=
  value.toList.map fun value => ⟨fields, guard, value⟩

/-- The positions in the content of a message. -/
def ofContent (kind : String) (payload : Value) : List Position :=
  match kind with
  | "hello" => ⟨Hello.fieldNames, .denied, payload⟩ ::
      match member Hello.fieldNames "supported_versions" payload with
      | some (.array entries) => entries.map fun entry => ⟨Version.fieldNames, .unguarded, entry⟩
      | _ => []
  | "authenticate" => ⟨Authenticate.fieldNames, .denied, payload⟩ ::
      ofMember InboundCredentials.fieldNames .denied
        (member Authenticate.fieldNames "credentials" payload)
  | "subscribe" => [⟨SubscriptionRequest.fieldNames, .denied, payload⟩]
  | "unsubscribe" => [⟨Unsubscribe.fieldNames, .denied, payload⟩]
  | "ping" => [⟨PingMessage.fieldNames, .denied, payload⟩]
  | "close" => [⟨CloseMessage.fieldNames, .denied, payload⟩]
  | "action" => ⟨MessageEnvelope.fieldNames, .validated, payload⟩ ::
      (ofMember Version.fieldNames .validated
          (member MessageEnvelope.fieldNames "version" payload) ++
        ofMember Action.fieldNames .validated
          (member MessageEnvelope.fieldNames "payload" payload))
  | "query" => ⟨QueryMessage.fieldNames, .validated, payload⟩ ::
      ofMember Version.fieldNames .validated (member QueryMessage.fieldNames "version" payload)
  | _ => []

/-- All positions of a message. -/
def ofMessage (value : Value) : List Position :=
  ⟨InboundMessage.fieldNames, .validated, value⟩ ::
    match member InboundMessage.fieldNames "kind" value,
      member InboundMessage.fieldNames "payload" value with
    | some (.string kind), some payload => ofContent kind payload
    | _, _ => []

/-- With `deny_unknown_fields` a value is strict when it is plain. -/
theorem isStrict_iff_of_fromStruct {α : Type} {fields : List String} {value : Value}
    {build : List Value → Option α} {a : α} (h : fromStruct fields build value = some a) :
    IsStrict ⟨fields, .denied, value⟩ ↔ IsPlain ⟨fields, .denied, value⟩ :=
  strict_iff_of_fromStruct h

/-- A value with validated fields is strict. -/
theorem isStrict_iff_of_hasExactly {fields : List String} {m : Json.Map}
    (h : m.HasExactly fields) :
    IsStrict ⟨fields, .validated, .object m⟩ ↔ IsPlain ⟨fields, .validated, .object m⟩ :=
  iff_of_true h.strict trivial

theorem isStrict_iff_of_close {value : Value} {close : CloseMessage}
    (h : fromValue value = some close) :
    IsStrict ⟨CloseMessage.fieldNames, .denied, value⟩ ↔
      IsPlain ⟨CloseMessage.fieldNames, .denied, value⟩ := by
  rcases CloseMessage.fromValue_eq_some h with rfl | ⟨build, hbuild⟩
  · exact iff_of_true ⟨[], rfl, fun _ hkey => absurd hkey List.not_mem_nil⟩ rfl
  · exact isStrict_iff_of_fromStruct hbuild

theorem forall_mem_ofMember {fields : List String} {guard : Guard} {value : Option Value}
    {P : Position → Prop} :
    (∀ position ∈ ofMember fields guard value, P position) ↔
      ∀ v, value = some v → P ⟨fields, guard, v⟩ := by
  unfold ofMember
  rw [List.forall_mem_map]
  simp only [Option.mem_toList]

/-- The version of a validated envelope. -/
theorem isStrict_iff_of_exactVersion {value : Option Value} (h : ExactVersion value) :
    ∀ position ∈ ofMember Version.fieldNames .validated value,
      position.IsStrict ↔ position.IsPlain := by
  obtain ⟨version, rfl, hfields⟩ := h
  rw [forall_mem_ofMember]
  intro v hv
  cases hv
  exact isStrict_iff_of_hasExactly hfields

theorem isStrict_iff_of_hello {payload : Value} {hello : Hello}
    (h : fromValue payload = some hello) :
    ∀ position ∈ ofContent "hello" payload, position.IsStrict ↔ position.IsPlain := by
  obtain ⟨versions, hmember, hversions⟩ := Hello.member_of_fromValue h
  show ∀ position ∈ _ :: (_ : List Position), _
  rw [List.forall_mem_cons, hmember]
  refine ⟨isStrict_iff_of_fromStruct h, ?_⟩
  cases versions with
  | array entries =>
    dsimp only
    rw [List.forall_mem_map]
    intro entry hentry
    obtain ⟨version, hversion⟩ := fromValue_of_mem_items hversions hentry
    exact strict_iff_of_fromOpenStruct hversion
  | _ => exact List.forall_mem_nil _

theorem isStrict_iff_of_authenticate {payload : Value} {authenticate : Authenticate}
    (h : fromValue payload = some authenticate) :
    ∀ position ∈ ofContent "authenticate" payload, position.IsStrict ↔ position.IsPlain := by
  obtain ⟨credentials, hmember, hcredentials⟩ := Authenticate.member_of_fromValue h
  show ∀ position ∈ _ :: (_ : List Position), _
  rw [List.forall_mem_cons, hmember]
  refine ⟨isStrict_iff_of_fromStruct h, forall_mem_ofMember.mpr fun v hv => ?_⟩
  cases hv
  exact isStrict_iff_of_fromStruct hcredentials

theorem isStrict_iff_of_action {payload : Value}
    (h : validateActionEnvelope payload = .ok ()) :
    ∀ position ∈ ofContent "action" payload, position.IsStrict ↔ position.IsPlain := by
  obtain ⟨envelope, action, rfl, hexact⟩ := validateActionEnvelope_eq_ok.mp h
  show ∀ position ∈ _ :: (_ ++ _ : List Position), _
  rw [List.forall_mem_cons, List.forall_mem_append]
  refine ⟨isStrict_iff_of_hasExactly hexact.fields, isStrict_iff_of_exactVersion hexact.version,
    forall_mem_ofMember.mpr fun v hv => ?_⟩
  have haction := hexact.object.symm.trans hv
  cases haction
  exact isStrict_iff_of_hasExactly hexact.actionFields

theorem isStrict_iff_of_query {payload : Value}
    (h : validateQueryMessage payload = .ok ()) :
    ∀ position ∈ ofContent "query" payload, position.IsStrict ↔ position.IsPlain := by
  obtain ⟨message, rfl, hexact⟩ := validateQueryMessage_eq_ok.mp h
  show ∀ position ∈ _ :: (_ : List Position), _
  rw [List.forall_mem_cons]
  exact ⟨isStrict_iff_of_hasExactly hexact.fields, isStrict_iff_of_exactVersion hexact.version⟩

theorem ofMessage_of_tagged {value payload : Value} {kind : String}
    (h : Tagged value kind payload) :
    ofMessage value = ⟨InboundMessage.fieldNames, .validated, value⟩ :: ofContent kind payload := by
  obtain ⟨m, rfl, -, hkind, hpayload⟩ := h
  have hkindMember : member InboundMessage.fieldNames "kind" (.object m) = some (.string kind) :=
    hkind
  have hpayloadMember : member InboundMessage.fieldNames "payload" (.object m) = some payload :=
    hpayload
  unfold ofMessage
  rw [hkindMember, hpayloadMember]

section
variable [Deserialize Timestamp]

/-- A content that is valid and read is strict at a position exactly when it is plain there. -/
theorem isStrict_iff_of_ofContent {kind : String} {payload : Value} {message : InboundMessage}
    (hvalid : validateContent kind payload = .ok ())
    (hread : InboundMessage.ofContent kind payload = some message) :
    ∀ position ∈ ofContent kind payload, position.IsStrict ↔ position.IsPlain := by
  unfold InboundMessage.ofContent at hread
  split at hread
  · -- hello
    obtain ⟨hello, hhello, -⟩ := Option.map_eq_some_iff.mp hread
    exact isStrict_iff_of_hello hhello
  · -- authenticate
    obtain ⟨authenticate, hauthenticate, -⟩ := Option.map_eq_some_iff.mp hread
    exact isStrict_iff_of_authenticate hauthenticate
  · -- subscribe
    obtain ⟨request, hrequest, -⟩ := Option.map_eq_some_iff.mp hread
    exact List.forall_mem_singleton.mpr (isStrict_iff_of_fromStruct hrequest)
  · -- unsubscribe
    obtain ⟨unsubscribe, hunsubscribe, -⟩ := Option.map_eq_some_iff.mp hread
    exact List.forall_mem_singleton.mpr (isStrict_iff_of_fromStruct hunsubscribe)
  · -- action
    exact isStrict_iff_of_action hvalid
  · -- query
    exact isStrict_iff_of_query hvalid
  · -- ping
    obtain ⟨ping, hping, -⟩ := Option.map_eq_some_iff.mp hread
    exact List.forall_mem_singleton.mpr (isStrict_iff_of_fromStruct hping)
  · -- close
    obtain ⟨close, hclose, -⟩ := Option.map_eq_some_iff.mp hread
    exact List.forall_mem_singleton.mpr (isStrict_iff_of_close hclose)
  · cases hread

end

end Position

namespace JsonCodec

/-- A decoded message is strict everywhere exactly when no value with `deny_unknown_fields` is an
array, and no supported version is an array or has a key outside its fields. -/
theorem strict_iff_plain [Deserialize Timestamp] (fromSlice : List UInt8 → Option Value)
    (bytes : List UInt8) (value : Value) (message : InboundMessage)
    (htext : fromSlice bytes = some value)
    (hdecoded : decodeInbound fromSlice bytes = .ok message) :
    (∀ position ∈ Position.ofMessage value, position.IsStrict) ↔
      ∀ position ∈ Position.ofMessage value, position.IsPlain := by
  obtain ⟨value', kind, payload, htext', htagged, hvalid, hread⟩ :=
    (decodeInbound_eq_ok fromSlice).mp hdecoded
  cases htext.symm.trans htext'
  apply forall₂_congr
  rw [Position.ofMessage_of_tagged htagged, List.forall_mem_cons]
  refine ⟨?_, Position.isStrict_iff_of_ofContent hvalid hread⟩
  obtain ⟨m, rfl, hfields, -⟩ := htagged
  exact Position.isStrict_iff_of_hasExactly hfields

def pingObject : Value :=
  .object [("kind", .string "ping"), ("payload", .object [("nonce", toValue (7 : UInt64))])]

def pingObjectText : String := "\x7b\"kind\":\"ping\",\"payload\":\x7b\"nonce\":7\x7d\x7d"

theorem decodeInbound_knowing [Deserialize Timestamp] {text : String} {value : Value}
    {message : InboundMessage} (hvalid : validateInbound value = .ok ())
    (hread : fromValue value = some message) :
    decodeInbound (knowing text value) text.toUTF8.data.toList = .ok message := by
  unfold decodeInbound knowing
  rw [if_pos rfl, Except.okOr_some, Except.ok_bind, hvalid, Except.ok_bind, hread]
  rfl

theorem strict_iff_plain_ping :
    @decodeInbound timestampReader (knowing pingObjectText pingObject)
        pingObjectText.toUTF8.data.toList = .ok (.ping ⟨7⟩) ∧
      ∀ position ∈ Position.ofMessage pingObject, position.IsStrict := by
  have hdecoded := @decodeInbound_knowing timestampReader pingObjectText pingObject (.ping ⟨7⟩)
    rfl rfl
  refine ⟨hdecoded, ?_⟩
  refine (@strict_iff_plain timestampReader _ _ pingObject _ (if_pos rfl) hdecoded).mpr ?_
  show ∀ position ∈ [_, _], _
  rw [List.forall_mem_cons, List.forall_mem_singleton]
  exact ⟨trivial, rfl⟩

/-- A ping whose nonce is not named. -/
def pingArray : Value :=
  .object [("kind", .string "ping"), ("payload", .array [toValue (7 : UInt64)])]

def pingArrayText : String := "\x7b\"kind\":\"ping\",\"payload\":[7]\x7d"

/-- A version with a field that versions do not have. -/
def labelledVersion : Value :=
  .object [("label", .string "beta"), ("major", toValue (0 : UInt16)),
    ("minor", toValue (2 : UInt16)), ("patch", toValue (0 : UInt16))]

def helloLabelled : Value :=
  .object [("kind", .string "hello"), ("payload", .object [("codecs", .array [.string "json"]),
    ("supported_versions", .array [labelledVersion])])]

def helloLabelledText : String :=
  "\x7b\"kind\":\"hello\",\"payload\":\x7b\"supported_versions\":[" ++
  "\x7b\"major\":0,\"minor\":2,\"patch\":0,\"label\":\"beta\"\x7d]," ++
  "\"codecs\":[\"json\"]\x7d\x7d"

/-- Neither message is strict, and both are decoded. -/
theorem not_strict_pingArray_helloLabelled :
    (@decodeInbound timestampReader (knowing pingArrayText pingArray)
        pingArrayText.toUTF8.data.toList = .ok (.ping ⟨7⟩) ∧
      ¬ ∀ position ∈ Position.ofMessage pingArray, position.IsStrict) ∧
    (@decodeInbound timestampReader (knowing helloLabelledText helloLabelled)
        helloLabelledText.toUTF8.data.toList = .ok (.hello ⟨[⟨0, 2, 0⟩], ["json"]⟩) ∧
      ¬ ∀ position ∈ Position.ofMessage helloLabelled, position.IsStrict) := by
  refine ⟨⟨@decodeInbound_knowing timestampReader _ _ _ rfl rfl, fun hstrict => ?_⟩,
    @decodeInbound_knowing timestampReader _ _ _ rfl rfl, fun hstrict => ?_⟩
  · have hmem : (⟨PingMessage.fieldNames, .denied, .array [toValue (7 : UInt64)]⟩ : Position) ∈
        Position.ofMessage pingArray := List.mem_cons_of_mem _ List.mem_cons_self
    obtain ⟨m, hm, -⟩ := hstrict _ hmem
    cases hm
  · have hmem : (⟨Version.fieldNames, .unguarded, labelledVersion⟩ : Position) ∈
        Position.ofMessage helloLabelled :=
      List.mem_cons_of_mem _ (List.mem_cons_of_mem _ List.mem_cons_self)
    obtain ⟨m, hm, hkeys⟩ := hstrict _ hmem
    cases hm
    have hlabel := hkeys "label" List.mem_cons_self
    revert hlabel
    decide

end JsonCodec
end OrbitRelay
