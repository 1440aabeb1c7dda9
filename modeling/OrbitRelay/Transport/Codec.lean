import OrbitRelay.Query.Grammar
import OrbitRelay.Transport.Wire

/-! The JSON codec: checks of the exact fields, then the derived deserializers. -/
namespace OrbitRelay
open Json

def requireObject : Value → Except CodecError Json.Map
  | .object m => .ok m
  | _ => .error .invalidMessageShape

/-- The first missing field is reported, then the first unknown one. -/
def validateExactFields (object : Json.Map) (expected : List String) : Except CodecError Unit := do
  expected.forM fun field =>
    if (object.get? field).isSome then .ok () else .error (.missingField field)
  (object.keys).forM fun field =>
    if expected.contains field then .ok () else .error (.unknownField field)

/-- `Value::as_str` -/
def asStr : Value → Option String
  | .string s => some s
  | _ => none

def validateQueryMessage (value : Value) : Except CodecError Unit := do
  let message ← requireObject value
  validateExactFields message ["version", "message_id", "message_type", "payload"]
  let version ← (message.get? "version").okOr (.missingField "version")
  validateExactFields (← requireObject version) ["major", "minor", "patch"]
  let queryType ← ((message.get? "message_type").bind asStr).okOr .invalidMessageShape
  let _ ← (QueryType.new queryType).mapError fun _ => .invalidMessageShape
  let _ ← requireObject (← (message.get? "payload").okOr (.missingField "payload"))
  .ok ()

def validateActionEnvelope (value : Value) : Except CodecError Unit := do
  let envelope ← requireObject value
  validateExactFields envelope ["version", "message_id", "message_type", "payload"]
  let version ← (envelope.get? "version").okOr (.missingField "version")
  validateExactFields (← requireObject version) ["major", "minor", "patch"]
  let messageType ← ((envelope.get? "message_type").bind asStr).okOr .invalidMessageShape
  if messageType ≠ "action" then
    .error (.unexpectedEnvelopeType "action" messageType)
  else do
    let action ← (envelope.get? "payload").okOr (.missingField "payload")
    let action ← requireObject action
    validateExactFields action
      ["id", "session_id", "actor_id", "action_type", "requested_at", "payload", "metadata"]
    let _ ← requireObject (← (action.get? "payload").okOr (.missingField "payload"))
    let _ ← requireObject (← (action.get? "metadata").okOr (.missingField "metadata"))
    .ok ()

def validateContent (kind : String) (payload : Value) : Except CodecError Unit :=
  match kind with
  | "hello" | "authenticate" | "subscribe" | "unsubscribe" | "ping" | "close" => .ok ()
  | "action" => validateActionEnvelope payload
  | "query" => validateQueryMessage payload
  | unsupported => .error (.unsupportedMessageType unsupported)

def validateInbound (value : Value) : Except CodecError Unit := do
  let object ← requireObject value
  validateExactFields object ["kind", "payload"]
  let kind ← ((object.get? "kind").bind asStr).okOr .invalidMessageShape
  let payload ← (object.get? "payload").okOr (.missingField "payload")
  validateContent kind payload

/-! ### What is validated -/

theorem requireObject_eq_ok {value : Value} {m : Json.Map} :
    requireObject value = .ok m ↔ value = .object m := by
  cases value <;> simp [requireObject]

theorem bind_asStr_eq_some {value : Option Value} {s : String} :
    value.bind asStr = some s ↔ value = some (.string s) := by
  rcases value with _ | (_ | _ | _ | _ | _ | _) <;> simp [asStr]

theorem validateExactFields_eq_ok {object : Json.Map} {expected : List String} {u : Unit} :
    validateExactFields object expected = .ok u ↔ object.HasExactly expected := by
  unfold validateExactFields
  rw [Except.bind_eq_ok]
  constructor
  · rintro ⟨⟨⟩, hmissing, hunknown⟩ key
    constructor
    · intro hkey
      have hcheck := Except.forM_eq_ok.mp hunknown key hkey
      split_ifs at hcheck with hcontains
      exact List.contains_iff_mem.mp hcontains
    · intro hfield
      have hcheck := Except.forM_eq_ok.mp hmissing key hfield
      split_ifs at hcheck with hsome
      exact Map.isSome_get?.mp hsome
  · intro hexactly
    refine ⟨(), Except.forM_eq_ok.mpr fun field hfield => ?_,
      Except.forM_eq_ok.mpr fun key hkey => ?_⟩
    · exact if_pos (Map.isSome_get?.mpr ((hexactly field).mpr hfield))
    · exact if_pos (List.contains_iff_mem.mpr ((hexactly key).mp hkey))

/-- An object with exactly the fields of a version. -/
def ExactVersion (value : Option Value) : Prop :=
  ∃ version : Json.Map, value = some (.object version) ∧
    version.HasExactly ["major", "minor", "patch"]

/-- What the check of a query message asks for. -/
structure ExactQuery (message : Json.Map) : Prop where
  fields : message.HasExactly ["version", "message_id", "message_type", "payload"]
  version : ExactVersion (message.get? "version")
  messageType : ∃ queryType : QueryType,
    message.get? "message_type" = some (.string queryType.value)
  payload : ∃ payload, message.get? "payload" = some (.object payload)

theorem validateQueryMessage_eq_ok {value : Value} :
    validateQueryMessage value = .ok () ↔ ∃ message, value = .object message ∧
      ExactQuery message := by
  unfold validateQueryMessage
  simp only [Except.bind_eq_ok, Except.okOr_eq_ok, Except.mapError_eq_ok, requireObject_eq_ok,
    validateExactFields_eq_ok, bind_asStr_eq_some, exists_const]
  constructor
  · rintro ⟨message, rfl, hfields, _, hversion, version, rfl, hexact, name, hname, queryType, hnew,
      _, hpayload, payload, rfl, -⟩
    rw [← QueryType.new_eq_ok.mp hnew] at hname
    exact ⟨message, rfl, hfields, ⟨version, hversion, hexact⟩, ⟨queryType, hname⟩, payload,
      hpayload⟩
  · rintro ⟨message, rfl, hfields, ⟨version, hversion, hexact⟩, ⟨queryType, hname⟩, payload,
      hpayload⟩
    exact ⟨message, rfl, hfields, _, hversion, version, rfl, hexact, _, hname, queryType,
      QueryType.new_eq_ok.mpr rfl, _, hpayload, payload, rfl, trivial⟩

/-- Where a query type is taken from a string, the grammar decides. The white space test rejects
nothing that the segment test accepts. -/
structure AcceptsGrammar (value : String) : Prop where
  created : (∃ queryType, QueryType.new value = .ok queryType) ↔ IsQueryTypeText value
  unchanged : ∀ queryType, QueryType.new value = .ok queryType → queryType.asStr = value
  read : (∃ queryType : QueryType, fromValue (.string value) = some queryType) ↔
    IsQueryTypeText value
  checked : ∀ message : Json.Map, message.get? "message_type" = some (.string value) →
    (validateQueryMessage (.object message) = .ok () ↔
      IsQueryTypeText value ∧
        message.HasExactly ["version", "message_id", "message_type", "payload"] ∧
        ExactVersion (message.get? "version") ∧
        ∃ payload, message.get? "payload" = some (.object payload))
  trimmed : SegmentTest value.toList → Text.trim value.toList = value.toList ∧ value.toList ≠ []

/-- Query types are created, read and checked by the same grammar. -/
theorem queryType_acceptsGrammar (value : String) : AcceptsGrammar value := by
  constructor
  · exact QueryType.exists_new
  · intro queryType hnew
    exact QueryType.new_eq_ok.mp hnew
  · rw [← QueryType.exists_new]
    apply exists_congr
    intro queryType
    rw [QueryType.fromValue_eq_some, QueryType.new_eq_ok, Value.string.injEq]
    exact eq_comm
  · intro message hmessageType
    rw [validateQueryMessage_eq_ok]
    constructor
    · rintro ⟨_, heq, hexact⟩
      cases heq
      obtain ⟨queryType, hqueryType⟩ := hexact.messageType
      cases hmessageType.symm.trans hqueryType
      exact ⟨validateQueryType_eq_ok.mp queryType.valid, hexact.fields, hexact.version,
        hexact.payload⟩
    · rintro ⟨hgrammar, hfields, hversion, hpayload⟩
      have hvalid := validateQueryType_eq_ok.mpr hgrammar
      exact ⟨message, rfl, hfields, hversion, ⟨⟨value, hvalid⟩, hmessageType⟩, hpayload⟩
  · intro hsegments
    have hgrammar := segmentTest_iff.mp hsegments
    exact ⟨hgrammar.trim, hgrammar.ne_nil⟩

/-- What the check of an action envelope asks for. -/
structure ExactAction (envelope action : Json.Map) : Prop where
  fields : envelope.HasExactly ["version", "message_id", "message_type", "payload"]
  version : ExactVersion (envelope.get? "version")
  messageType : envelope.get? "message_type" = some (.string "action")
  object : envelope.get? "payload" = some (.object action)
  actionFields : action.HasExactly
    ["id", "session_id", "actor_id", "action_type", "requested_at", "payload", "metadata"]
  payload : ∃ payload, action.get? "payload" = some (.object payload)
  metadata : ∃ metadata, action.get? "metadata" = some (.object metadata)

theorem validateActionEnvelope_eq_ok {value : Value} :
    validateActionEnvelope value = .ok () ↔ ∃ envelope action, value = .object envelope ∧
      ExactAction envelope action := by
  unfold validateActionEnvelope
  simp only [Except.bind_eq_ok, Except.okOr_eq_ok, requireObject_eq_ok,
    validateExactFields_eq_ok, bind_asStr_eq_some, exists_const]
  constructor
  · rintro ⟨envelope, rfl, hfields, _, hversion, version, rfl, hexact, messageType, hname, h⟩
    split_ifs at h with haction
    rw [not_not] at haction
    subst haction
    simp only [Except.bind_eq_ok, Except.okOr_eq_ok, requireObject_eq_ok,
      validateExactFields_eq_ok, exists_const] at h
    obtain ⟨_, haction, action, rfl, hactionFields, _, hpayload, payload, rfl, _, hmetadata,
      metadata, rfl, -⟩ := h
    exact ⟨envelope, action, rfl, hfields, ⟨version, hversion, hexact⟩, hname, haction,
      hactionFields, ⟨payload, hpayload⟩, metadata, hmetadata⟩
  · rintro ⟨envelope, action, rfl, hfields, ⟨version, hversion, hexact⟩, hname, haction,
      hactionFields, ⟨payload, hpayload⟩, metadata, hmetadata⟩
    refine ⟨envelope, rfl, hfields, _, hversion, version, rfl, hexact, _, hname, ?_⟩
    rw [if_neg (not_not.mpr rfl)]
    simp only [Except.bind_eq_ok, Except.okOr_eq_ok, requireObject_eq_ok,
      validateExactFields_eq_ok, exists_const]
    exact ⟨_, haction, action, rfl, hactionFields, _, hpayload, payload, rfl, _, hmetadata,
      metadata, rfl, trivial⟩

/-- The message is an object with its tag and its content. -/
def Tagged (value : Value) (kind : String) (payload : Value) : Prop :=
  ∃ m : Json.Map, value = .object m ∧ m.HasExactly ["kind", "payload"] ∧
    m.get? "kind" = some (.string kind) ∧ m.get? "payload" = some payload

theorem validateInbound_eq_ok {value : Value} :
    validateInbound value = .ok () ↔ ∃ kind payload, Tagged value kind payload ∧
      validateContent kind payload = .ok () := by
  unfold validateInbound
  simp only [Except.bind_eq_ok, Except.okOr_eq_ok, requireObject_eq_ok,
    validateExactFields_eq_ok, bind_asStr_eq_some, exists_const]
  constructor
  · rintro ⟨m, hm, hfields, kind, hkind, payload, hpayload, hcontent⟩
    exact ⟨kind, payload, ⟨m, hm, hfields, hkind, hpayload⟩, hcontent⟩
  · rintro ⟨kind, payload, ⟨m, hm, hfields, hkind, hpayload⟩, hcontent⟩
    exact ⟨m, hm, hfields, kind, hkind, payload, hpayload, hcontent⟩

/-! ### What is written -/

theorem exactVersion_toValue (version : Version) : ExactVersion (some (toValue version)) := by
  obtain ⟨m, hm, hfields, -⟩ := @structValue_eq_object [("major", toValue version.major),
    ("minor", toValue version.minor), ("patch", toValue version.patch)] _ rfl (by simp)
  exact ⟨m, congrArg some hm, hfields⟩

/-- The check of a query message accepts what its serializer writes. -/
theorem validateQueryMessage_toValue (message : QueryMessage) :
    validateQueryMessage (toValue message) = .ok () := by
  obtain ⟨m, hm, hfields, hget⟩ := @structValue_eq_object
    [("version", toValue message.version), ("message_id", toValue message.messageId),
      ("message_type", toValue message.messageType), ("payload", toValue message.payload)]
    _ rfl (by simp)
  refine validateQueryMessage_eq_ok.mpr ⟨m, hm, hfields, ?_, ?_, ?_⟩
  · rw [hget "version" (toValue message.version) (by simp)]
    exact exactVersion_toValue message.version
  · exact ⟨message.messageType, hget "message_type" _ (by simp; rfl)⟩
  · exact ⟨message.payload.fields, hget "payload" _ (by simp; rfl)⟩

section
variable [Serialize Timestamp]

/-- So does the check of an action envelope, when its type is `action`. -/
theorem validateActionEnvelope_toValue {envelope : MessageEnvelope Action}
    (h : envelope.messageType = ⟨"action"⟩) :
    validateActionEnvelope (toValue envelope) = .ok () := by
  obtain ⟨action, haction, hactionFields, hactionGet⟩ := @structValue_eq_object
    [("id", toValue envelope.payload.id), ("session_id", toValue envelope.payload.sessionId),
      ("actor_id", toValue envelope.payload.actorId),
      ("action_type", toValue envelope.payload.actionType),
      ("requested_at", toValue envelope.payload.requestedAt),
      ("payload", toValue envelope.payload.payload),
      ("metadata", toValue envelope.payload.metadata)] _ rfl (by simp)
  obtain ⟨m, hm, hfields, hget⟩ := @structValue_eq_object
    [("version", toValue envelope.version), ("message_id", toValue envelope.messageId),
      ("message_type", toValue envelope.messageType), ("payload", .object action)]
    _ rfl (by simp)
  rw [← haction] at hm
  refine validateActionEnvelope_eq_ok.mpr
    ⟨m, action, hm, hfields, ?_, ?_, ?_, hactionFields, ?_, ?_⟩
  · rw [hget "version" (toValue envelope.version) (by simp)]
    exact exactVersion_toValue envelope.version
  · rw [hget "message_type" (toValue envelope.messageType) (by simp), h]
    rfl
  · exact hget "payload" _ (by simp)
  · exact ⟨envelope.payload.payload.fields, hactionGet "payload" _ (by simp; rfl)⟩
  · exact ⟨_, hactionGet "metadata" (toValue envelope.payload.metadata) (by simp)⟩

theorem tagged_toValue (message : InboundMessage) :
    Tagged (toValue message) message.toContent.1 message.toContent.2 := by
  obtain ⟨m, hm, hfields, hget⟩ := @structValue_eq_object
    [("kind", .string message.toContent.1), ("payload", message.toContent.2)] _ rfl (by simp)
  exact ⟨m, hm, hfields, hget "kind" _ (by simp), hget "payload" _ (by simp)⟩

end

section
variable [Serialize Timestamp] [Deserialize Timestamp]

/-- What a message of the source always is: its event types are an ordered set. Its action
envelope is one of an action, with a timestamp that is read back. -/
def InboundMessage.WellFormed : InboundMessage → Prop
  | .subscribe request => request.Ordered
  | .action envelope => envelope.messageType = ⟨"action"⟩ ∧
    fromValue (toValue envelope.payload.requestedAt) = some envelope.payload.requestedAt
  | _ => True

theorem validateContent_toContent {message : InboundMessage} (h : message.WellFormed) :
    validateContent message.toContent.1 message.toContent.2 = .ok () := by
  cases message with
  | action envelope => exact validateActionEnvelope_toValue h.1
  | query message => exact validateQueryMessage_toValue message
  | hello message | authenticate message | subscribe message => rfl
  | unsubscribe message | ping message | close message => rfl

theorem ofContent_toContent {message : InboundMessage} (h : message.WellFormed) :
    InboundMessage.ofContent message.toContent.1 message.toContent.2 = some message := by
  cases message with
  | subscribe request =>
    exact congrArg (InboundMessage.subscribe <$> ·) (SubscriptionRequest.fromValue_toValue h)
  | action envelope =>
    exact congrArg (InboundMessage.action <$> ·)
      (MessageEnvelope.fromValue_toValue (Action.fromValue_toValue h.2))
  | hello message => exact congrArg (InboundMessage.hello <$> ·) (fromValue_toValue message)
  | authenticate message =>
    exact congrArg (InboundMessage.authenticate <$> ·) (fromValue_toValue message)
  | unsubscribe message =>
    exact congrArg (InboundMessage.unsubscribe <$> ·) (fromValue_toValue message)
  | query message => exact congrArg (InboundMessage.query <$> ·) (fromValue_toValue message)
  | ping message => exact congrArg (InboundMessage.ping <$> ·) (fromValue_toValue message)
  | close message => exact congrArg (InboundMessage.close <$> ·) (fromValue_toValue message)

end

theorem fromValue_of_tagged [Deserialize Timestamp] {value payload : Value} {kind : String}
    (h : Tagged value kind payload) :
    fromValue value = InboundMessage.ofContent kind payload := by
  obtain ⟨m, rfl, -, hkind, hpayload⟩ := h
  exact InboundMessage.fromValue_object hkind hpayload

namespace JsonCodec

section
variable [Deserialize Timestamp] (fromSlice : List UInt8 → Option Value)

/-- Decodes one client message; `fromSlice` reads JSON text. -/
def decodeInbound (bytes : List UInt8) : Except CodecError InboundMessage := do
  let value ← (fromSlice bytes).okOr .invalidJson
  validateInbound value
  (fromValue value).okOr .decodeFailed

/-- Text is decoded when it is a tagged message whose content is valid and is read. -/
theorem decodeInbound_eq_ok {bytes : List UInt8} {message : InboundMessage} :
    decodeInbound fromSlice bytes = .ok message ↔ ∃ value kind payload,
      fromSlice bytes = some value ∧ Tagged value kind payload ∧
        validateContent kind payload = .ok () ∧
        InboundMessage.ofContent kind payload = some message := by
  unfold decodeInbound
  simp only [Except.bind_eq_ok, Except.okOr_eq_ok]
  constructor
  · rintro ⟨value, hvalue, ⟨⟩, hvalid, hread⟩
    obtain ⟨kind, payload, htagged, hcontent⟩ := validateInbound_eq_ok.mp hvalid
    rw [fromValue_of_tagged htagged] at hread
    exact ⟨value, kind, payload, hvalue, htagged, hcontent, hread⟩
  · rintro ⟨value, kind, payload, hvalue, htagged, hcontent, hread⟩
    refine ⟨value, hvalue, (), validateInbound_eq_ok.mpr ⟨kind, payload, htagged, hcontent⟩, ?_⟩
    rw [fromValue_of_tagged htagged]
    exact hread

end

/-- The codec undoes serialization. `toVec` writes the text of a message, which `fromSlice` reads
back as the data that the derived serializer produced. -/
theorem decodeInbound_toVec [Serialize Timestamp] [Deserialize Timestamp]
    (toVec : InboundMessage → List UInt8) (fromSlice : List UInt8 → Option Value)
    (message : InboundMessage) (hmessage : message.WellFormed)
    (htext : fromSlice (toVec message) = some (toValue message)) :
    decodeInbound fromSlice (toVec message) = .ok message :=
  (decodeInbound_eq_ok fromSlice).mpr ⟨_, _, _, htext, tagged_toValue message,
    validateContent_toContent hmessage, ofContent_toContent hmessage⟩

/-- A reader that knows one text. -/
def knowing (text : String) (value : Value) (bytes : List UInt8) : Option Value :=
  if bytes = text.toUTF8.data.toList then some value else none

def newYear : Timestamp := ⟨1704067200000000000⟩

abbrev timestampWriter : Serialize Timestamp := ⟨fun _ => .string "2024-01-01 00:00:00.0 +00:00:00"⟩

abbrev timestampReader : Deserialize Timestamp where
  fromValue
    | .string "2024-01-01 00:00:00.0 +00:00:00" => some newYear
    | _ => none

def drawAction : InboundMessage :=
  .action ⟨⟨0, 1, 0⟩, ⟨⟨⟨Vector.replicate 16 1⟩⟩⟩, ⟨"action"⟩,
    ⟨⟨⟨⟨Vector.replicate 16 2⟩⟩⟩, ⟨⟨⟨Vector.replicate 16 3⟩⟩⟩, ⟨⟨⟨Vector.replicate 16 4⟩⟩⟩,
      ⟨"canvas.draw"⟩, newYear, ⟨[("x", .number (.posInt 12))]⟩, ⟨[]⟩⟩⟩

def drawActionText : String :=
  "\x7b\"kind\":\"action\",\"payload\":\x7b" ++
  "\"version\":\x7b\"major\":0,\"minor\":1,\"patch\":0\x7d," ++
  "\"message_id\":\"01010101-0101-0101-0101-010101010101\",\"message_type\":\"action\"," ++
  "\"payload\":\x7b\"id\":\"02020202-0202-0202-0202-020202020202\"," ++
  "\"session_id\":\"03030303-0303-0303-0303-030303030303\"," ++
  "\"actor_id\":\"04040404-0404-0404-0404-040404040404\",\"action_type\":\"canvas.draw\"," ++
  "\"requested_at\":\"2024-01-01 00:00:00.0 +00:00:00\",\"payload\":\x7b\"x\":12\x7d," ++
  "\"metadata\":\x7b\x7d\x7d\x7d\x7d"

def drawActionValue : Value :=
  letI := timestampWriter
  toValue drawAction

theorem decodeInbound_toVec_draw :
    @decodeInbound timestampReader (knowing drawActionText drawActionValue)
      drawActionText.toUTF8.data.toList = .ok drawAction :=
  @decodeInbound_toVec timestampWriter timestampReader
    (fun _ => drawActionText.toUTF8.data.toList) (knowing drawActionText drawActionValue)
    drawAction ⟨rfl, rfl⟩ (if_pos rfl)

end JsonCodec
end OrbitRelay
