import OrbitRelay.Protocol.Basic

/-! Transport-neutral query values. -/
namespace OrbitRelay
open Json

inductive QueryTypeError
  | invalidFormat
deriving DecidableEq

/-- A byte that may stand in a segment of a query type. -/
def isQueryTypeByte (byte : UInt8) : Bool :=
  (0x61 ≤ byte && byte ≤ 0x7A) || (0x30 ≤ byte && byte ≤ 0x39) || byte == 0x5F

def validateQueryType (value : String) : Except QueryTypeError Unit :=
  let chars := value.toList
  if Text.trim chars ≠ chars ∨ chars = [] then .error .invalidFormat
  else
    let parts := chars.splitOn '.'
    if parts.length < 2 ∨ parts.any fun part =>
        part.isEmpty || !(part.flatMap String.utf8EncodeChar).all isQueryTypeByte then
      .error .invalidFormat
    else .ok ()

/-- A namespaced query type. -/
structure QueryType where
  value : String
  valid : validateQueryType value = .ok ()
deriving DecidableEq

def QueryType.new (value : String) : Except QueryTypeError QueryType :=
  if h : validateQueryType value = .ok () then .ok ⟨value, h⟩ else .error .invalidFormat

theorem QueryType.new_eq_ok {value : String} {queryType : QueryType} :
    QueryType.new value = .ok queryType ↔ queryType.value = value := by
  unfold QueryType.new
  constructor
  · intro h
    split_ifs at h
    cases h
    rfl
  · rintro rfl
    exact dif_pos queryType.valid

instance : Serialize QueryType := ⟨fun queryType => toValue queryType.value⟩

/-- A query type is validated when it is read. -/
instance : Deserialize QueryType := ⟨fun v => do (QueryType.new (← fromValue v)).toOption⟩

instance : LawfulSerde QueryType where
  fromValue_toValue queryType := by
    show (QueryType.new queryType.value).toOption = some queryType
    rw [QueryType.new_eq_ok.mpr rfl]
    rfl

inductive ActorType
  | human | agent | plugin | service
deriving DecidableEq

/-- The trusted actor that a query runs for. -/
structure QueryActorContext where
  actorId : ActorId
  actorType : Option ActorType
deriving DecidableEq

def QueryActorContext.new (actorId : ActorId) : QueryActorContext := ⟨actorId, none⟩

structure QueryRequest where
  requestId : MessageId
  queryType : QueryType
  payload : Payload

inductive QueryFailureCode
  | unsupportedQuery | invalidQuery | unauthorized | notFound | internal | unavailable | notReady
deriving DecidableEq

structure QueryFailure where
  code : QueryFailureCode
  message : String
  retryable : Bool
deriving DecidableEq

inductive QueryResult
  | success (payload : Payload)
  | error (failure : QueryFailure)

/-- A response that carries the identity of its request. -/
structure QueryResponse where
  requestId : MessageId
  queryType : QueryType
  result : QueryResult

def QueryResponse.error (requestId : MessageId) (queryType : QueryType) (failure : QueryFailure) :
    QueryResponse :=
  ⟨requestId, queryType, .error failure⟩

end OrbitRelay
