import OrbitRelay.Transport.Turns

/-! What the coordinator does with queries, turn by turn: each is answered at once or admitted, and
each completed one is answered. -/
namespace OrbitRelay
open Pausing

/-- What a query and its answer have in common. -/
structure Ticket where
  messageId : MessageId
  queryType : QueryType
deriving DecidableEq

def QueryMessage.ticket (message : QueryMessage) : Ticket :=
  ⟨message.messageId, message.messageType⟩

def QueryRequest.ticket (request : QueryRequest) : Ticket := ⟨request.requestId, request.queryType⟩

def QueryResponse.ticket (response : QueryResponse) : Ticket :=
  ⟨response.requestId, response.queryType⟩

def OutboundMessage.ticket? : OutboundMessage → Option Ticket
  | .queryResponse response => some ⟨response.requestId, response.queryType⟩
  | _ => none

def QueryTask.ticket? : QueryTask → Option Ticket
  | running job => some job.request.ticket
  | done response => response.map QueryResponse.ticket

def QueryTask.job? : QueryTask → Option QueryJob
  | running job => some job
  | done _ => none

def CoordinatorEvent.ticket? : CoordinatorEvent → Option Ticket
  | .queryCompleted response => some response.ticket
  | _ => none

section Answers

/-- The ticket of the job that was admitted in this exchange. -/
def jobTicket (e : CoordinatorExchange) : Option Ticket := (queryOf e).map (·.request.ticket)

/-- The ticket of the response that was queued in this exchange. -/
def responseTicket (e : CoordinatorExchange) : Option Ticket :=
  (messageOf e).bind OutboundMessage.ticket?

/-- The tickets that this exchange disposed of. -/
def served (e : CoordinatorExchange) : List Ticket :=
  (jobTicket e).toList ++ (responseTicket e).toList

def Turn.served (turn : Turn) : List Ticket := turn.exchanges.flatMap OrbitRelay.served

/-- The query of a turn that found the connection ready. -/
def Turn.query? (turn : Turn) : Option QueryMessage :=
  match turn.input.message? turn.state.activeCodec with
  | some (.query message) => if turn.state.connection.state = .ready then some message else none
  | _ => none

/-- Both sides speak the query protocol. -/
def Turn.Speaks (turn : Turn) (message : QueryMessage) : Prop :=
  turn.state.negotiatedVersion = some queryProtocolVersion ∧
    message.version = queryProtocolVersion

instance (turn : Turn) (message : QueryMessage) : Decidable (turn.Speaks message) :=
  inferInstanceAs (Decidable (_ ∧ _))

/-- The query of a turn that is to be answered with a response. -/
def Turn.asked (turn : Turn) : Option Ticket :=
  turn.query?.bind fun message => if turn.Speaks message then some message.ticket else none

def Turn.completed (turn : Turn) : Option Ticket :=
  match turn.input with
  | .event (some told) => told.ticket?
  | _ => none

/-- The tickets that a turn has to dispose of. -/
def Turn.owed (turn : Turn) : List Ticket := turn.asked.toList ++ turn.completed.toList

/-- The answer to a query in another version. -/
def unsupportedVersion (message : QueryMessage) : OutboundMessage :=
  .error (.fromTransportError (some message.messageId)
    (.version (.unsupportedVersion [queryProtocolVersion])))

/-- An attempt on the writer queue that was refused. -/
def refusedWrite : CoordinatorExchange → Bool
  | ⟨_, .enqueue (.action _), _⟩ | ⟨_, .enqueue (.query _), _⟩ => false
  | ⟨_, .enqueue _, queued⟩ => ! queued
  | _ => false

/-- An attempt on the writer queue that was refused, or that had nothing to put there. -/
def failedWrite : CoordinatorExchange → Bool
  | ⟨_, .enqueue (.action _), _⟩ | ⟨_, .enqueue (.query _), _⟩ => false
  | ⟨_, .enqueue item, queued⟩ => ! (queued && item.command?.isSome)
  | _ => false

/-- What the loop may ask for: responses within the limit, and queries only of an executor. -/
def CoordinatorRequest.Admissible (settings : SessionSettings) : CoordinatorRequest → Prop
  | .enqueue (.queryResponse _ _ _ limit) => limit = settings.config.transport.maxMessageBytes
  | .enqueue (.query _) => settings.hasQueryExecutor = true
  | .enqueue (.application _ (.queryResponse _)) | .enqueue (.writer (.application ..)) => False
  | .perform .dropSenders => False
  | _ => True

/-- The turns of a session in which no attempt on the writer queue fails: each disposes of what
it has to, with one message or one job, and of nothing else. -/
def queryTurns (settings : SessionSettings) : TurnSpec where
  pre s := s.connection.state = .ready →
    s.negotiatedVersion.isSome = true ∧ s.connection.identity.isSome = true
  rely turn q a := failedWrite ⟨turn.state, q, a⟩ = false
  asks turn q := turn.served = [] ∧
    (turn.query?.isSome = true ∨ turn.completed.isSome = true → turn.queued = []) ∧
    q.Admissible settings
  done turn := turn.served = turn.owed ∧
    (∀ ticket ∈ turn.owed, ∀ message ∈ turn.queued, message.ticket? = some ticket) ∧
    ∀ message ∈ turn.query?, ¬ turn.Speaks message → turn.queued = [unsupportedVersion message]

/-- A response is queued as itself or as the fallback, and within the limit. -/
theorem responseMessage_eq_some {codec : MessageCodec} {version : Version}
    {response : QueryResponse} {limit : Nat} {message : OutboundMessage}
    (h : responseMessage codec version response limit = some message) :
    message.ticket? = some response.ticket ∧
      ∃ encoded, codec.encodeOutbound message = .ok encoded ∧ encoded.length ≤ limit := by
  unfold responseMessage at h
  dsimp only at h
  split at h
  case h_1 => cases h
  case h_2 encoded hencoded =>
    split at h
    case isTrue hfits =>
      cases h
      exact ⟨rfl, encoded, hencoded, hfits⟩
    case isFalse =>
      split at h
      case h_1 => cases h
      case h_2 encoded hencoded =>
        split at h <;> cases h
        case isTrue hfits => exact ⟨rfl, encoded, hencoded, hfits⟩

/-- A response that was queued disposes of its ticket. -/
theorem served_response {s s' : Coordinator} {codec : MessageCodec} {version : Version}
    {response : QueryResponse} {limit : Nat} {queued : Bool}
    (h : failedWrite ⟨s, .enqueue (.queryResponse codec version response limit), queued⟩ = false) :
    queued = true ∧ ∃ message, message.ticket? = some response.ticket ∧
      messageOf ⟨s', .enqueue (.queryResponse codec version response limit), queued⟩ =
        some message := by
  have hwritten : queued = true ∧ (responseMessage codec version response limit).isSome = true := by
    simpa [failedWrite, Enqueue.command?] using h
  obtain ⟨rfl, hsome⟩ := hwritten
  obtain ⟨message, hmessage⟩ := Option.isSome_iff_exists.mp hsome
  refine ⟨rfl, message, (responseMessage_eq_some hmessage).1, ?_⟩
  simp [messageOf, commandOf, Enqueue.command?, hmessage, WriterCommand.message?]

theorem queued_error {s : Coordinator} {codec : MessageCodec} {requestId : Option MessageId}
    {error : TransportError} {queued : Bool}
    (h : failedWrite ⟨s, .enqueue (.error codec requestId error), queued⟩ = false) :
    queued = true := by
  simpa [failedWrite, Enqueue.command?] using h

end Answers

section Turns
variable {settings : SessionSettings} {s : Coordinator} {input : CoordinatorInput}
  {message : QueryMessage}

/-- What holds after a turn for the input. -/
abbrev queryPost (settings : SessionSettings) (s : Coordinator) (input : CoordinatorInput) :
    LoopControl → CoordinatorTrace → Coordinator → Prop :=
  fun control es _ => control = .next → (queryTurns settings).done ⟨s, input, es⟩

/-- The turn owes one ticket, and its exchanges end with the response. -/
theorem done_of_response (s' : Coordinator) (es : CoordinatorTrace) {codec : MessageCodec}
    {version : Version} {response : QueryResponse} {limit : Nat} {queued : Bool}
    (hserved : es.flatMap served = []) (hqueued : es.filterMap messageOf = [])
    (howed : ∀ es, Turn.owed ⟨s, input, es⟩ = [response.ticket])
    (hspeaks : ∀ es, ∀ message ∈ Turn.query? ⟨s, input, es⟩, Turn.Speaks ⟨s, input, es⟩ message)
    (h : failedWrite ⟨s, .enqueue (.queryResponse codec version response limit), queued⟩ = false) :
    queued = true ∧ (queryTurns settings).done ⟨s, input,
      es ++ [⟨s', .enqueue (.queryResponse codec version response limit), queued⟩]⟩ := by
  obtain ⟨hqueue, message, hticket, hmessage⟩ := @served_response s s' _ _ _ _ _ h
  refine ⟨hqueue, ?_, ?_, fun message hmem hsilent => absurd (hspeaks _ message hmem) hsilent⟩
  · rw [howed, Turn.served, List.flatMap_append, hserved, List.flatMap_singleton, served,
      responseTicket, hmessage, Option.bind_some, hticket]
    rfl
  · rw [howed, Turn.queued, List.filterMap_snoc, hqueued, hmessage]
    intro ticket hmem message hmessage
    rw [List.mem_singleton.mp hmem, List.mem_singleton.mp hmessage]
    exact hticket

theorem queryTurns_completed (response : QueryResponse) :
    (handleInput settings (.event (some (.queryCompleted response)))).wp
      ((queryTurns settings).body s (.event (some (.queryCompleted response))))
      (queryPost settings s (.event (some (.queryCompleted response)))) [] s := by
  simp only [handleInput, handleCoordinatorEvent, Proc.wp_bind, Proc.wp_get, wp_enqueue,
    wp_orSlowConsumer]
  refine ⟨⟨rfl, rfl, fun _ => rfl, rfl⟩, fun queued hrely => ⟨fun _ _ => ?_, fun _ => of_stop⟩⟩
  have hsilent (es : CoordinatorTrace) (message : QueryMessage)
      (hmem : message ∈ Turn.query? ⟨s, .event (some (.queryCompleted response)), es⟩) :
      Turn.Speaks ⟨s, .event (some (.queryCompleted response)), es⟩ message := by
    cases hmem
  exact (done_of_response s [] rfl rfl (fun _ => rfl) hsilent hrely).2

section Query
variable (hmessage : input.message? s.activeCodec = some (.query message))
include hmessage

theorem query_eq (es : CoordinatorTrace) : Turn.query? ⟨s, input, es⟩ =
    if s.connection.state = .ready then some message else none := by
  simp [Turn.query?, hmessage]

theorem owed_eq (es : CoordinatorTrace) :
    Turn.owed ⟨s, input, es⟩ = (Turn.asked ⟨s, input, es⟩).toList := by
  obtain ⟨bytes, rfl, -⟩ := message_eq_some hmessage
  exact List.append_nil _

/-- A query on a connection that is not ready is not counted. -/
theorem done_of_not_ready (hstate : s.connection.state ≠ .ready) {es : CoordinatorTrace}
    (hserved : es.flatMap served = []) : (queryTurns settings).done ⟨s, input, es⟩ := by
  have hnone : Turn.query? ⟨s, input, es⟩ = none := by
    rw [query_eq hmessage, if_neg hstate]
  have howed : Turn.owed ⟨s, input, es⟩ = [] := by
    rw [owed_eq hmessage, Turn.asked, hnone]
    rfl
  refine ⟨hserved.trans howed.symm, ?_, ?_⟩
  · rw [howed]
    exact fun _ hmem => (List.not_mem_nil hmem).elim
  · rw [hnone]
    exact fun _ hmem => (Option.not_mem_none _ hmem).elim

variable (hstate : s.connection.state = .ready) {version : Version}
  (hversion : s.negotiatedVersion = some version)
include hstate hversion

/-- A query in another version is answered with an error. -/
theorem done_of_unsupported
    (hversions : version ≠ queryProtocolVersion ∨ message.version ≠ queryProtocolVersion)
    {es : CoordinatorTrace} (hserved : es.flatMap served = [])
    (hqueued : es.filterMap messageOf = [unsupportedVersion message]) :
    (queryTurns settings).done ⟨s, input, es⟩ := by
  have hsome : Turn.query? ⟨s, input, es⟩ = some message := by
    rw [query_eq hmessage, if_pos hstate]
  have hsilent : ¬ Turn.Speaks ⟨s, input, es⟩ message := by
    rintro ⟨hnegotiated, hmessage⟩
    obtain rfl : version = queryProtocolVersion :=
      Option.some.inj (hversion.symm.trans hnegotiated)
    exact hversions.elim (· rfl) (· hmessage)
  have howed : Turn.owed ⟨s, input, es⟩ = [] := by
    rw [owed_eq hmessage, Turn.asked, hsome, Option.bind_some, if_neg hsilent]
    rfl
  refine ⟨hserved.trans howed.symm, ?_, ?_⟩
  · rw [howed]
    exact fun _ hmem => (List.not_mem_nil hmem).elim
  · intro other hother _
    rw [hsome] at hother
    cases hother
    exact hqueued

/-- A query in the version of both sides is owed an answer. -/
theorem speaks_of_versions
    (hversions : ¬ (version ≠ queryProtocolVersion ∨ message.version ≠ queryProtocolVersion))
    (es : CoordinatorTrace) :
    Turn.owed ⟨s, input, es⟩ = [message.ticket] ∧
      ∀ other ∈ Turn.query? ⟨s, input, es⟩, Turn.Speaks ⟨s, input, es⟩ other := by
  have hsome : Turn.query? ⟨s, input, es⟩ = some message := by
    rw [query_eq hmessage, if_pos hstate]
  have hspeaks : Turn.Speaks ⟨s, input, es⟩ message := by
    obtain ⟨rfl, hmessage⟩ : version = queryProtocolVersion ∧
        message.version = queryProtocolVersion := by
      simpa [not_or] using hversions
    exact ⟨hversion, hmessage⟩
  constructor
  · rw [owed_eq hmessage, Turn.asked, hsome, Option.bind_some, if_pos hspeaks]
    rfl
  · intro other hother
    rw [hsome] at hother
    cases hother
    exact hspeaks

end Query

/-- A query is answered at once or admitted; on a connection that is not ready it is refused with
an error of the caller. -/
theorem queryTurns_query (hpre : (queryTurns settings).pre s) {bytes : List UInt8}
    (hdecoded : s.activeCodec.decodeInbound bytes = .ok (.query message)) :
    (handleInput settings (.reader (some (.text bytes)))).wp
      ((queryTurns settings).body s (.reader (some (.text bytes))))
      (queryPost settings s (.reader (some (.text bytes)))) [] s := by
  have hmessage : (CoordinatorInput.reader (some (.text bytes))).message? s.activeCodec =
      some (.query message) := by
    simp [CoordinatorInput.message?, hdecoded, Except.toOption]
  simp only [handleInput, handleReaderEvent, handleText, Proc.wp_bind, Proc.wp_get, hdecoded,
    handleMessage, handleInbound, handleQuery, Proc.wp_run_bind, Proc.wp_run_get,
    Proc.afterResult_ok]
  cases hready : ensureReady s.connection with
  | error e =>
    have hstate : s.connection.state ≠ .ready := by
      intro hstate
      rw [ensureReady_eq_ok.mpr hstate] at hready
      cases hready
    simp only [orThrow, Proc.wp_run_throw, Proc.afterResult_error, Proc.wp_bind, Proc.wp_get,
      wp_enqueue, Proc.wp_ite]
    refine ⟨⟨rfl, rfl, fun _ => rfl, trivial⟩, fun queued hrely => ?_⟩
    refine ⟨fun _ => of_stop, fun _ _ => ?_⟩
    apply done_of_not_ready hmessage hstate
    rw [queued_error hrely]
    rfl
  | ok =>
    have hstate := ensureReady_eq_ok.mp hready
    obtain ⟨version, hversion⟩ := Option.isSome_iff_exists.mp (hpre hstate).1
    obtain ⟨binding, hidentity⟩ := Option.isSome_iff_exists.mp (hpre hstate).2
    simp only [wp_orThrow_ok, Proc.afterResult_ok, Proc.wp_run_bind, Proc.wp_run_get, hversion,
      hidentity, Proc.wp_run_ite, wp_required, wp_enqueue, Proc.wp_run_liftM, Proc.wp_run_pure]
    constructor
    · intro hversions
      refine ⟨⟨rfl, rfl, fun _ => rfl, trivial⟩, fun queued hrely => ?_⟩
      obtain rfl := queued_error hrely
      exact fun _ => done_of_unsupported hmessage hstate hversion hversions rfl rfl
    · intro hversions
      have howed := speaks_of_versions hmessage hstate hversion hversions
      have hresponse (es : CoordinatorTrace) (hserved : es.flatMap served = [])
          (hqueued : es.filterMap messageOf = []) (queued : Bool) :=
        @done_of_response settings s _ s es s.activeCodec version (unavailableResponse message)
          settings.config.transport.maxMessageBytes queued hserved hqueued
          (fun es => (howed es).1) (fun es => (howed es).2)
      constructor
      · intro _
        refine ⟨⟨rfl, rfl, fun _ => rfl, rfl⟩, fun queued hrely => ?_⟩
        obtain ⟨rfl, hdone⟩ := hresponse [] rfl rfl queued hrely
        exact fun _ => hdone
      · intro hexecutor
        have hexecutor : settings.hasQueryExecutor = true := by simpa using hexecutor
        refine ⟨⟨rfl, rfl, fun _ => rfl, hexecutor⟩, fun admitted _ => ⟨?_, ?_⟩⟩
        · intro hrefused
          obtain rfl : admitted = false := by simpa using hrefused
          refine ⟨⟨rfl, rfl, fun _ => rfl, rfl⟩, fun queued hrely => ?_⟩
          obtain ⟨rfl, hdone⟩ := hresponse
            [⟨s, .enqueue (.query ⟨.new binding.actorId, message.intoRequest⟩), false⟩] rfl rfl
            queued hrely
          exact fun _ => hdone
        · intro hadmitted _
          obtain rfl : admitted = true := by simpa using hadmitted
          refine ⟨(howed _).1.symm, fun _ _ _ hmem => (List.not_mem_nil hmem).elim, ?_⟩
          exact fun other hother hsilent => absurd ((howed _).2 other hother) hsilent

/-- The requests that may dispose of a ticket. -/
def CoordinatorRequest.serves : CoordinatorRequest → Bool
  | .enqueue (.query _) | .enqueue (.queryResponse ..) => true
  | .enqueue (.application _ (.queryResponse _)) | .enqueue (.writer (.application ..)) => true
  | _ => false

theorem served_eq_nil {q : CoordinatorRequest} (hq : q.serves = false) (s : Coordinator)
    (a : q.Answer) : served ⟨s, q, a⟩ = [] := by
  cases q with
  | enqueue item =>
    change Bool at a
    cases item with
    | query job | queryResponse _ _ _ _ => cases hq
    | application codec message =>
      cases message with
      | queryResponse _ => cases hq
      | _ => cases a <;> rfl
    | writer command =>
      cases command with
      | application _ _ => cases hq
      | _ => cases a <;> rfl
    | _ => cases a <;> rfl
  | sendClose =>
    change Bool at a
    cases a <;> rfl
  | _ => rfl

theorem serves_cases {q : CoordinatorRequest} (h : q.serves = true) :
    (∃ job, q = .enqueue (.query job)) ∨
    (∃ codec version response limit,
      q = .enqueue (.queryResponse codec version response limit)) ∨
    (∃ codec response, q = .enqueue (.application codec (.queryResponse response))) ∨
    ∃ message codec, q = .enqueue (.writer (.application message codec)) := by
  unfold CoordinatorRequest.serves at h
  split at h
  · exact .inl ⟨_, rfl⟩
  · exact .inr (.inl ⟨_, _, _, _, rfl⟩)
  · exact .inr (.inr (.inl ⟨_, _, rfl⟩))
  · exact .inr (.inr (.inr ⟨_, _, rfl⟩))
  · cases h

/-- Only a query and a completed query lead to such a request. -/
theorem serves_of_asks {codec : MessageCodec} {input : CoordinatorInput} {q : CoordinatorRequest}
    (hquery : ∀ message, input.message? codec ≠ some (.query message))
    (hcompleted : ∀ response, input ≠ .event (some (.queryCompleted response)))
    (hq : input.asks codec q = true) : q.serves = false := by
  by_contra hserves
  suffices hnot : input.asks codec q = false by
    rw [hnot] at hq
    cases hq
  rcases serves_cases (Bool.not_eq_false _ ▸ hserves) with
    ⟨_, rfl⟩ | ⟨_, _, _, _, rfl⟩ | ⟨_, _, rfl⟩ | ⟨_, _, rfl⟩
  all_goals
    apply asks_eq_false rfl rfl
    · intro message hmessage
      cases message with
      | query m => exact absurd hmessage (hquery m)
      | _ => rfl
    · intro event hevent
      cases event with
      | queryCompleted response => exact absurd hevent (hcompleted response)
      | _ => rfl

theorem not_asks_drop (codec : MessageCodec) (input : CoordinatorInput) :
    input.asks codec (.perform .dropSenders) = false := by
  apply asks_eq_false rfl rfl
  · intro message _
    cases message <;> rfl
  · intro event _
    cases event <;> rfl

theorem admissible_of_free {codec : MessageCodec} {q : CoordinatorRequest}
    (hserves : q.serves = false) (hq : input.asks codec q = true) : q.Admissible settings := by
  unfold CoordinatorRequest.Admissible
  split
  case h_1 | h_2 | h_3 | h_4 => cases hserves
  case h_5 =>
    rw [not_asks_drop] at hq
    cases hq
  case h_6 => trivial

/-- Every turn keeps the specification. -/
theorem queryTurns_body (s : Coordinator) (input : CoordinatorInput)
    (hpre : (queryTurns settings).pre s) :
    (handleInput settings input).wp ((queryTurns settings).body s input)
      (queryPost settings s input) [] s := by
  by_cases hcompleted : ∃ response, input = .event (some (.queryCompleted response))
  · obtain ⟨response, rfl⟩ := hcompleted
    exact queryTurns_completed response
  by_cases hquery : ∃ message, input.message? s.activeCodec = some (.query message)
  · obtain ⟨message, hmessage⟩ := hquery
    obtain ⟨bytes, rfl, hdecoded⟩ := message_eq_some hmessage
    exact queryTurns_query hpre hdecoded
  have hfree (q : CoordinatorRequest) (hq : input.asks s.activeCodec q = true) :
      q.serves = false :=
    serves_of_asks (fun m hm => hquery ⟨m, hm⟩) (fun r hr => hcompleted ⟨r, hr⟩) hq
  have hnone (es : CoordinatorTrace) : Turn.query? ⟨s, input, es⟩ = none := by
    unfold Turn.query?
    split
    · rename_i message hmessage
      exact absurd ⟨message, hmessage⟩ hquery
    · rfl
  have hnotCompleted (es : CoordinatorTrace) : Turn.completed ⟨s, input, es⟩ = none := by
    unfold Turn.completed
    split
    · rename_i told hinput
      cases told with
      | queryCompleted response => exact absurd ⟨response, hinput⟩ hcompleted
      | _ => rfl
    · rfl
  have howed (es : CoordinatorTrace) : Turn.owed ⟨s, input, es⟩ = [] := by
    rw [Turn.owed, Turn.asked, hnone, hnotCompleted]
    rfl
  refine Proc.wp_mono (Proc.wp_carry (I := fun es => es.flatMap served = [])
    (handleInput_asks input) (fun es s' q hserved hq => ?_)
    (fun es s' q a hserved hq _ => ?_) rfl) ?_
  · have hserves := hfree q hq.1
    refine ⟨isSelect_of_asks hq.1, hserved, ?_, admissible_of_free hserves hq.1⟩
    rw [hnone, hnotCompleted]
    intro hsome
    rcases hsome with hsome | hsome
    · cases hsome
    · cases hsome
  · rw [List.flatMap_append, hserved, List.flatMap_singleton, served_eq_nil (hfree q hq.1)]
    rfl
  · intro control es s' hpost _
    refine ⟨hpost.1.trans (howed es).symm, ?_, ?_⟩
    · rw [howed]
      exact fun _ hmem => (List.not_mem_nil hmem).elim
    · rw [hnone]
      exact fun _ hmem => (Option.not_mem_none _ hmem).elim

end Turns
end OrbitRelay
