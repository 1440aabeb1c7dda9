import OrbitRelay.DocumentRuntime.Query
import OrbitRelay.Lib.Registry

/-! The query registry and its executor, with the Document handlers registered among others. A
response repeats the identity of its request, and says no more than the handler disclosed. -/
namespace OrbitRelay
open Json Pausing

/-- Registration failure for a query handler. -/
inductive QueryRegistryError
  | duplicateQueryType (queryType : QueryType)
deriving DecidableEq

/-- A handler of one query type. -/
structure QueryHandler (m : Type → Type) where
  queryType : QueryType
  execute : QueryActorContext → QueryRequest → ExceptT QueryHandlerError m Payload

/-- The handlers by their query type. -/
structure QueryRegistry (m : Type → Type) where
  handlers : QueryType → Option (QueryHandler m)

namespace QueryRegistry
variable {m : Type → Type}

def new : QueryRegistry m := ⟨fun _ => none⟩

/-- Registers one handler, rejecting duplicate query types. -/
def register (handler : QueryHandler m) (registry : QueryRegistry m) :
    Except QueryRegistryError Unit × QueryRegistry m :=
  if (registry.handlers handler.queryType).isSome then
    (.error (.duplicateQueryType handler.queryType), registry)
  else (.ok (), ⟨Function.update registry.handlers handler.queryType (some handler)⟩)

def get (queryType : QueryType) (registry : QueryRegistry m) : Option (QueryHandler m) :=
  registry.handlers queryType

/-- The registry after a sequence of registrations, whatever their outcomes. -/
def registerAll (handlers : List (QueryHandler m)) : QueryRegistry m :=
  handlers.foldl (fun registry handler => (registry.register handler).2) new

theorem registerAll_concat (handlers : List (QueryHandler m)) (handler : QueryHandler m) :
    registerAll (handlers ++ [handler]) = ((registerAll handlers).register handler).2 := by
  unfold registerAll
  rw [List.foldl_append]
  rfl

/-- A registration is an offer under the handler's query type. -/
def offer (handler : QueryHandler m) : Registry.Change QueryType (QueryHandler m) :=
  .offer handler.queryType handler

theorem register_handlers (handler : QueryHandler m) (registry : QueryRegistry m) :
    (registry.register handler).2.handlers = Registry.apply registry.handlers (offer handler) := by
  unfold register offer
  rw [Registry.apply_offer]
  split_ifs <;> rfl

theorem registerAll_handlers (handlers : List (QueryHandler m)) :
    (registerAll handlers).handlers = Registry.applyAll (handlers.map offer) := by
  induction handlers using List.reverseRecOn with
  | nil => rfl
  | append_singleton handlers handler ih =>
    rw [registerAll_concat, register_handlers, ih, List.map_append, List.map_singleton,
      Registry.applyAll_concat]

theorem standing_offers (queryType : QueryType) (handlers : List (QueryHandler m)) :
    Registry.standing queryType (handlers.map offer) =
      handlers.filter (fun handler => handler.queryType = queryType) := by
  induction handlers using List.reverseRecOn with
  | nil => rfl
  | append_singleton handlers handler ih =>
    rw [List.map_append, List.map_singleton, offer, Registry.standing_offer, ih,
      List.filter_append]
    by_cases hkey : handler.queryType = queryType <;> simp [hkey]

/-- The first handler that was registered for a query type stays. -/
theorem get_registerAll (queryType : QueryType) (handlers : List (QueryHandler m)) :
    (registerAll handlers).get queryType =
      handlers.find? fun handler => handler.queryType = queryType := by
  unfold get
  rw [registerAll_handlers, Registry.applyAll_eq, standing_offers, List.head?_filter]

end QueryRegistry

/-- The failure that a handler error stands for in a response. -/
def mapHandlerError : QueryHandlerError → QueryFailureCode × Bool × String
  | .invalidQuery => (.invalidQuery, false, "The query is invalid.")
  | .unauthorized =>
    (.unauthorized, false, "The actor is not authorized to read this resource.")
  | .notFound => (.notFound, false, "The requested resource was not found.")
  | .unavailable => (.unavailable, true, "The query service is temporarily unavailable.")
  | .internal => (.internal, false, "The query could not be completed.")

def failureOf (error : QueryHandlerError) : QueryFailure :=
  let (code, retryable, message) := mapHandlerError error
  ⟨code, message, retryable⟩

def QueryResponse.success (requestId : MessageId) (queryType : QueryType) (payload : Payload) :
    QueryResponse :=
  ⟨requestId, queryType, .success payload⟩

/-- The response when no handler is registered. -/
def unsupportedQuery : QueryFailure :=
  ⟨.unsupportedQuery, "The query type is not supported.", false⟩

/-- Executes the registered handler of the request. -/
def QueryRegistry.execute {m : Type → Type} [Monad m] (registry : QueryRegistry m)
    (actor : QueryActorContext) (request : QueryRequest) : m QueryResponse := do
  match registry.get request.queryType with
  | none => pure (.error request.requestId request.queryType unsupportedQuery)
  | some handler =>
    match ← (handler.execute actor request).run with
    | .ok payload => pure (.success request.requestId request.queryType payload)
    | .error error => pure (.error request.requestId request.queryType (failureOf error))

/-- The response that a handler's result becomes. -/
def QueryResponse.ofResult (request : QueryRequest) :
    Except QueryHandlerError Payload → QueryResponse
  | .ok payload => .success request.requestId request.queryType payload
  | .error error => .error request.requestId request.queryType (failureOf error)

namespace QueryRegistry
variable {Q : Type} {A : Q → Type} {σ : Type} {c : Contract Q A σ}
  {registry : QueryRegistry (Proc Q A σ)} {actor : QueryActorContext} {request : QueryRequest}
  {post : QueryResponse → List (Exchange Q A σ) → σ → Prop} {h : List (Exchange Q A σ)} {s : σ}

theorem wp_execute_of_none (hnone : registry.get request.queryType = none) :
    (registry.execute actor request).wp c post h s ↔
      post (.error request.requestId request.queryType unsupportedQuery) h s := by
  unfold execute
  rw [hnone]
  rfl

/-- The executor adds nothing to what its handler does. -/
theorem wp_execute_of_some {handler : QueryHandler (Proc Q A σ)}
    (hsome : registry.get request.queryType = some handler) :
    (registry.execute actor request).wp c post h s ↔
      (handler.execute actor request).run.wp c (fun result => post (.ofResult request result))
        h s := by
  unfold execute
  rw [hsome]
  dsimp only
  rw [Proc.wp_bind]
  apply iff_of_eq
  congr 1
  funext result
  cases result <;> rfl

end QueryRegistry

/-- Nothing is asked of a program that may ask for anything. -/
theorem wp_within_true {Q : Type} {A : Q → Type} {σ α : Type} (x : Proc Q A σ α)
    (h : List (Exchange Q A σ)) (s : σ) :
    x.wp (.within fun _ _ => True) (fun _ _ _ => True) h s := by
  unfold Proc.wp
  generalize x s = p
  induction p generalizing h with
  | done a => trivial
  | ask s q k ih => exact ⟨trivial, fun a _ => ih a _⟩

namespace DocumentQuery

def documentListQueryHandler : QueryHandler ReadM := ⟨documentListQueryType, executeListQuery⟩

def documentGetQueryHandler : QueryHandler ReadM := ⟨documentGetQueryType, executeGetQuery⟩

/-- Registers the two Document handlers. When the second is rejected the first stays. -/
def registerDocumentQueryHandlers (registry : QueryRegistry ReadM) :
    Except QueryRegistryError Unit × QueryRegistry ReadM :=
  match registry.register documentListQueryHandler with
  | (.error e, registry) => (.error e, registry)
  | (.ok (), registry) => registry.register documentGetQueryHandler

/-- A handler of the query type is among them. -/
def Takes (handlers : List (QueryHandler ReadM)) (queryType : QueryType) : Prop :=
  ∃ handler ∈ handlers, handler.queryType = queryType

/-- What registering the Document handlers comes to, and the registrations that it leaves. -/
inductive Registers (handlers : List (QueryHandler ReadM)) :
    Except QueryRegistryError Unit → List (QueryHandler ReadM) → Prop
  | list_taken (taken : Takes handlers documentListQueryType) :
      Registers handlers (.error (.duplicateQueryType documentListQueryType)) handlers
  | get_taken (free : ¬ Takes handlers documentListQueryType)
      (taken : Takes handlers documentGetQueryType) :
      Registers handlers (.error (.duplicateQueryType documentGetQueryType))
        (handlers ++ [documentListQueryHandler])
  | both (list_free : ¬ Takes handlers documentListQueryType)
      (get_free : ¬ Takes handlers documentGetQueryType) :
      Registers handlers (.ok ())
        (handlers ++ [documentListQueryHandler, documentGetQueryHandler])

/-- A response in the identity of its request: a payload as `Discloses` says, or the words for a
kind of failure, and nothing after a refusal. -/
structure Answered (request : QueryRequest) (Discloses : Payload → Prop)
    (response : QueryResponse) (trace : ReadTrace) : Prop where
  requestId : response.requestId = request.requestId
  queryType : response.queryType = request.queryType
  disclosed : ∀ payload, response.result = .success payload → Discloses payload
  failed : ∀ failure, response.result = .error failure → ∃ e, failure = failureOf e
  withheld : Refused trace → (∃ e, response.result = .error (failureOf e)) ∧
    ∀ exchange ∈ trace, ¬ ReadsView exchange.request

theorem Guarded.answered {Discloses : Payload → Prop} {result : Except QueryHandlerError Payload}
    {trace : ReadTrace} (h : Guarded Discloses result trace) (request : QueryRequest) :
    Answered request Discloses (.ofResult request result) trace := by
  cases result with
  | ok payload =>
    refine ⟨rfl, rfl, ?_, ?_, ?_⟩
    · intro _ hpayload
      cases hpayload
      exact h.disclosed payload rfl
    · intro _ hfailure
      cases hfailure
    · intro hrefused
      obtain ⟨⟨e, he⟩, -⟩ := h.withheld hrefused
      cases he
  | error e =>
    refine ⟨rfl, rfl, ?_, ?_, ?_⟩
    · intro _ hpayload
      cases hpayload
    · intro _ hfailure
      cases hfailure
      exact ⟨e, rfl⟩
    · intro hrefused
      exact ⟨⟨e, rfl⟩, (h.withheld hrefused).2⟩

section
variable {handlers : List (QueryHandler ReadM)}

theorem isSome_get_registerAll {queryType : QueryType} :
    ((QueryRegistry.registerAll handlers).get queryType).isSome = true ↔
      Takes handlers queryType := by
  rw [QueryRegistry.get_registerAll, List.find?_isSome]
  simp [Takes]

theorem register_of_takes {handler : QueryHandler ReadM} (h : Takes handlers handler.queryType) :
    (QueryRegistry.registerAll handlers).register handler =
      (.error (.duplicateQueryType handler.queryType), QueryRegistry.registerAll handlers) := by
  unfold QueryRegistry.register
  rw [if_pos]
  exact isSome_get_registerAll.mpr h

theorem register_of_not_takes {handler : QueryHandler ReadM}
    (h : ¬ Takes handlers handler.queryType) :
    (QueryRegistry.registerAll handlers).register handler =
      (.ok (), QueryRegistry.registerAll (handlers ++ [handler])) := by
  have hfree : ¬ ((QueryRegistry.registerAll handlers).handlers handler.queryType).isSome = true :=
    fun hsome => h (isSome_get_registerAll.mp hsome)
  rw [QueryRegistry.registerAll_concat]
  unfold QueryRegistry.register
  rw [if_neg hfree]

theorem takes_concat_list :
    Takes (handlers ++ [documentListQueryHandler]) documentGetQueryType ↔
      Takes handlers documentGetQueryType := by
  have hne : documentListQueryType ≠ documentGetQueryType := by decide
  constructor
  · rintro ⟨handler, hmem, hkey⟩
    rcases List.mem_append.mp hmem with hmem | hmem
    · exact ⟨handler, hmem, hkey⟩
    · cases List.mem_singleton.mp hmem
      exact absurd hkey hne
  · rintro ⟨handler, hmem, hkey⟩
    exact ⟨handler, List.mem_append_left _ hmem, hkey⟩

theorem registers_documentHandlers (handlers : List (QueryHandler ReadM)) :
    ∃ outcome kept, registerDocumentQueryHandlers (QueryRegistry.registerAll handlers) =
        (outcome, QueryRegistry.registerAll kept) ∧ Registers handlers outcome kept := by
  unfold registerDocumentQueryHandlers
  by_cases hlist : Takes handlers documentListQueryType
  · rw [@register_of_takes handlers documentListQueryHandler hlist]
    exact ⟨_, handlers, rfl, .list_taken hlist⟩
  · rw [@register_of_not_takes handlers documentListQueryHandler hlist]
    dsimp only
    by_cases hget : Takes handlers documentGetQueryType
    · rw [@register_of_takes _ documentGetQueryHandler (takes_concat_list.mpr hget)]
      exact ⟨_, _, rfl, .get_taken hlist hget⟩
    · have hfree := fun htaken => hget (takes_concat_list.mp htaken)
      rw [@register_of_not_takes _ documentGetQueryHandler hfree, List.append_assoc]
      exact ⟨_, _, rfl, .both hlist hget⟩

/-- A registered handler is found behind any handlers that do not take its type. -/
theorem get_of_not_takes {handler : QueryHandler ReadM}
    (h : ¬ Takes handlers handler.queryType) (later : List (QueryHandler ReadM)) :
    (QueryRegistry.registerAll (handlers ++ handler :: later)).get handler.queryType =
      some handler := by
  have hnone : handlers.find? (fun other => other.queryType = handler.queryType) = none := by
    rw [List.find?_eq_none]
    intro other hmem hkey
    exact h ⟨other, hmem, of_decide_eq_true hkey⟩
  rw [QueryRegistry.get_registerAll, List.find?_append, hnone, Option.none_or, List.find?_cons,
    decide_eq_true rfl]

end

/-- Every response keeps the identity of its request, and says that the query is unsupported
exactly if no handler is registered for it. -/
theorem execute_correlated (registry : QueryRegistry ReadM) (actor : QueryActorContext)
    (request : QueryRequest) :
    (registry.execute actor request).wp (.within fun _ _ => True)
      (fun response _ _ => response.requestId = request.requestId ∧
        response.queryType = request.queryType ∧
        (response.result = .error unsupportedQuery ↔ registry.get request.queryType = none))
      [] () := by
  cases hget : registry.get request.queryType with
  | none =>
    rw [QueryRegistry.wp_execute_of_none hget]
    exact ⟨rfl, rfl, iff_of_true rfl rfl⟩
  | some handler =>
    rw [QueryRegistry.wp_execute_of_some hget]
    apply Proc.wp_mono (wp_within_true _ _ _)
    intro result _ _ _
    cases result with
    | ok payload =>
      refine ⟨rfl, rfl, iff_of_false ?_ (Option.some_ne_none _)⟩
      intro heq
      cases heq
    | error e =>
      refine ⟨rfl, rfl, iff_of_false ?_ (Option.some_ne_none _)⟩
      intro heq
      cases e <;> cases heq

/-- The Document queries as served: registered among any other handlers the first handler of a
type stays, and both Document handlers or a prefix of them are added; every response keeps the
identity of its request; and what the Document handlers answer is what was approved, or the words
for a kind of failure. -/
theorem document_queries_served (handlers later : List (QueryHandler ReadM))
    (inserted : Nat → List DocumentDescriptor) (hgrows : Grows inserted)
    (actor : QueryActorContext) (request : QueryRequest) :
    (∀ queryType, (QueryRegistry.registerAll handlers).get queryType =
      handlers.find? fun handler => handler.queryType = queryType) ∧
    (∃ outcome kept, registerDocumentQueryHandlers (QueryRegistry.registerAll handlers) =
        (outcome, QueryRegistry.registerAll kept) ∧ Registers handlers outcome kept ∧
      (outcome = .ok () →
        (request.queryType = documentListQueryType →
          ((QueryRegistry.registerAll (kept ++ later)).execute actor request).wp
            (disclosure inserted actor documentListQueryType)
            (fun response trace _ => Answered request (fun payload => ∃ sessionId summaries,
              ListsSession inserted actor request trace payload sessionId summaries)
              response trace) [] ()) ∧
        (request.queryType = documentGetQueryType →
          ((QueryRegistry.registerAll (kept ++ later)).execute actor request).wp
            (disclosure inserted actor documentGetQueryType)
            (fun response trace _ => Answered request (fun payload => ∃ view,
              ShowsDocument inserted actor request trace payload view)
              response trace) [] ()))) ∧
    ∀ registry : QueryRegistry ReadM,
      (registry.execute actor request).wp (.within fun _ _ => True)
        (fun response _ _ => response.requestId = request.requestId ∧
          response.queryType = request.queryType ∧
          (response.result = .error unsupportedQuery ↔ registry.get request.queryType = none))
        [] () := by
  refine ⟨fun queryType => QueryRegistry.get_registerAll queryType handlers, ?_,
    fun registry => execute_correlated registry actor request⟩
  obtain ⟨outcome, kept, hregister, hregisters⟩ := registers_documentHandlers handlers
  refine ⟨outcome, kept, hregister, hregisters, fun hok => ?_⟩
  cases hregisters with
  | list_taken taken => cases hok
  | get_taken free taken => cases hok
  | both list_free get_free =>
    constructor
    · intro htype
      have hget : (QueryRegistry.registerAll (handlers ++ [documentListQueryHandler,
          documentGetQueryHandler] ++ later)).get request.queryType =
          some documentListQueryHandler := by
        rw [htype, List.append_assoc]
        exact @get_of_not_takes _ documentListQueryHandler list_free _
      rw [QueryRegistry.wp_execute_of_some hget]
      apply Proc.wp_mono (wp_executeListQuery hgrows actor request)
      intro result trace _ hguarded
      exact hguarded.answered request
    · intro htype
      have hfree : ¬ Takes (handlers ++ [documentListQueryHandler]) documentGetQueryType :=
        fun htaken => get_free (takes_concat_list.mp htaken)
      have hget : (QueryRegistry.registerAll (handlers ++ [documentListQueryHandler,
          documentGetQueryHandler] ++ later)).get request.queryType =
          some documentGetQueryHandler := by
        have hsplit : handlers ++ [documentListQueryHandler, documentGetQueryHandler] ++ later =
            handlers ++ [documentListQueryHandler] ++ documentGetQueryHandler :: later := by simp
        rw [htype, hsplit]
        exact @get_of_not_takes _ documentGetQueryHandler hfree _
      rw [QueryRegistry.wp_execute_of_some hget]
      apply Proc.wp_mono (wp_executeGetQuery hgrows actor request)
      intro result trace _ hguarded
      exact hguarded.answered request

/-- A handler of another component. -/
def statusHandler : QueryHandler ReadM :=
  ⟨⟨"node.status", by decide⟩, fun _ _ => pure ⟨[]⟩⟩

/-- It is registered too late for its query type. -/
def lateGetHandler : QueryHandler ReadM := ⟨documentGetQueryType, fun _ _ => throw .internal⟩

def lessonRequest : QueryRequest :=
  ⟨⟨countedIds 8⟩, documentGetQueryType, ⟨[("document_id", toValue lessonDocument.documentId)]⟩⟩

/-- A stored Document is asked for among other handlers, while it is registered again. -/
theorem document_queries_served_sample :
    ∃ kept, registerDocumentQueryHandlers (QueryRegistry.registerAll [statusHandler]) =
        (.ok (), QueryRegistry.registerAll kept) ∧
      ((QueryRegistry.registerAll (kept ++ [lateGetHandler])).execute (.new ⟨countedIds 7⟩)
          lessonRequest).wp
        (disclosure (fun n => .replicate (n + 1) lessonDocument) (.new ⟨countedIds 7⟩)
          documentGetQueryType)
        (fun response trace _ => Answered lessonRequest
          (fun payload => ∃ view, ShowsDocument (fun n => .replicate (n + 1) lessonDocument)
            (.new ⟨countedIds 7⟩) lessonRequest trace payload view) response trace) [] () := by
  have hgrows : Grows fun n => .replicate (n + 1) lessonDocument :=
    fun _ => ⟨[lessonDocument], List.replicate_succ'.symm⟩
  obtain ⟨-, ⟨outcome, kept, hregister, hregisters, hserved⟩, -⟩ := document_queries_served
    [statusHandler] [lateGetHandler] _ hgrows (.new ⟨countedIds 7⟩) lessonRequest
  have hother : ∀ {queryType}, statusHandler.queryType ≠ queryType →
      ¬ Takes [statusHandler] queryType := by
    rintro queryType hne ⟨handler, hmem, hkey⟩
    cases List.mem_singleton.mp hmem
    exact hne hkey
  have hok : outcome = .ok () := by
    cases hregisters with
    | list_taken taken => exact absurd taken (hother (by decide))
    | get_taken free taken => exact absurd taken (hother (by decide))
    | both list_free get_free => rfl
  subst hok
  exact ⟨kept, hregister, (hserved rfl).2 rfl⟩

end DocumentQuery
end OrbitRelay
