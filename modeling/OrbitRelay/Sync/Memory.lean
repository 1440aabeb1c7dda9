import OrbitRelay.Lib.Result
import OrbitRelay.Lib.Transition
import OrbitRelay.Protocol.Basic

/-! The single-process event bus, seen by one subscription: a bounded FIFO queue, a counter
of missed events beside it, and the consumer that reads the counter before it receives. -/
namespace OrbitRelay

abbrev SubscriptionId := DomainId .subscription

inductive SyncError
  | subscriberLagged (subscriptionId : SubscriptionId) (missed : UInt64)
  | subscriptionClosed (subscriptionId : SubscriptionId)
  | invalidFilter (reason : String)
  | invalidQueueCapacity
deriving DecidableEq

/-- Conditions on the events of a subscription. An empty list of types accepts all types. -/
structure EventFilter where
  sessionId : Option SessionId
  eventTypes : List EventType
  actorId : Option ActorId

def EventFilter.matches (filter : EventFilter) (event : Event) : Bool :=
  filter.sessionId.all (· == event.sessionId) &&
    (filter.eventTypes.isEmpty || filter.eventTypes.contains event.eventType) &&
    filter.actorId.all (· == event.actorId)

/-- A subscription together with its entry in the bus: the queue that joins the sender to the
receiver, and the shared counter. -/
structure MemorySubscription where
  id : SubscriptionId
  filter : EventFilter
  queue : List Event
  lagged : UInt64
  closed : Bool
  receiveAfterLag : Bool

namespace MemorySubscription

def new (id : SubscriptionId) (filter : EventFilter) : MemorySubscription where
  id := id
  filter := filter
  queue := []
  lagged := 0
  closed := false
  receiveAfterLag := false

/-- What `publish` does to one subscriber. A closed receiver refuses the event, and its entry
is removed: nothing changes for the subscription. -/
def publish (capacity : Nat) (event : Event) (sub : MemorySubscription) : MemorySubscription :=
  if ¬ sub.filter.matches event then sub
  else if sub.closed then sub
  else if sub.queue.length < capacity then { sub with queue := sub.queue ++ [event] }
  else { sub with lagged := sub.lagged.saturatingSucc }

/-- `next_event` up to its await: it returns, or it goes on to receive. -/
def nextEvent (sub : MemorySubscription) :
    MemorySubscription × Option (Except SyncError (Option Event)) :=
  if sub.closed then (sub, some (.error (.subscriptionClosed sub.id)))
  else if ¬ sub.receiveAfterLag then
    let missed := sub.lagged
    let sub := { sub with lagged := 0 }
    if missed > 0 then
      ({ sub with receiveAfterLag := true }, some (.error (.subscriberLagged sub.id missed)))
    else ({ sub with receiveAfterLag := false }, none)
  else ({ sub with receiveAfterLag := false }, none)

/-- `recv` completes with the oldest event, or with `none` once the queue is empty and its
sender is gone; otherwise it stays pending. -/
def receive (busAlive : Bool) (sub : MemorySubscription) :
    Option (MemorySubscription × Option Event) :=
  match sub.queue with
  | event :: rest => some ({ sub with queue := rest }, some event)
  | [] => if busAlive then none else some (sub, none)

def close (sub : MemorySubscription) : MemorySubscription := { sub with closed := true }

end MemorySubscription
end OrbitRelay
