import OrbitRelay.Lib.Result
import OrbitRelay.Protocol.Basic
import OrbitRelay.Transport.Error

/-! Connection lifecycle and the trusted identity that is bound to it. -/
namespace OrbitRelay

abbrev ConnectionId := DomainId .connection

namespace ConnectionState

def canTransitionTo : ConnectionState → ConnectionState → Bool
  | .negotiating, .authenticating => true
  | .authenticating, .ready => true
  | .ready, .closing => true
  | .negotiating, .closing => true
  | .authenticating, .closing => true
  | .closing, .closed => true
  | _, _ => false

/-- The next state, if the lifecycle allows it; on an error the state stays. -/
def transitionTo (state next : ConnectionState) : Except ConnectionStateError ConnectionState :=
  if state.canTransitionTo next then .ok next else .error (.invalidTransition state next)

end ConnectionState

/-- Where the trusted identity came from. -/
structure IdentitySource where
  value : String
deriving DecidableEq

/-- An actor identity trusted for one connection. -/
structure ActorBinding where
  actorId : ActorId
  source : IdentitySource
deriving DecidableEq

structure InboundCredentials where
  scheme : String
  credential : String
deriving DecidableEq

/-- Transport-owned connection state. -/
structure TransportConnection where
  id : ConnectionId
  metadata : Metadata
  state : ConnectionState
  identity : Option ActorBinding
deriving DecidableEq

namespace TransportConnection

def new (id : ConnectionId) (metadata : Metadata) : TransportConnection :=
  ⟨id, metadata, .negotiating, none⟩

/-- Moves along the lifecycle or leaves the connection as it is. -/
def transitionTo (connection : TransportConnection) (next : ConnectionState) :
    Except ConnectionStateError TransportConnection :=
  (connection.state.transitionTo next).map fun state => { connection with state := state }

def beginAuthentication (connection : TransportConnection) :
    Except ConnectionStateError TransportConnection :=
  connection.transitionTo .authenticating

def bindIdentity (connection : TransportConnection) (identity : ActorBinding) :
    Except ConnectionStateError TransportConnection :=
  if connection.state ≠ .authenticating then
    .error (.operationNotAllowed "bind_identity" connection.state)
  else .ok { connection with identity := some identity }

def markReady (connection : TransportConnection) : Except TransportError TransportConnection :=
  if connection.identity.isNone then .error (.identity .authenticationRequired)
  else (connection.transitionTo .ready).mapError .connectionState

def beginClose (connection : TransportConnection) :
    Except ConnectionStateError TransportConnection :=
  connection.transitionTo .closing

def close (connection : TransportConnection) : Except ConnectionStateError TransportConnection :=
  connection.transitionTo .closed

end TransportConnection

/-- An action must be requested by the actor that is bound to the connection. -/
def validateActionBinding (binding : Option ActorBinding) (action : Action) :
    Except IdentityError Unit :=
  match binding with
  | none => .error .authenticationRequired
  | some binding =>
    if binding.actorId ≠ action.actorId then
      .error (.identityMismatch binding.actorId action.actorId)
    else .ok ()

end OrbitRelay
