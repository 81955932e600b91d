import TunnelRelay.Text.Quoted

/-!
# Engine events

Engines report what happens to them as named events.

## Main definitions

- `Engine.EventKind` — the events that have a meaning here, and all others by name
- `Engine.EventKind.ofName`, `Engine.EventKind.name` — kinds and their names
- `Engine.Event` — a kind with a text and two flags
-/

namespace TunnelRelay.Engine

/-- The kind of an event. -/
inductive EventKind where
  | connected
  | disconnected
  | reconnecting
  | resolve
  | wait
  | pushRequest
  | pushReply
  | authFailed
  | authPending
  | authOk
  | compressError
  | dataChannelStarted
  | transportError
  | tx
  | rx
  /-- A kind without a meaning here. -/
  | other (name : String)
  deriving DecidableEq, Repr

namespace EventKind

/-- The kinds that have a meaning here. -/
def known : List EventKind :=
  [connected, disconnected, reconnecting, resolve, wait, pushRequest, pushReply, authFailed,
    authPending, authOk, compressError, dataChannelStarted, transportError, tx, rx]

/-- The engine's name of a kind. -/
def name : EventKind → String
  | connected => "CONNECTED"
  | disconnected => "DISCONNECTED"
  | reconnecting => "RECONNECTING"
  | resolve => "RESOLVE"
  | wait => "WAIT"
  | pushRequest => "PUSH_REQUEST"
  | pushReply => "PUSH_REPLY"
  | authFailed => "AUTH_FAILED"
  | authPending => "AUTH_PENDING"
  | authOk => "AUTH_OK"
  | compressError => "COMPRESS_ERROR"
  | dataChannelStarted => "DATA_CHANNEL_STARTED"
  | transportError => "TRANSPORT_ERROR"
  | tx => "TX"
  | rx => "RX"
  | other n => n

/-- The kind with a name. -/
def ofName (n : String) : EventKind := (known.find? (·.name == n)).getD (other n)

/-- The kind has no meaning here. -/
def isOther : EventKind → Bool
  | other _ => true
  | _ => false

/-- How a kind is shown to developers. -/
def inspect : EventKind → String
  | connected => "Connected"
  | disconnected => "Disconnected"
  | reconnecting => "Reconnecting"
  | resolve => "Resolve"
  | wait => "Wait"
  | pushRequest => "PushRequest"
  | pushReply => "PushReply"
  | authFailed => "AuthFailed"
  | authPending => "AuthPending"
  | authOk => "AuthOk"
  | compressError => "CompressError"
  | dataChannelStarted => "DataChannelStarted"
  | transportError => "TransportError"
  | tx => "Tx"
  | rx => "Rx"
  | other n => "Other(" ++ Text.quoted n ++ ")"

end EventKind

/-- What an engine reports. -/
structure Event where
  /-- The kind of the event. -/
  kind : EventKind
  /-- A text that comes with it. -/
  info : String
  /-- The event is an error. -/
  error : Bool := false
  /-- The engine cannot go on. -/
  fatal : Bool := false
  deriving DecidableEq, Repr

end TunnelRelay.Engine
