import TunnelRelay.Client.Basic
import TunnelRelay.Json.Preferences

/-!
# Handles

Callers that know bytes and numbers only hold a client by a handle, which may be empty. They get
result codes, numbers and texts.

## Main definitions

- `Client.Handle` — a handle
- `Client.Handle.make` — a new client
- `Client.Handle.connect`, `Client.Handle.disconnect`, … — what is done through a handle
-/

namespace TunnelRelay.Client

/-- A handle of a client, if it is not empty. -/
abbrev Handle := Option Client

namespace Handle

/-- A new client. The handle is empty if its preferences are not readable. -/
def make (callbacks : Callbacks) (config : Argument) : Handle :=
  match config with
  | none => some { callbacks }
  | some _ =>
    match config.text?.map Preferences.ofJson with
    | some (.ok prefs) => some { prefs, callbacks }
    | _ => none

/-- What is answered for a handle that is empty, or a name that is not a text. -/
def invalidHandle : String := "Invalid session handle"

/-- What is answered instead of a descriptor that there is not. -/
def noDescriptor : Int := -1

/-- Connects the tunnel with a name. -/
def connect (h : Handle) (id profile username password : Argument) : ResultCode × Handle :=
  match h, id.text?, profile.text?, username.text?, password.text? with
  | some c, some id, some profile, some username, some password =>
    let (r, c) := c.connect id profile username password
    (.ofOutcome r, some c)
  | _, _, _, _, _ => (.invalidParams, h)

/-- Releases the tunnel with a name and forgets it. -/
def disconnect (h : Handle) (id : Argument) : ResultCode × Handle :=
  match h, id.text? with
  | some c, some id => (.ok, some (c.disconnect id))
  | _, _ => (.invalidParams, h)

/-- The tunnel with a name is connected. -/
def isConnected (h : Handle) (id : Argument) : Bool :=
  match h, id.text? with
  | some c, some id => c.isConnected id
  | _, _ => false

/-- What went wrong last with the tunnel with a name. -/
def lastError (h : Handle) (id : Argument) : String :=
  match h, id.text? with
  | some c, some id => withoutNul (c.lastError id)
  | _, _ => invalidHandle

/-- There is a descriptor of the application's end of the tunnel with a name. -/
def hasDescriptor (h : Handle) (id : Argument) : Bool :=
  match h, id.text? with
  | some c, some id => (c.fleet.descriptor id).isOk
  | _, _ => false

/-- Asks the tunnel with a name to pause. A reason that is not a text counts as empty. -/
def pause (h : Handle) (id reason : Argument) : ResultCode × Handle :=
  match h, id.text? with
  | some c, some id =>
    let (r, c) := c.pause id (reason.text?.getD "")
    (.ofOutcome r, some c)
  | _, _ => (.invalidParams, h)

/-- Asks the tunnel with a name to go on. -/
def resume (h : Handle) (id : Argument) : ResultCode × Handle :=
  match h, id.text? with
  | some c, some id =>
    let (r, c) := c.resume id
    (.ofOutcome r, some c)
  | _, _ => (.invalidParams, h)

/-- The number of an answer: one for yes, zero for no, and a result code for a fault. -/
def answerNumber : Except Fault Bool → Int
  | .ok true => 1
  | .ok false => 0
  | .error f => f.code.toInt

/-- Asks for a restart of the transport of the tunnel with a name. -/
def reconnect (h : Handle) (id : Argument) : Int × Handle :=
  match h, id.text? with
  | some c, some id =>
    let (r, c) := c.reconnect id
    (answerNumber r, some c)
  | _, _ => (ResultCode.invalidParams.toInt, h)

/-- The largest number that is handed back. -/
def largestNumber : Nat := 2147483647

/-- Asks for a restart of the transport of every tunnel. The answer tells how many agreed. -/
def reconnectAll (h : Handle) : Int × Handle :=
  match h with
  | some c =>
    let (n, c) := c.reconnectAll
    (min n largestNumber, some c)
  | none => (ResultCode.invalidParams.toInt, h)

end Handle

end TunnelRelay.Client
