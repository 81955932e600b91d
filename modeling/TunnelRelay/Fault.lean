/-!
# Faults

What can go wrong for the application, and the result codes that are handed to callers that know
numbers only.

## Main definitions

- `Fault` — the causes
- `Fault.detail`, `Fault.message` — what is told about a fault, and the text of it
- `ResultCode`, `Fault.code` — the result codes
-/

namespace TunnelRelay

/-- What can go wrong for the application. -/
inductive Fault where
  /-- An argument is missing or blank. -/
  | invalidParameters (text : String)
  /-- The engine refused the profile. -/
  | configEvaluation (text : String)
  /-- The credentials were refused. -/
  | authFailed (text : String)
  /-- The packet pipe could not be made. -/
  | pipeCreation (text : String)
  /-- The packet pipe is closed. -/
  | pipeClosed
  /-- The transport failed. -/
  | connectionFailed (text : String)
  /-- An attempt is in flight, or the session is connected. -/
  | alreadyConnected
  /-- The TUN has not started. -/
  | notReady
  /-- The engine could not be made. -/
  | sessionCreation (text : String)
  /-- The tunnel's name is taken. -/
  | duplicateTunnel (id : String)
  /-- There is no tunnel of this name. -/
  | unknownTunnel (id : String)
  /-- Engine and state do not agree. -/
  | internal (text : String)
  /-- Anything else. -/
  | unknown (text : String)
  /-- The system reported an error. -/
  | io (text : String)
  deriving DecidableEq, Repr

/-- The result codes. -/
inductive ResultCode where
  | ok
  | invalidParams
  | configFailed
  | authFailed
  | connectionFailed
  | unknown
  | internal
  | notReady
  | alreadyConnected
  deriving DecidableEq, Repr

namespace ResultCode

/-- The number of a result code. Only success is not negative. -/
def toInt : ResultCode → Int
  | ok => 0
  | invalidParams => -1
  | configFailed => -2
  | authFailed => -3
  | connectionFailed => -4
  | unknown => -5
  | internal => -6
  | notReady => -7
  | alreadyConnected => -8

/-- The name of a result code. -/
def name : ResultCode → String
  | ok => "Ok"
  | invalidParams => "InvalidParams"
  | configFailed => "ConfigFailed"
  | authFailed => "AuthFailed"
  | connectionFailed => "ConnectionFailed"
  | unknown => "Unknown"
  | internal => "Internal"
  | notReady => "NotReady"
  | alreadyConnected => "AlreadyConnected"

/-- The result code stands for success. -/
def isOk (c : ResultCode) : Bool := c = ok

end ResultCode

namespace Fault

/-- What is told about a fault, apart from its kind. -/
def detail : Fault → String
  | invalidParameters t | configEvaluation t | authFailed t | pipeCreation t | connectionFailed t
  | sessionCreation t | duplicateTunnel t | unknownTunnel t | internal t | unknown t | io t => t
  | pipeClosed | alreadyConnected | notReady => ""

/-- The text of a fault. -/
def message : Fault → String
  | invalidParameters t => "Invalid parameters: " ++ t
  | configEvaluation t => "Config evaluation failed: " ++ t
  | authFailed t => "Authentication failed: " ++ t
  | pipeCreation t => "Failed to create packet channel: " ++ t
  | pipeClosed => "Packet channel closed"
  | connectionFailed t => "Connection failed: " ++ t
  | alreadyConnected => "Session is already connecting or connected"
  | notReady => "Virtual TUN not ready"
  | sessionCreation t => "Failed to create session: " ++ t
  | duplicateTunnel id => "Tunnel already exists: " ++ id
  | unknownTunnel id => "Unknown tunnel: " ++ id
  | internal t => "Internal error: " ++ t
  | unknown t => "Unknown error: " ++ t
  | io t => "I/O error: " ++ t

/-- Every fault has a text, whatever is told about it. -/
theorem message_ne_empty (f : Fault) : f.message ≠ "" := by
  cases f with
  | pipeClosed | alreadyConnected | notReady => decide
  | _ => exact fun h => absurd (String.append_eq_empty_iff.1 h).1 (by decide)

/-- The result code of a fault. -/
def code : Fault → ResultCode
  | invalidParameters _ | duplicateTunnel _ | unknownTunnel _ => .invalidParams
  | configEvaluation _ => .configFailed
  | authFailed _ => .authFailed
  | connectionFailed _ | pipeClosed => .connectionFailed
  | alreadyConnected => .alreadyConnected
  | notReady => .notReady
  | pipeCreation _ | sessionCreation _ | internal _ | io _ => .internal
  | unknown _ => .unknown

/-- A failure that was wrapped in contexts, the innermost first, as an internal fault. The text
names the outermost context first. -/
def ofContexts (root : String) (contexts : List String) : Fault :=
  .internal (contexts.foldl (fun t c => c ++ ": " ++ t) root)

end Fault

/-- The result code of an outcome. -/
def ResultCode.ofOutcome {α : Type} : Except Fault α → ResultCode
  | .ok _ => .ok
  | .error f => f.code

end TunnelRelay
