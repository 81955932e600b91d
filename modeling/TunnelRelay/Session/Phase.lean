/-!
# Phases of a session

## Main definitions

- `Session.Phase` — the phases
- `Session.Phase.isTransitioning`, `Session.Phase.canConnect` — what a phase allows
-/

namespace TunnelRelay.Session

/-- Where a session stands. -/
inductive Phase where
  /-- No attempt runs. -/
  | idle
  /-- The profile is with the engine. -/
  | configuring
  /-- The credentials are provided or checked. -/
  | authenticating
  /-- The worker runs the handshake. -/
  | connecting
  /-- The engine reported a connection. -/
  | connected
  /-- The transport is restarted. -/
  | reconnecting
  /-- A stop was requested. -/
  | disconnecting
  /-- The session was released, for good. -/
  | destroyed
  /-- An error ended the session; it needs a new attempt. -/
  | failed
  deriving DecidableEq, Repr

namespace Phase

/-- All phases. -/
def all : List Phase :=
  [idle, configuring, authenticating, connecting, connected, reconnecting, disconnecting,
    destroyed, failed]

/-- The name of a phase. -/
def name : Phase → String
  | idle => "Idle"
  | configuring => "Configuring"
  | authenticating => "Authenticating"
  | connecting => "Connecting"
  | connected => "Connected"
  | reconnecting => "Reconnecting"
  | disconnecting => "Disconnecting"
  | destroyed => "Destroyed"
  | failed => "Failed"

/-- The phase with a name. -/
def ofName? (n : String) : Option Phase := all.find? (·.name == n)

/-- The engine reported a connection. -/
def isConnected (p : Phase) : Bool := p = connected

/-- An attempt is in progress. -/
def isTransitioning : Phase → Bool
  | configuring | authenticating | connecting | reconnecting | disconnecting => true
  | _ => false

/-- An attempt may start from here. -/
def canConnect : Phase → Bool
  | idle | failed => true
  | _ => false

/-- Nothing follows. -/
def isTerminal (p : Phase) : Bool := p = destroyed

end Phase

end TunnelRelay.Session
