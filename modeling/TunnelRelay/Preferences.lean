/-!
# Preferences

What the application sets for its sessions.

## Main definitions

- `Preferences` — the settings of a session, with their defaults
- `Preferences.Rejection`, `Preferences.check` — which preferences are refused
-/

namespace TunnelRelay

/-- Directives that engines refuse or that need a screen. -/
def defaultUnsupported : List String := ["ping-timer-rem", "remote-random", "fast-io"]

/-- What the application sets for a session. -/
structure Preferences where
  /-- Seconds within which the engine has to connect. -/
  connectTimeout : Nat := 30
  /-- The compression mode handed to the engine. -/
  compression : String := "asym"
  /-- The TUN is kept over reconnects. -/
  keepTun : Bool := false
  /-- Profiles that need no credentials are allowed. -/
  autologin : Bool := false
  /-- Milliseconds for which a disconnect waits for the worker. -/
  grace : Nat := 100
  /-- The application end waits for the next packet instead of failing. -/
  blocking : Bool := true
  /-- The verbosity to set in every profile, if any. -/
  forcedVerb : Option Nat := some 5
  /-- Directives taken out of every profile. -/
  unsupported : List String := defaultUnsupported
  /-- How many engine events a session remembers. -/
  history : Nat := 64
  deriving DecidableEq, Repr, Inhabited

namespace Preferences

/-- Why preferences are refused. -/
inductive Rejection where
  /-- The engine would have no time to connect. -/
  | zeroTimeout
  /-- There is no such compression mode. -/
  | unknownCompression
  deriving DecidableEq, Repr

/-- The text of a rejection. -/
def Rejection.message : Rejection → String
  | zeroTimeout => "conn_timeout_secs cannot be zero"
  | unknownCompression => "compression_mode must be one of yes, no, asym"

/-- The compression modes. -/
def compressionModes : List String := ["yes", "no", "asym"]

/-- The preferences, unless they are refused. -/
def check (p : Preferences) : Except Rejection Preferences :=
  if p.connectTimeout = 0 then .error .zeroTimeout
  else if p.compression ∉ compressionModes then .error .unknownCompression
  else .ok p

end Preferences

end TunnelRelay
