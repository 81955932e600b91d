import TunnelRelay.Engine.Event
import TunnelRelay.Preferences

/-!
# What engines are given and what they answer

An engine evaluates a profile, takes credentials and runs one connection at a time. It answers
each request, or fails with a text.

## Main definitions

- `Engine.Failure`, `Engine.Verdict` — why an engine failed, and how a connection ends
- `Engine.Config`, `Engine.Credentials` — what it is given
- `Engine.ProfileInfo` — what it learned from a profile
- `Engine.PkiReply` — the answer to requests for an external key, which are always refused
-/

namespace TunnelRelay.Engine

/-- Why an engine failed. -/
structure Failure where
  /-- The engine's words. -/
  message : String
  /-- The engine cannot go on. -/
  fatal : Bool := false
  deriving DecidableEq, Repr

/-- How a connection ends. -/
abbrev Verdict := Except Failure Unit

/-- A profile with the preferences that concern the engine. -/
structure Config where
  /-- The profile in normal form. -/
  content : String
  /-- Seconds within which to connect. -/
  connectTimeout : Nat
  /-- The compression mode. -/
  compression : String
  /-- The TUN is kept over reconnects. -/
  keepTun : Bool
  /-- Profiles that need no credentials are allowed. -/
  autologin : Bool
  deriving DecidableEq, Repr

/-- What an engine learned from a profile. -/
structure ProfileInfo where
  /-- The profile needs no credentials. -/
  autologin : Bool := false
  /-- The server's name. -/
  host : Option String := none
  /-- The server's port. -/
  port : Option Nat := none
  deriving DecidableEq, Repr

/-- A user's name and password. -/
structure Credentials where
  /-- The user's name. -/
  username : String := ""
  /-- The password, which is never shown. -/
  password : String := ""
  deriving DecidableEq, Repr

/-- How credentials are shown to developers: without the password. -/
def Credentials.inspect (c : Credentials) : String :=
  "Credentials \x7b username: " ++ Text.quoted c.username ++
    ", password: \"<redacted>\" \x7d"

/-- The answer to a request for an external key. -/
structure PkiReply where
  /-- The request was refused. -/
  error : Bool
  /-- Why it was refused. -/
  errorText : String
  deriving DecidableEq, Repr

/-- External keys are refused. -/
def PkiReply.refusal : PkiReply := ⟨true, "External PKI not supported"⟩

/-- An engine whose connect timeout expires pauses instead of giving up. -/
def pausesOnTimeout : Bool := true

end TunnelRelay.Engine

/-- What the engine is given for a profile in normal form. -/
def TunnelRelay.Preferences.engineConfig (p : TunnelRelay.Preferences) (content : String) :
    TunnelRelay.Engine.Config where
  content := content
  connectTimeout := p.connectTimeout
  compression := p.compression
  keepTun := p.keepTun
  autologin := p.autologin
