import TunnelRelay.Engine.Loopback
import TunnelRelay.Engine.Scripted

/-!
# Engines

A tunnel runs on one of two engines, which answer the same requests.

## Main definitions

- `Engine` — the engine of a tunnel
- `Engine.isBusy` — its connection is under way
- `Engine.evaluate`, `Engine.authenticate` — the requests before a connection
-/

namespace TunnelRelay

/-- Where the connection of a loopback engine stands. -/
inductive Engine.Link where
  /-- There is none. -/
  | down
  /-- It is being established. -/
  | opening
  /-- It is established, with the TUN of this name. -/
  | up (device : String)
  deriving DecidableEq, Repr

/-- The engine of a tunnel. -/
inductive Engine where
  /-- The loopback engine and its connection. -/
  | loopback (engine : Engine.Loopback) (link : Engine.Link)
  /-- The scripted engine. -/
  | scripted (engine : Engine.Scripted)

namespace Engine

/-- A loopback engine as it is built. -/
def ofOptions (o : LoopbackOptions) : Engine := .loopback { options := o } .down

/-- A scripted engine as it is built. -/
def ofScript (s : Script) : Engine := .scripted { script := s }

/-- The engine cannot be built, for this reason. -/
def buildFailure? : Engine → Option String
  | loopback _ _ => none
  | scripted e => e.script.build

/-- A connection is under way. -/
def isBusy : Engine → Bool
  | loopback _ k => k ≠ .down
  | scripted e => e.isBusy

/-- A connection waits for the answer to its first request. -/
def isAsking : Engine → Bool
  | loopback _ _ => false
  | scripted e => e.isAsking

/-- The answer to a profile. -/
def evaluate (c : Config) : Engine → Except Failure ProfileInfo × Engine
  | loopback l k => let (r, l) := l.evaluate c; (r, loopback l k)
  | scripted e => (e.evaluate c, scripted e)

/-- The answer to credentials. -/
def authenticate (c : Credentials) : Engine → Except Failure Unit × Engine
  | loopback l k => let (r, l) := l.authenticate c; (r, loopback l k)
  | scripted e => (e.authenticate c, scripted e)

/-- A command to a connection, for engines that queue them. -/
def command (c : Command) : Engine → Engine
  | loopback l k => loopback (l.push c) k
  | e => e

/-- The answer to a restart of the transport. -/
def reconnect : Engine → Except Failure Unit × Engine
  | loopback l k => (.ok (), (loopback l k).command .reconnect)
  | scripted e => (e.reconnect, scripted e)

/-- The engine with its connection elsewhere. The scripted engine has a connection of its own. -/
def withLink (k : Link) : Engine → Engine
  | loopback l _ => loopback l k
  | e => e

/-- The engine is asked to stop. How its connection ends is known at once, or later. -/
def stop : Engine → Option Verdict × Engine
  | loopback l k => (none, (loopback l k).command .stop)
  | scripted e => let (v, e) := e.stop; (v, scripted e)

theorem evaluate_loopback (l : Loopback) (k : Link) (c : Config) :
    (loopback l k).evaluate c = ((l.evaluate c).1, loopback (l.evaluate c).2 k) := rfl

theorem authenticate_loopback (l : Loopback) (k : Link) (c : Credentials) :
    (loopback l k).authenticate c = ((l.authenticate c).1, loopback (l.authenticate c).2 k) := rfl

@[simp] theorem isBusy_evaluate (e : Engine) (c : Config) :
    (e.evaluate c).2.isBusy = e.isBusy := by
  cases e <;> rfl

@[simp] theorem isBusy_authenticate (e : Engine) (c : Credentials) :
    (e.authenticate c).2.isBusy = e.isBusy := by
  cases e <;> rfl

@[simp] theorem isBusy_command (e : Engine) (c : Command) : (e.command c).isBusy = e.isBusy := by
  cases e <;> rfl

@[simp] theorem isBusy_reconnect (e : Engine) : e.reconnect.2.isBusy = e.isBusy := by
  cases e <;> rfl

end Engine

end TunnelRelay
