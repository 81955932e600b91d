import TunnelRelay.Engine.Contract
import TunnelRelay.Fault
import TunnelRelay.Preferences
import TunnelRelay.Session.Phase
import TunnelRelay.Settings

/-!
# Sessions

A session follows one tunnel: it starts attempts on a worker, hears the engine's events, and
remembers what went wrong. This module has the session's record and the small changes that all
operations are made of.

## Main definitions

- `Session` — the record
- `Session.Worker` — the worker that the session knows
- `Session.setPhase`, `Session.fail`, `Session.exit` — small changes
- `Session.isActive` — there is something to stop

## Design notes

The record holds what the session itself knows. The engine, the devices and the observers are
apart; what they answer comes to the operations as data, and what they are asked goes out as
data. An operation is given as a whole here. The single accesses that it is made of, between
which other threads have their turns, are in `Proofs.Threads`.

`Session.reconnects` is a natural number. A counter of 64 bits agrees with it until the transport
was restarted 2 ^ 64 times.
-/

namespace TunnelRelay

open Engine (Event EventKind)

/-- The worker that a session knows. -/
inductive Session.Worker where
  /-- There is none. -/
  | absent
  /-- It runs the engine's connection. -/
  | running
  /-- It has ended. -/
  | finished
  deriving DecidableEq, Repr

/-- What a session knows about its tunnel. -/
@[ext]
structure Session where
  /-- The tunnel. -/
  id : String
  /-- What the application has set. -/
  prefs : Preferences
  /-- Where the session stands. -/
  phase : Session.Phase := .idle
  /-- The engine reported a connection. -/
  connected : Bool := false
  /-- An attempt is in flight. -/
  connecting : Bool := false
  /-- The session is being released, or was. -/
  destroying : Bool := false
  /-- A stop was requested, and no attempt began since. -/
  stopRequested : Bool := false
  /-- How often the transport was restarted on request. -/
  reconnects : Nat := 0
  /-- What went wrong last. -/
  lastError : Option String := none
  /-- The settings that were reported last. -/
  settings : Settings := {}
  /-- The latest events, the oldest first. -/
  events : List Event := []
  /-- The worker. -/
  worker : Session.Worker := .absent
  /-- The engine and everybody who is called back were given up. -/
  released : Bool := false
  deriving DecidableEq, Repr

namespace Session

/-- What is reported when nothing went wrong. -/
def noError : String := "No error"

/-- What went wrong last, as it is reported. -/
def lastErrorText (s : Session) : String := s.lastError.getD noError

/-- The worker runs. -/
def workerRunning (s : Session) : Bool := s.worker = .running

/-- There is something to stop. -/
def isActive (s : Session) : Bool := s.connected || s.connecting || s.workerRunning

/-- The session in another phase. No phase follows the last one. -/
def setPhase (s : Session) (p : Phase) : Session :=
  if s.phase = .destroyed then s else { s with phase := p }

/-- The session with another last error. -/
def setError (s : Session) (text : String) : Session := { s with lastError := some text }

/-- The session without an attempt or a connection. -/
def clearFlags (s : Session) : Session := { s with connected := false, connecting := false }

/-- The session after an error that ends it. -/
def fail (s : Session) (text : String) : Session := ((s.setError text).clearFlags).setPhase .failed

/-- The session with the settings that a device reported. They stay as they are while the
session is connected. -/
def storeSettings (s : Session) (x : Settings) : Session :=
  if s.phase = .connected then s else { s with settings := x }

/-- The phases in which a worker's return is no news. -/
def Phase.isSettled : Phase → Bool
  | failed | destroyed | disconnecting => true
  | _ => false

/-- The phase after a worker returned. -/
def Phase.afterReturn (p : Phase) : Engine.Verdict → Phase
  | .ok _ => if p.isSettled then p else idle
  | .error _ => if p.isSettled then p else failed

/-- A worker after it returned, if it is the one. -/
def Worker.ended : Worker → Worker
  | running => finished
  | w => w

/-- What went wrong last, after a worker returned. What ended the session before is not
forgotten. -/
def errorAfterReturn (s : Session) : Engine.Verdict → Option String
  | .ok _ => s.lastError
  | .error e => if s.phase = .failed ∨ s.phase = .destroyed then s.lastError else some e.message

/-- The session after its worker returned. -/
def exit (s : Session) (r : Engine.Verdict) : Session :=
  { s.clearFlags with
    worker := s.worker.ended
    phase := s.phase.afterReturn r
    lastError := s.errorAfterReturn r }

/-- Only the settings change when a device reports some. -/
theorem storeSettings_eq (s : Session) (x : Settings) :
    s.storeSettings x = { s with settings := (s.storeSettings x).settings } := by
  unfold storeSettings
  split <;> rfl

@[simp] theorem connected_setPhase (s : Session) (p : Phase) :
    (s.setPhase p).connected = s.connected := by unfold setPhase; split <;> rfl

@[simp] theorem connecting_setPhase (s : Session) (p : Phase) :
    (s.setPhase p).connecting = s.connecting := by unfold setPhase; split <;> rfl

@[simp] theorem stopRequested_setPhase (s : Session) (p : Phase) :
    (s.setPhase p).stopRequested = s.stopRequested := by unfold setPhase; split <;> rfl

@[simp] theorem reconnects_setPhase (s : Session) (p : Phase) :
    (s.setPhase p).reconnects = s.reconnects := by unfold setPhase; split <;> rfl

@[simp] theorem settings_setPhase (s : Session) (p : Phase) :
    (s.setPhase p).settings = s.settings := by unfold setPhase; split <;> rfl

@[simp] theorem lastError_setPhase (s : Session) (p : Phase) :
    (s.setPhase p).lastError = s.lastError := by unfold setPhase; split <;> rfl

@[simp] theorem events_setPhase (s : Session) (p : Phase) :
    (s.setPhase p).events = s.events := by unfold setPhase; split <;> rfl

@[simp] theorem worker_setPhase (s : Session) (p : Phase) :
    (s.setPhase p).worker = s.worker := by unfold setPhase; split <;> rfl

@[simp] theorem destroying_setPhase (s : Session) (p : Phase) :
    (s.setPhase p).destroying = s.destroying := by unfold setPhase; split <;> rfl

@[simp] theorem released_setPhase (s : Session) (p : Phase) :
    (s.setPhase p).released = s.released := by unfold setPhase; split <;> rfl

theorem phase_setPhase {s : Session} (h : s.phase ≠ .destroyed) (p : Phase) :
    (s.setPhase p).phase = p := by simp [setPhase, h]

theorem setPhase_of_destroyed {s : Session} (h : s.phase = .destroyed) (p : Phase) :
    s.setPhase p = s := by simp [setPhase, h]

end Session

end TunnelRelay
