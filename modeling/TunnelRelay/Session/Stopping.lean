import TunnelRelay.Session.Basic

/-!
# Stopping and releasing

A stop is requested, the session waits for the worker, and then it is at rest. While it waits,
events arrive and the worker may return. A session is released once.

## Main definitions

- `Session.beginStop`, `Session.endStop` — before and after the wait
- `Session.beginRelease`, `Session.endRelease` — before and after the stop of a release

## Design notes

What happens during the wait is not part of these definitions: a stop is `beginStop`, then
whatever happens, then `endStop`. The session does not know its worker while it waits; a worker
that does not return in time is known again afterwards.
-/

namespace TunnelRelay.Session

/-- The request of a stop. -/
def beginStop (s : Session) : Session :=
  let active := s.isActive
  let s := { s with stopRequested := true }
  let s := if active then s.setPhase .disconnecting else s
  { s.clearFlags with worker := .absent }

/-- The end of a stop. `active` tells whether there was something to stop, and `left` whether the
worker still runs. -/
def endStop (s : Session) (active left : Bool) : Session :=
  let s := if left then { s with worker := .running } else s
  if active then s.setPhase .idle else s

/-- The session takes no more events and calls nobody back. -/
def beginRelease (s : Session) : Session := { s with destroying := true }

/-- The session has given up its engine and everybody it calls back. -/
def endRelease (s : Session) : Session := { s with released := true }.setPhase .destroyed

@[simp] theorem connected_endStop (s : Session) (active left : Bool) :
    (s.endStop active left).connected = s.connected := by
  cases active <;> cases left <;> simp [endStop]

theorem lastError_beginStop (s : Session) : s.beginStop.lastError = s.lastError := by
  cases h : s.isActive <;> simp [beginStop, h, clearFlags]

theorem lastError_endStop (s : Session) (active left : Bool) :
    (s.endStop active left).lastError = s.lastError := by
  cases active <;> cases left <;> simp [endStop]

theorem phase_endRelease (s : Session) : s.endRelease.phase = .destroyed := by
  unfold endRelease setPhase
  split
  · assumption
  · rfl

end TunnelRelay.Session
