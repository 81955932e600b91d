import TunnelRelay.Session.Basic

/-!
# Hearing events

A session writes every event down and follows the ones that have a meaning. After a stop was
requested, an event that would bring the session back is not followed, unless it is fatal.

## Main definitions

- `Session.remember` — an event in the history
- `Session.follow` — what an event changes
- `Session.hear` — an event as it arrives
-/

namespace TunnelRelay.Session

open Engine (Event EventKind)

/-- The history with one more event. The oldest go when there is no room. -/
def remember (s : Session) (e : Event) : Session :=
  if s.prefs.history = 0 then s
  else { s with events := s.events.drop (s.events.length + 1 - s.prefs.history) ++ [e] }

/-- The event would bring a session back. -/
def revives : EventKind → Bool
  | .connected | .reconnecting | .authPending => true
  | _ => false

/-- The event is not followed, because a stop was requested. -/
def ignores (s : Session) (e : Event) : Bool := revives e.kind && !e.fatal && s.stopRequested

/-- What an event changes, apart from the history. -/
def follow (s : Session) (e : Event) : Session :=
  match e.kind with
  | .connected => { s with connected := true, connecting := false }.setPhase .connected
  | .disconnected =>
    let s := s.clearFlags
    if s.phase.isSettled then s else { s with phase := .idle }
  | .reconnecting => s.setPhase .reconnecting
  | .authFailed => s.fail ("Authentication failed: " ++ e.info)
  | .authPending =>
    if e.fatal then s.fail ("Authentication pending: " ++ e.info)
    else if s.connected then s else s.setPhase .authenticating
  | .transportError | .compressError =>
    let text := e.kind.name ++ ": " ++ e.info
    if e.fatal then s.fail text else s.setError text
  | _ => s

/-- An event as it arrives. A session that is being released hears nothing. -/
def hear (s : Session) (e : Event) : Session :=
  if s.destroying then s
  else
    let s := s.remember e
    if s.ignores e then s else s.follow e

theorem hear_of_destroying {s : Session} (h : s.destroying) (e : Event) : s.hear e = s := by
  simp [hear, h]

theorem hear_of_not_destroying {s : Session} (h : s.destroying = false) (e : Event) :
    s.hear e = if (s.remember e).ignores e then s.remember e else (s.remember e).follow e := by
  simp [hear, h]

/-- Only the history changes when an event is remembered. -/
theorem remember_eq (s : Session) (e : Event) :
    s.remember e = { s with events := (s.remember e).events } := by
  unfold remember
  split <;> rfl

@[simp] theorem phase_remember (s : Session) (e : Event) : (s.remember e).phase = s.phase := by
  rw [remember_eq]

end TunnelRelay.Session
