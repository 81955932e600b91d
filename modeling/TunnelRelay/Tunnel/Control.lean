import TunnelRelay.Tunnel.Basic

/-!
# Control of a connection

The application stops a connection, asks for a restart of its transport, and pauses it. A
connection of the loopback engine obeys at once; one of the scripted engine does what its script
says.

## Main definitions

- `Tunnel.beginStop`, `Tunnel.disconnect` — a stop
- `Tunnel.restart`, `Tunnel.reconnect` — a restart of the transport
- `Tunnel.pause`, `Tunnel.resume` — commands that keep the connection
- `Tunnel.destroy`, `Tunnel.abandon` — the release, on request and with the last holder

## Design notes

A stop waits for the worker. A worker that waits itself, for an answer or for a callback to
return, is still there when the wait is over; so a stop from inside a callback of the engine does
not need a case of its own.
-/

namespace TunnelRelay.Tunnel

open Engine (Failure)

/-- A stop concerns the engine. -/
def mustStop (t : Tunnel) : Bool := t.session.isActive && !t.session.released

/-- The request of a stop, up to the engine's part in it. -/
def beginStop (t : Tunnel) : Tunnel :=
  let u := t.mapSession .beginStop
  if t.mustStop then u.note .stop else u

/-- The engine takes its part in a stop. -/
def stopEngine (t : Tunnel) : Tunnel :=
  let (v, e) := t.engine.stop
  { t with engine := e }.finishIf v

/-- Stops the connection, and waits for the worker. -/
def disconnect (t : Tunnel) : Tunnel :=
  let active := t.session.isActive
  let working := t.session.workerRunning
  let u := (if t.mustStop then t.beginStop.stopEngine else t.beginStop).settle
  u.mapSession (·.endStop active (working && u.engine.isBusy))

/-- A restart of the transport concerns the engine. -/
def mustRestart (t : Tunnel) : Bool := t.session.canReconnect && !t.session.released

/-- A restart of the transport, with the engine's answer. -/
def restart (t : Tunnel) (answer : Except Failure Unit) : Except Fault Bool × Tunnel :=
  let (r, s) := t.session.reconnect answer
  (r, { (if t.mustRestart then t.note (.reconnect 0) else t) with session := s })

/-- Asks for a restart of the transport. The answer tells whether there was something to
restart. -/
def reconnect (t : Tunnel) : Except Fault Bool × Tunnel :=
  if t.mustRestart then
    let (answer, e) := t.engine.reconnect
    let (r, t) := { t with engine := e }.restart answer
    (r, t.settle)
  else t.restart (.ok ())

/-- An order to the engine, unless it was given up. -/
def order (t : Tunnel) (a : Act) : Tunnel := if t.session.released then t else t.note a

/-- Gives the engine a command, unless it was given up. -/
def command (t : Tunnel) (a : Act) (c : Engine.Command) : Tunnel :=
  if t.session.released then t
  else { t.order a with engine := t.engine.command c }.settle

/-- Asks the engine to pause. -/
def pause (t : Tunnel) (reason : String) : Tunnel := t.command (.pause reason) (.pause reason)

/-- Asks the engine to go on. -/
def resume (t : Tunnel) : Tunnel := t.command .resume .resume

/-- Releases the session, once. -/
def destroy (t : Tunnel) : Tunnel :=
  if t.session.destroying then t
  else ((t.mapSession .beginRelease).disconnect).mapSession .endRelease

/-- The last holder of the session is gone, so the session is released. -/
def abandon (t : Tunnel) : Tunnel := { t with gone := true }.destroy

@[simp] theorem session_beginStop (t : Tunnel) : t.beginStop.session = t.session.beginStop := by
  cases h : t.mustStop <;> simp [beginStop, h]

@[simp] theorem gone_beginStop (t : Tunnel) : t.beginStop.gone = t.gone := by
  cases h : t.mustStop <;> simp [beginStop, h]

@[simp] theorem engine_beginStop (t : Tunnel) : t.beginStop.engine = t.engine := by
  cases h : t.mustStop <;> simp [beginStop, h, mapSession, note]

@[simp] theorem relay_beginStop (t : Tunnel) : t.beginStop.relay = t.relay := by
  cases h : t.mustStop <;> simp [beginStop, h, mapSession, note]

@[simp] theorem bay_beginStop (t : Tunnel) : t.beginStop.bay = t.bay := by
  cases h : t.mustStop <;> simp [beginStop, h, mapSession, note]

@[simp] theorem application_beginStop (t : Tunnel) :
    t.beginStop.application = t.application := by
  cases h : t.mustStop <;> simp [beginStop, h]

@[simp] theorem application_stopEngine (t : Tunnel) :
    t.stopEngine.application = t.application := by
  cases hv : t.engine.stop.1 <;> simp [stopEngine, finishIf, hv]

theorem acts_beginStop (t : Tunnel) :
    t.beginStop.acts = if t.mustStop then .stop :: t.acts else t.acts := by
  cases h : t.mustStop <;> simp [beginStop, h]

theorem stopEngine_of_loopback {t : Tunnel} {l : Engine.Loopback} {k : Engine.Link}
    (he : t.engine = .loopback l k) :
    t.stopEngine = { t with engine := .loopback (l.push .stop) k } := by
  simp only [stopEngine, he]
  rfl

@[simp] theorem session_restart (t : Tunnel) (r : Except Failure Unit) :
    (t.restart r).2.session = (t.session.reconnect r).2 := rfl

@[simp] theorem gone_restart (t : Tunnel) (r : Except Failure Unit) :
    (t.restart r).2.gone = t.gone := by
  cases h : t.mustRestart <;> simp [restart, h]

@[simp] theorem engine_restart (t : Tunnel) (r : Except Failure Unit) :
    (t.restart r).2.engine = t.engine := by
  cases h : t.mustRestart <;> simp [restart, h, note]

@[simp] theorem session_order (t : Tunnel) (a : Act) : (t.order a).session = t.session := by
  cases h : t.session.released <;> simp [order, h]

@[simp] theorem gone_order (t : Tunnel) (a : Act) : (t.order a).gone = t.gone := by
  cases h : t.session.released <;> simp [order, h]

@[simp] theorem engine_order (t : Tunnel) (a : Act) : (t.order a).engine = t.engine := by
  cases h : t.session.released <;> simp [order, h, note]

theorem destroy_of_destroying {t : Tunnel} (h : t.session.destroying) : t.destroy = t := by
  simp [destroy, h]

end TunnelRelay.Tunnel
