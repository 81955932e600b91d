import TunnelRelay.Engine.Basic
import TunnelRelay.Session.Connecting
import TunnelRelay.Session.Hearing
import TunnelRelay.Session.Stopping
import TunnelRelay.Tun.Bay

/-!
# Tunnels

A tunnel is a session with all that belongs to it: the engine that it drives, the devices that the
engine asked for, and the application that is told and asked. This module has the record, and what
engines call while they are connected.

## Main definitions

- `Tunnel` — the record
- `Tunnel.Application` — the part of the application
- `Tunnel.Act` — what passes between the session, the engine and the application
- `Tunnel.create` — a new tunnel
- `Tunnel.report`, `Tunnel.protect`, `Tunnel.host` — what engines call

## Design notes

Everything that passes is written down, so that a statement about who was called is a statement
about a list. A session whose last holder is gone still stands in the record, but nobody reaches
it: engines and devices know it only as long as somebody holds it.
-/

namespace TunnelRelay

open Engine (Config Credentials Event Failure ProfileInfo Verdict)

/-- What an application does inside a callback. -/
inductive Tunnel.Reaction where
  /-- It stops the current device. -/
  | stopDevice
  /-- It disconnects the session. -/
  | disconnect
  deriving DecidableEq, Repr

/-- How an application keeps sockets out of the tunnel. -/
inductive Tunnel.Protector where
  /-- It does not. -/
  | absent
  /-- Every request gets this answer. -/
  | answers (granted : Bool)
  /-- Requests wait until a latch is open; then they are granted. -/
  | latch (isOpen : Bool)
  deriving DecidableEq, Repr

/-- The part of the application in a tunnel. -/
structure Tunnel.Application where
  /-- It wants to be told about the settings. -/
  observes : Bool := true
  /-- What it does when it is told something. -/
  reaction : Tun.Notice → Option Tunnel.Reaction := fun _ => none
  /-- How it keeps sockets out of the tunnel. -/
  protector : Tunnel.Protector := .absent

/-- A socket that is to be kept out of the tunnel. -/
inductive Tunnel.Socket where
  /-- The transport of a loopback engine. -/
  | transport
  /-- The socket with this descriptor. -/
  | descriptor (n : Int)
  deriving DecidableEq, Repr

/-- What passes between a session, its engine and the application. -/
inductive Tunnel.Act where
  /-- The engine evaluated a profile. -/
  | evaluate (c : Config) (r : Except Failure ProfileInfo)
  /-- The engine got credentials. -/
  | authenticate (c : Credentials)
  /-- The engine began a connection on a worker. -/
  | run
  /-- The engine was asked to stop. -/
  | stop
  /-- The engine was asked to restart the transport, after a delay in seconds. -/
  | reconnect (delay : Nat)
  /-- The engine was asked to pause. -/
  | pause (reason : String)
  /-- The engine was asked to go on. -/
  | resume
  /-- The engine reported an event. -/
  | event (e : Event)
  /-- The engine logged a line. -/
  | line (text : String)
  /-- The engine asked for a socket to be protected, and got an answer. -/
  | protection (remote : String) (ipv6 granted : Bool)
  /-- The engine's connection ended. -/
  | returned (v : Verdict)
  /-- The owner of a device, or the application, was called while the device started. -/
  | called (c : Tun.Call)
  /-- The application was asked to protect a socket. -/
  | asked (s : Tunnel.Socket)
  /-- The application was asked to protect a socket, and lets the request wait for its latch. -/
  | queried (s : Tunnel.Socket)

/-- A session with its engine, its devices and its application. -/
structure Tunnel where
  /-- The session. -/
  session : Session
  /-- The engine. -/
  engine : Engine
  /-- The application. -/
  application : Tunnel.Application
  /-- The devices that the engine asked for. -/
  bay : Tun.Bay
  /-- The place of the device that a loopback engine brought up last. -/
  own : Option Nat := none
  /-- The packets that a loopback engine sends back. -/
  relay : Engine.Relay := {}
  /-- Nobody holds the session any more. -/
  gone : Bool := false
  /-- What passed, the latest first. -/
  acts : List Tunnel.Act := []

namespace Tunnel

/-- A new tunnel, unless its name is blank or its engine cannot be built. -/
def create (id : String) (prefs : Preferences) (engine : Engine) (app : Application) :
    Except Fault Tunnel :=
  if Text.isAllBlank id.toList then .error (.invalidParameters "tunnel id is empty")
  else match engine.buildFailure? with
    | some text => .error (.sessionCreation text)
    | none => .ok {
        session := { id, prefs }
        engine
        application := app
        bay := { id, blocking := prefs.blocking } }

/-- The tunnel's name. -/
def id (t : Tunnel) : String := t.session.id

/-- The name of the worker that runs the engine's connection. -/
def workerName (t : Tunnel) : String := "ovpn-" ++ t.id

/-- Writes down what passed. -/
def note (t : Tunnel) (a : Act) : Tunnel := { t with acts := a :: t.acts }

/-- The tunnel with its session changed. -/
def mapSession (t : Tunnel) (f : Session → Session) : Tunnel := { t with session := f t.session }

/-- The session takes part: somebody holds it, and it is not being released. -/
def isLive (t : Tunnel) : Bool := !t.gone && !t.session.destroying

/-! ### What engines call -/

/-- An event is reported. -/
def report (t : Tunnel) (e : Event) : Tunnel :=
  let t := t.note (.event e)
  if t.gone then t else t.mapSession (·.hear e)

/-- The application is asked to protect a socket. Without somebody to ask the answer is no. -/
def ask (t : Tunnel) (s : Socket) : Bool × Tunnel :=
  if t.session.released then (false, t)
  else match t.application.protector with
    | .absent => (false, t)
    | .answers granted => (granted, t.note (.asked s))
    | .latch _ => (true, t.note (.queried s))

/-- The engine asks for a socket to be protected. -/
def protect (t : Tunnel) (s : Socket) (remote : String) (ipv6 : Bool) : Bool × Tunnel :=
  let (granted, t) := if t.isLive then t.ask s else (false, t)
  (granted, t.note (.protection remote ipv6 granted))

/-- The device that the engine brought up is stopped and given up. -/
def tearDown (t : Tunnel) : Tunnel :=
  match t.own with
  | some n => { t with bay := t.bay.discard n, own := none }
  | none => t

/-- The tunnel as the host of its loopback engine. -/
def host : Engine.Host Tunnel where
  event e t := t.report e
  log text t := t.note (.line text)
  protect remote ipv6 t := t.protect .transport remote ipv6
  tearDown := tearDown

/-- The engine's connection has ended, and so has its worker. -/
def finish (t : Tunnel) (v : Verdict) : Tunnel :=
  let t := t.note (.returned v)
  if t.gone then t else t.mapSession (·.exit v)

/-- The engine's connection has ended if there is a verdict. -/
def finishIf (t : Tunnel) (v : Option Verdict) : Tunnel := v.elim t t.finish

/-- The connection of a loopback engine obeys the commands that wait. -/
def settle (t : Tunnel) : Tunnel :=
  match t.engine with
  | .loopback l (.up device) =>
    match Engine.Loopback.serve host (l.remote.getD "") device l.queue t with
    | (none, t) => { t with engine := .loopback { l with queue := [] } (.up device) }
    | (some rest, t) => { t with engine := .loopback { l with queue := rest } .down }.finish (.ok ())
  | _ => t

/-- A new tunnel has a new session, somebody holds it, and nothing passed yet. -/
theorem create_eq_ok {id : String} {prefs : Preferences} {e : Engine} {a : Application}
    {t : Tunnel} (h : create id prefs e a = .ok t) :
    t.session = { id, prefs } ∧ t.engine = e ∧ t.gone = false ∧ t.acts = [] ∧ t.relay = {} := by
  unfold create at h
  split at h
  · cases h
  · split at h
    · cases h
    · cases h
      exact ⟨rfl, rfl, rfl, rfl, rfl⟩

@[simp] theorem session_note (t : Tunnel) (a : Act) : (t.note a).session = t.session := rfl

@[simp] theorem acts_note (t : Tunnel) (a : Act) : (t.note a).acts = a :: t.acts := rfl

@[simp] theorem gone_note (t : Tunnel) (a : Act) : (t.note a).gone = t.gone := rfl

@[simp] theorem session_mapSession (t : Tunnel) (f : Session → Session) :
    (t.mapSession f).session = f t.session := rfl

@[simp] theorem gone_mapSession (t : Tunnel) (f : Session → Session) :
    (t.mapSession f).gone = t.gone := rfl

@[simp] theorem acts_mapSession (t : Tunnel) (f : Session → Session) :
    (t.mapSession f).acts = t.acts := rfl

@[simp] theorem application_note (t : Tunnel) (a : Act) :
    (t.note a).application = t.application := rfl

@[simp] theorem application_mapSession (t : Tunnel) (f : Session → Session) :
    (t.mapSession f).application = t.application := rfl

theorem gone_of_isLive {t : Tunnel} (h : t.isLive) : t.gone = false := by
  simp only [isLive, Bool.and_eq_true, Bool.not_eq_true'] at h
  exact h.1

theorem destroying_of_isLive {t : Tunnel} (h : t.isLive) : t.session.destroying = false := by
  simp only [isLive, Bool.and_eq_true, Bool.not_eq_true'] at h
  exact h.2

theorem session_report (t : Tunnel) (e : Event) :
    (t.report e).session = if t.gone then t.session else t.session.hear e := by
  cases h : t.gone <;> simp [report, h]

/-- A session that takes no part hears nothing. -/
theorem session_report_of_not_live {t : Tunnel} (h : t.isLive = false) (e : Event) :
    (t.report e).session = t.session := by
  rw [session_report]
  split
  · rfl
  · next hg => exact Session.hear_of_destroying (by simpa [isLive, hg] using h) e

@[simp] theorem gone_report (t : Tunnel) (e : Event) : (t.report e).gone = t.gone := by
  cases h : t.gone <;> simp [report, h]

@[simp] theorem acts_report (t : Tunnel) (e : Event) : (t.report e).acts = .event e :: t.acts := by
  cases h : t.gone <;> simp [report, h]

@[simp] theorem session_ask (t : Tunnel) (x : Socket) : (t.ask x).2.session = t.session := by
  unfold ask
  split
  · rfl
  · split <;> rfl

@[simp] theorem gone_ask (t : Tunnel) (x : Socket) : (t.ask x).2.gone = t.gone := by
  unfold ask
  split
  · rfl
  · split <;> rfl

theorem ask_of_released {t : Tunnel} (h : t.session.released) (x : Socket) :
    t.ask x = (false, t) := by simp [ask, h]

theorem protect_of_live {t : Tunnel} (h : t.isLive) (x : Socket) (remote : String) (ipv6 : Bool) :
    (t.protect x remote ipv6).2 = (t.ask x).2.note (.protection remote ipv6 (t.ask x).1) := by
  simp [protect, h]

theorem protect_of_not_live {t : Tunnel} (h : t.isLive = false) (x : Socket) (remote : String)
    (ipv6 : Bool) : t.protect x remote ipv6 = (false, t.note (.protection remote ipv6 false)) := by
  simp [protect, h]

@[simp] theorem session_protect (t : Tunnel) (x : Socket) (remote : String) (ipv6 : Bool) :
    (t.protect x remote ipv6).2.session = t.session := by
  cases h : t.isLive
  · rw [protect_of_not_live h, session_note]
  · rw [protect_of_live h, session_note, session_ask]

@[simp] theorem gone_protect (t : Tunnel) (x : Socket) (remote : String) (ipv6 : Bool) :
    (t.protect x remote ipv6).2.gone = t.gone := by
  cases h : t.isLive
  · rw [protect_of_not_live h, gone_note]
  · rw [protect_of_live h, gone_note, gone_ask]

@[simp] theorem application_tearDown (t : Tunnel) : t.tearDown.application = t.application := by
  unfold tearDown
  split <;> rfl

@[simp] theorem engine_tearDown (t : Tunnel) : t.tearDown.engine = t.engine := by
  unfold tearDown
  split <;> rfl

theorem session_finish (t : Tunnel) (v : Verdict) :
    (t.finish v).session = if t.gone then t.session else t.session.exit v := by
  cases h : t.gone <;> simp [finish, h]

@[simp] theorem gone_finish (t : Tunnel) (v : Verdict) : (t.finish v).gone = t.gone := by
  cases h : t.gone <;> simp [finish, h]

@[simp] theorem application_finish (t : Tunnel) (v : Verdict) :
    (t.finish v).application = t.application := by
  cases h : t.gone <;> simp [finish, h]

@[simp] theorem engine_finish (t : Tunnel) (v : Verdict) : (t.finish v).engine = t.engine := by
  unfold finish
  dsimp only
  split <;> rfl

@[simp] theorem acts_finish (t : Tunnel) (v : Verdict) :
    (t.finish v).acts = .returned v :: t.acts := by
  cases h : t.gone <;> simp [finish, h]

theorem report_of_gone {t : Tunnel} (h : t.gone) (e : Event) : t.report e = t.note (.event e) := by
  simp [report, note, h]

end Tunnel

end TunnelRelay
