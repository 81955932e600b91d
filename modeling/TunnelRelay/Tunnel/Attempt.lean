import TunnelRelay.Tunnel.Devices

/-!
# Attempts to connect

An attempt asks the engine and begins a connection on a worker. A connection of the loopback
engine goes on until it is established or has failed; one of the scripted engine goes on until it
waits.

## Main definitions

- `Tunnel.connect` — an attempt
- `Tunnel.run` — the connection on the worker
- `Tunnel.conclude` — a scripted connection is told how to end
- `Tunnel.openLatch` — waiting requests to protect a socket are granted
-/

namespace TunnelRelay.Tunnel

open Engine (Config Credentials Verdict)

/-- The engine's answers to the requests of an attempt. -/
def answers (e : Engine) : Session.Answers where
  evaluate c := (e.evaluate c).1
  authenticate k := (e.authenticate k).1

/-- A scripted connection got the answer to its first request. -/
def proceed (t : Tunnel) : Tunnel :=
  match t.engine with
  | .scripted e => let (v, e) := e.proceed; { t with engine := .scripted e }.finishIf v
  | .loopback _ _ => t

/-- Requests to protect a socket have to wait. -/
def mustWait (t : Tunnel) : Bool :=
  t.isLive && !t.session.released && t.application.protector = .latch false

/-- The socket of the first request of a scripted connection. -/
def firstSocket : Socket := .descriptor 7

/-- The remote of the first request of a scripted connection. -/
def firstRemote : String := "127.0.0.1"

/-- The first request of a scripted connection, if it makes one. -/
def askFirst (t : Tunnel) : Tunnel :=
  if t.engine.isAsking then
    if t.mustWait then t.note (.queried firstSocket)
    else (t.protect firstSocket firstRemote false).2.proceed
  else t

/-- The engine's connection, on the worker. -/
def run (t : Tunnel) : Tunnel :=
  let t := t.note .run
  match t.engine with
  | .scripted e => { t with engine := .scripted e.start }.askFirst
  | .loopback l _ =>
    match l.establish host bringUp { t with engine := .loopback l .opening } with
    | (.ok device, t) => { t with engine := t.engine.withLink (.up device) }.settle
    | (.error e, t) => { t with engine := t.engine.withLink .down }.finish (.error e)

/-- Asks the engine what the session wants to ask it. -/
def carryOut (t : Tunnel) : Session.Request → Tunnel
  | .evaluate c => let (r, e) := t.engine.evaluate c; { t.note (.evaluate c r) with engine := e }
  | .authenticate k => { t.note (.authenticate k) with engine := (t.engine.authenticate k).2 }
  | .run => t.run

/-- An attempt to connect. -/
def connect (t : Tunnel) (profile username password : String) : Except Fault Unit × Tunnel :=
  let a := t.session.connect (answers t.engine) profile username password
  (a.outcome, a.requests.foldl carryOut { t with session := a.session })

/-- A scripted connection is told how to end. -/
def conclude (t : Tunnel) (v : Verdict) : Tunnel :=
  match t.engine with
  | .scripted e => let (v, e) := e.conclude v; { t with engine := .scripted e }.finishIf v
  | .loopback _ _ => t

/-- The application with its latch open, if it has one. -/
def Application.withOpenLatch (a : Application) : Application :=
  match a.protector with
  | .latch _ => { a with protector := .latch true }
  | _ => a

/-- Opens the latch of the application. A request that waited held the session; if nobody else
does, the session is released before the engine learns the answer. -/
def openLatch (t : Tunnel) (othersHold : Bool) : Tunnel :=
  let t := { t with application := t.application.withOpenLatch }
  if t.engine.isAsking then
    let t := if othersHold then t else t.abandon
    (t.note (.protection firstRemote false true)).proceed
  else t

@[simp] theorem carryOut_evaluate (t : Tunnel) (c : Config) :
    t.carryOut (.evaluate c) =
      { t.note (.evaluate c (t.engine.evaluate c).1) with engine := (t.engine.evaluate c).2 } := rfl

@[simp] theorem carryOut_authenticate (t : Tunnel) (k : Credentials) :
    t.carryOut (.authenticate k) =
      { t.note (.authenticate k) with engine := (t.engine.authenticate k).2 } := rfl

@[simp] theorem carryOut_run (t : Tunnel) : t.carryOut .run = t.run := rfl

section Ends

variable {t : Tunnel} {s u : Session} {x : Fault × Session} {c : Config} {k : Credentials}
  {profile username password : String}

theorem connect_of_not_begun
    (h : (t.session.begin? profile).bind Session.engage = .error x) :
    (t.connect profile username password).2 = { t with session := x.2 } := by
  simp only [connect, Session.connect, h, List.foldl_nil]

theorem connect_of_not_evaluated
    (hs : (t.session.begin? profile).bind Session.engage = .ok s)
    (hc : t.session.engineConfig profile = c) (hk : ⟨username, password⟩ = k)
    (hu : s.evaluated k (t.engine.evaluate c).1 = .error x) :
    (t.connect profile username password).2 = { t.note (.evaluate c (t.engine.evaluate c).1) with
      session := x.2, engine := (t.engine.evaluate c).2 } := by
  subst hc hk
  have ha : t.session.connect (answers t.engine) profile username password =
      ⟨x.2, .error x.1, [.evaluate (t.session.engineConfig profile)]⟩ := by
    simp only [Session.connect, hs, answers, hu]
  simp only [connect, ha, List.foldl_cons, List.foldl_nil, carryOut_evaluate]
  rfl

theorem connect_of_declined {e : Engine.Failure}
    (hs : (t.session.begin? profile).bind Session.engage = .ok s)
    (hc : t.session.engineConfig profile = c) (hk : ⟨username, password⟩ = k)
    (hu : s.evaluated k (t.engine.evaluate c).1 = .ok u)
    (ha : (t.engine.authenticate k).1 = .error e) :
    (t.connect profile username password).2 =
      { (t.note (.evaluate c (t.engine.evaluate c).1)).note (.authenticate k) with
        session := u.abort (Session.credentialsFault e)
        engine := ((t.engine.evaluate c).2.authenticate k).2 } := by
  subst hc hk
  have ha : t.session.connect (answers t.engine) profile username password =
      ⟨u.abort (Session.credentialsFault e), .error (Session.credentialsFault e),
        [.evaluate (t.session.engineConfig profile), .authenticate ⟨username, password⟩]⟩ := by
    simp only [Session.connect, hs, answers, hu, ha, Session.authenticated, Session.giveUp]
  simp only [connect, ha, List.foldl_cons, List.foldl_nil, carryOut_evaluate,
    carryOut_authenticate]
  rfl

theorem connect_of_started
    (hs : (t.session.begin? profile).bind Session.engage = .ok s)
    (hc : t.session.engineConfig profile = c) (hk : ⟨username, password⟩ = k)
    (hu : s.evaluated k (t.engine.evaluate c).1 = .ok u)
    (ha : (t.engine.authenticate k).1 = .ok ()) :
    (t.connect profile username password).2 =
      ({ (t.note (.evaluate c (t.engine.evaluate c).1)).note (.authenticate k) with
        session := u.startWorker
        engine := ((t.engine.evaluate c).2.authenticate k).2 } : Tunnel).run := by
  subst hc hk
  have ha : t.session.connect (answers t.engine) profile username password =
      ⟨u.startWorker, .ok (), [.evaluate (t.session.engineConfig profile),
        .authenticate ⟨username, password⟩, .run]⟩ := by
    simp only [Session.connect, hs, answers, hu, ha, Session.authenticated]
  simp only [connect, ha, List.foldl_cons, List.foldl_nil, carryOut_evaluate,
    carryOut_authenticate, carryOut_run]
  rfl

theorem outcome_of_started
    (hs : (t.session.begin? profile).bind Session.engage = .ok s)
    (hc : t.session.engineConfig profile = c) (hk : ⟨username, password⟩ = k)
    (hu : s.evaluated k (t.engine.evaluate c).1 = .ok u)
    (ha : (t.engine.authenticate k).1 = .ok ()) :
    (t.connect profile username password).1 = .ok () := by
  subst hc hk
  simp only [connect, Session.connect, hs, answers, hu, ha, Session.authenticated]

end Ends

end TunnelRelay.Tunnel
