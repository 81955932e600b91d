import Mathlib.Logic.Relation
import TunnelRelay.Tunnel.Attempt

/-!
# Tunnels in the course of time

A tunnel is driven from several sides. The application calls its session, one call at a time; the
engine reports events and asks for protection, its devices announce their settings, and the worker
returns, all of that whenever it likes. This module says what each of them does at a moment, and
what a run is.

## Main definitions

- `Moment` — a tunnel with the call that did not return yet, and the workers that run
- `Move`, `Moment.Step` — what can happen, and what it changes
- `Moment.Run`, `Moment.Reachable` — what happens one after the other

## Main statements

- `Moment.Run.keeps`, `Moment.Reachable.keeps` — from one step to all of a run

## Design notes

The steps are made of the operations of `Session` and `Tunnel`. What an engine answers is not
taken from the engine of the record: every answer is possible, and every event at every moment.
A run is held to a discipline `P` where a statement needs one.

A call is one step if nothing else can happen before it returns. An attempt has a step for each
answer of the engine, and a stop has one for its request and one for the end of the wait, which
may come before or after the return of the worker. A stop from inside a callback on the worker
does not wait, and may come during another call. Calls of several threads that overlap are the
subject of `Moment.Crowd` and of `Threads`.
-/

namespace TunnelRelay

open Engine (Config Credentials Event Failure ProfileInfo Verdict)
open Tunnel (Act Application Socket)

/-- A call of the application that did not return yet. -/
inductive Moment.Call where
  /-- There is none. -/
  | none
  /-- An attempt waits for the engine to evaluate the profile. -/
  | evaluating (c : Config) (k : Credentials)
  /-- An attempt waits for the engine to take the credentials. -/
  | authenticating (k : Credentials)
  /-- A stop waits for the worker. There may have been something to stop, a worker to wait for,
  and a release that the stop belongs to. -/
  | stopping (active working release : Bool)
  /-- A release has begun, and its stop has not. -/
  | releasing
  /-- The stop of a release is over. -/
  | clearing
  deriving DecidableEq

/-- A tunnel at a moment. -/
structure Moment where
  /-- The tunnel. -/
  tunnel : Tunnel
  /-- The call that did not return yet. -/
  call : Moment.Call := .none
  /-- How many of the engine's connections are under way, each on a worker. -/
  running : Nat := 0

/-- What happens to a tunnel. -/
inductive Move where
  /-- The engine reports an event. -/
  | event (e : Event)
  /-- The engine logs a line. -/
  | line (text : String)
  /-- The engine asks for a socket to be protected. -/
  | protection (x : Socket)
  /-- The engine gets the answer to a request that had to wait. -/
  | answered
  /-- A device announces something. -/
  | notice (x : Tun.Notice)
  /-- A device calls its owner. -/
  | owner (c : Tun.Call)
  /-- Something else happens to the engine, the devices or the application. -/
  | elsewhere
  /-- The engine's connection ends, and its worker with it. -/
  | returned (v : Verdict)
  /-- An attempt is not admitted. -/
  | refused (f : Fault)
  /-- An attempt passes the checks. -/
  | admitted
  /-- The engine answers to the profile. -/
  | evaluated (r : Except Failure ProfileInfo)
  /-- The engine does not take the credentials. -/
  | declined (e : Failure)
  /-- The engine takes the credentials, and a worker runs its connection. -/
  | started
  /-- The engine takes the credentials, and there is no thread for a worker. -/
  | unstarted (text : String)
  /-- A restart of the transport is asked for, and the engine has this answer if it is asked. -/
  | restart (answer : Except Failure Unit)
  /-- A pause is ordered. -/
  | pause (reason : String)
  /-- The end of a pause is ordered. -/
  | resume
  /-- The application asks the session to protect a socket. -/
  | ask (x : Socket)
  /-- A stop is requested. -/
  | stop
  /-- The wait of a stop is over. -/
  | stopped
  /-- A stop is requested from inside a callback on the worker. -/
  | stopInside
  /-- A release is requested. -/
  | release
  /-- The last holder of the session is gone. -/
  | abandon
  /-- The release requests its stop. -/
  | releaseStop
  /-- The release ends. -/
  | released

/-- What passes the session by. -/
def Move.isPassing : Move → Bool
  | line _ | protection _ | answered | owner _ | elsewhere | pause _ | resume | ask _ => true
  | _ => false

/-- What the session may note without a change of its worker or of the call in progress. -/
def Move.isBrief : Move → Bool
  | event _ | notice _ | refused _ | restart _ => true
  | x => x.isPassing

/-- A stage of an attempt. -/
def Move.isAttempt : Move → Bool
  | admitted | evaluated _ | declined _ | started | unstarted _ => true
  | _ => false

/-- What begins a stop or ends it. -/
def Move.isStop : Move → Bool
  | stop | stopped | stopInside | releaseStop => true
  | _ => false

/-- What begins a release or ends it. -/
def Move.isRelease : Move → Bool
  | release | abandon | released => true
  | _ => false

/-- A stop from inside a callback on the worker: it does not wait. -/
def Tunnel.stopInside (t : Tunnel) : Tunnel :=
  t.beginStop.mapSession (·.endStop t.session.isActive t.session.workerRunning)

@[simp] theorem Tunnel.session_stopInside (t : Tunnel) : t.stopInside.session =
    t.session.beginStop.endStop t.session.isActive t.session.workerRunning := by
  simp [stopInside]

@[simp] theorem Tunnel.gone_stopInside (t : Tunnel) : t.stopInside.gone = t.gone := by
  simp [stopInside]

namespace Moment

/-- The session. -/
def session (m : Moment) : Session := m.tunnel.session

/-- The moment with the tunnel changed. -/
def map (m : Moment) (f : Tunnel → Tunnel) : Moment := { m with tunnel := f m.tunnel }

/-- The moment with another session. -/
def put (m : Moment) (s : Session) : Moment := m.map fun t => { t with session := s }

/-- The application can call the session: somebody holds it, and no call is in progress. -/
def Free (m : Moment) : Prop := m.call = .none ∧ m.tunnel.gone = false

/-- An attempt goes on with the next call, or ends. -/
def goOn (m : Moment) (x : Except (Fault × Session) Session) (next : Call) : Moment :=
  match x with
  | .error (_, s) => { m.put s with call := .none }
  | .ok s => { m.put s with call := next }

/-- A stop is requested. It may belong to a release. -/
def beginStop (m : Moment) (release : Bool) : Moment :=
  { m.map .beginStop with
    call := .stopping m.session.isActive m.session.workerRunning release }

/-- The wait of a stop is over. A worker that still runs is known again. -/
def endStop (m : Moment) (active working release : Bool) : Moment :=
  { m.map (·.mapSession (·.endStop active (working && 0 < m.running))) with
    call := if release then .clearing else .none }

/-- A release begins, unless there was one. -/
def beginRelease (m : Moment) : Moment :=
  if m.session.destroying then m
  else { m.map (·.mapSession .beginRelease) with call := .releasing }

/-- What can happen at a moment. -/
inductive Step (m : Moment) : Move → Moment → Prop
  | event (e : Event) : Step m (.event e) (m.map (·.report e))
  | line (text : String) : Step m (.line text) (m.map (·.note (.line text)))
  | protection (x : Socket) (remote : String) (ipv6 : Bool) :
      Step m (.protection x) (m.map fun t => (t.protect x remote ipv6).2)
  | answered (remote : String) (ipv6 granted : Bool) :
      Step m .answered (m.map (·.note (.protection remote ipv6 granted)))
  | notice (x : Tun.Notice) : Step m (.notice x) (m.map fun t => (t.tell x).2)
  | owner (c : Tun.Call) (hc : ∀ x, c ≠ .notice x) :
      Step m (.owner c) (m.map (·.note (.called c)))
  | elsewhere (e : Engine) (a : Application) (b : Tun.Bay) (o : Option Nat) (r : Engine.Relay) :
      Step m .elsewhere (m.map fun t =>
        { t with engine := e, application := a, bay := b, own := o, relay := r })
  | returned (v : Verdict) (hr : 0 < m.running) :
      Step m (.returned v) { m.map (·.finish v) with running := m.running - 1 }
  | refused (hf : m.Free) {profile : String} {f : Fault} {s : Session}
      (h : m.session.begin? profile = .error (f, s)) : Step m (.refused f) (m.put s)
  | admitted (hf : m.Free) {profile : String} {s : Session} (k : Credentials)
      (h : m.session.begin? profile = .ok s) :
      Step m .admitted (m.goOn s.engage (.evaluating (m.session.engineConfig profile) k))
  | evaluated {c : Config} {k : Credentials} (r : Except Failure ProfileInfo)
      (hc : m.call = .evaluating c k) :
      Step m (.evaluated r) ((m.map (·.note (.evaluate c r))).goOn (m.session.evaluated k r)
        (.authenticating k))
  | declined {k : Credentials} (e : Failure) (hc : m.call = .authenticating k) :
      Step m (.declined e)
        ((m.map (·.note (.authenticate k))).goOn (m.session.authenticated (.error e)) .none)
  | started {k : Credentials} (hc : m.call = .authenticating k) :
      Step m .started
        { (m.map (·.note (.authenticate k) |>.note .run)).goOn (m.session.authenticated (.ok ()))
            .none with running := m.running + 1 }
  | unstarted {k : Credentials} (text : String) (hc : m.call = .authenticating k) :
      Step m (.unstarted text)
        { (m.map (·.note (.authenticate k))).put (m.session.refuseWorker text) with call := .none }
  | restart (hf : m.Free) (answer : Except Failure Unit) :
      Step m (.restart answer) (m.map fun t => (t.restart answer).2)
  | pause (hf : m.Free) (reason : String) :
      Step m (.pause reason) (m.map (·.order (.pause reason)))
  | resume (hf : m.Free) : Step m .resume (m.map (·.order .resume))
  | ask (hf : m.Free) (x : Socket) : Step m (.ask x) (m.map fun t => (t.ask x).2)
  | stop (hf : m.Free) : Step m .stop (m.beginStop false)
  | stopped {active working release : Bool} (hc : m.call = .stopping active working release) :
      Step m .stopped (m.endStop active working release)
  | stopInside (hr : 0 < m.running) (hg : m.tunnel.gone = false) :
      Step m .stopInside (m.map .stopInside)
  | release (hf : m.Free) : Step m .release m.beginRelease
  | abandon (hf : m.Free) :
      Step m .abandon (m.map fun t => { t with gone := true }).beginRelease
  | releaseStop (hc : m.call = .releasing) : Step m .releaseStop (m.beginStop true)
  | released (hc : m.call = .clearing) :
      Step m .released { m.map (·.mapSession .endRelease) with call := .none }

theorem session_beginStop (m : Moment) (release : Bool) :
    (m.beginStop release).session = m.session.beginStop := Tunnel.session_beginStop m.tunnel

theorem session_stopInside (m : Moment) : (m.map .stopInside).session =
    m.session.beginStop.endStop m.session.isActive m.session.workerRunning :=
  Tunnel.session_stopInside m.tunnel

theorem session_report {m : Moment} (hg : m.tunnel.gone = false) (e : Event) :
    (m.map (·.report e)).session = m.session.hear e := by
  show (m.tunnel.report e).session = _
  rw [Tunnel.session_report, hg]
  rfl

theorem session_finish {m : Moment} (hg : m.tunnel.gone = false) (v : Verdict) :
    (m.map (·.finish v)).session = m.session.exit v := by
  show (m.tunnel.finish v).session = _
  rw [Tunnel.session_finish, hg]
  rfl

section Keeps

variable {C : Session → Prop} {m : Moment}

/-! A session hears of what an engine and its devices do, unless nobody holds it. -/

theorem report_keeps (hm : C m.session) {e : Event} (he : C (m.session.hear e)) :
    C (m.map (·.report e)).session := by
  show C (m.tunnel.report e).session
  rw [Tunnel.session_report]
  split
  · exact hm
  · exact he

theorem tell_keeps (hm : C m.session) (hs : ∀ s, C (m.session.storeSettings s)) (x : Tun.Notice) :
    C (m.map fun t => (t.tell x).2).session := by
  show C (m.tunnel.tell x).2.session
  rw [Tunnel.session_tell]
  split
  · cases x with
    | complete s => exact hs s
    | _ => exact hm
  · exact hm

theorem finish_keeps (hm : C m.session) {v : Verdict} (hv : C (m.session.exit v)) :
    C (m.map (·.finish v)).session := by
  show C (m.tunnel.finish v).session
  rw [Tunnel.session_finish]
  split
  · exact hm
  · exact hv

end Keeps

/-- The two moments differ in nothing that the session or its caller knows. -/
structure Alike (m n : Moment) : Prop where
  session : n.session = m.session
  call : n.call = m.call
  running : n.running = m.running
  gone : n.tunnel.gone = m.tunnel.gone

theorem Step.alike {m n : Moment} {x : Move} (h : m.Step x n) (hx : x.isPassing) : m.Alike n := by
  cases h with
  | line | answered | owner | elsewhere => exact ⟨rfl, rfl, rfl, rfl⟩
  | protection x remote ipv6 =>
    exact ⟨Tunnel.session_protect .., rfl, rfl, Tunnel.gone_protect ..⟩
  | pause hf reason => exact ⟨Tunnel.session_order .., rfl, rfl, Tunnel.gone_order ..⟩
  | resume hf => exact ⟨Tunnel.session_order .., rfl, rfl, Tunnel.gone_order ..⟩
  | ask hf x => exact ⟨Tunnel.session_ask .., rfl, rfl, Tunnel.gone_ask ..⟩
  | _ => cases hx

/-- A run under the discipline `P`: what happens one after the other. -/
def Run (P : Moment → Move → Prop) : Moment → Moment → Prop :=
  Relation.ReflTransGen fun a b => ∃ x, P a x ∧ a.Step x b

/-- A discipline that allows everything. -/
def Anyhow (_ : Moment) (_ : Move) : Prop := True

/-- The moment is part of a run that begins with a new tunnel. -/
def Reachable (P : Moment → Move → Prop) (m : Moment) : Prop :=
  ∃ id prefs engine application t,
    Tunnel.create id prefs engine application = .ok t ∧ Run P { tunnel := t } m

/-- What every step keeps, a run keeps. -/
theorem Run.keeps {P : Moment → Move → Prop} {I : Moment → Prop}
    (step : ∀ {a b x}, P a x → a.Step x b → I a → I b) {m n : Moment} (h : Run P m n)
    (hm : I m) : I n := by
  induction h with
  | refl => exact hm
  | tail _ hs ih =>
    obtain ⟨x, hp, hx⟩ := hs
    exact step hp hx ih

theorem Run.step {P : Moment → Move → Prop} {m a n : Moment} {x : Move} (h : m.Step x a)
    (hp : P m x) (hr : Run P a n) : Run P m n := .head ⟨x, hp, h⟩ hr

theorem Reachable.run {P : Moment → Move → Prop} {m n : Moment} (h : m.Reachable P)
    (hr : Run P m n) : n.Reachable P := by
  obtain ⟨id, prefs, engine, application, t, ht, hm⟩ := h
  exact ⟨id, prefs, engine, application, t, ht, hm.trans hr⟩

/-- What a new tunnel has and every step keeps, every reachable moment has. -/
theorem Reachable.keeps {P : Moment → Move → Prop} {I : Moment → Prop}
    (new : ∀ {id prefs engine application t},
      Tunnel.create id prefs engine application = .ok t → I { tunnel := t })
    (step : ∀ {a b x}, P a x → a.Step x b → I a → I b) {m : Moment} (h : m.Reachable P) : I m := by
  obtain ⟨id, prefs, engine, application, t, ht, hr⟩ := h
  exact hr.keeps step (new ht)

/-! ### A run with a connection -/

/-- An attempt that the engine accepts ends with a worker. -/
theorem Run.attempt {P : Moment → Move → Prop}
    (hP : ∀ a, P a .admitted ∧ (∀ i, P a (.evaluated (.ok i))) ∧ P a .started) {m : Moment}
    (hf : m.Free) (profile : String) {s : Session} (hs : m.session.begin? profile = .ok s)
    (hr : s.released = false) : ∃ n, Run P m n ∧ n.Free ∧ n.running = m.running + 1 ∧
      n.session = (s.setPhase .authenticating).startWorker := by
  let k : Credentials := ⟨"user", "secret"⟩
  -- The engine takes the profile and the credentials, and there is a thread for the worker.
  let a : Moment := { m.put s with call := .evaluating (m.session.engineConfig profile) k }
  let b : Moment := { (a.map (·.note (.evaluate (m.session.engineConfig profile) (.ok {})))).put
    (s.setPhase .authenticating) with call := .authenticating k }
  have ha : m.Step .admitted a := by
    have := Step.admitted hf k hs
    rwa [Session.engage_of_held hr] at this
  have hb : a.Step (.evaluated (.ok {})) b := Step.evaluated (m := a) (.ok {}) rfl
  exact ⟨_, .step ha (hP m).1 (.step hb ((hP a).2.1 {}) (.step (.started rfl) (hP b).2.2 .refl)),
    ⟨rfl, hf.2⟩, rfl, rfl⟩

/-- A session after a connection was reported. -/
def connectedSession (e : Event) : Session where
  id := "office"
  prefs := {}
  phase := .connected
  connected := true
  events := [e]
  worker := .running

/-- A new tunnel. -/
def fresh : Moment where
  tunnel := {
    session := { id := "office", prefs := {} }
    engine := .ofScript {}
    application := {}
    bay := { id := "office", blocking := true } }

theorem reachable_fresh {P : Moment → Move → Prop} : Reachable P fresh :=
  ⟨"office", {}, .ofScript {}, {}, _, rfl, .refl⟩

/-- Runs lead to a connection. -/
theorem exists_connected {P : Moment → Move → Prop}
    (hP : ∀ a, P a .admitted ∧ (∀ i, P a (.evaluated (.ok i))) ∧ P a .started) {e : Event}
    (hk : e.kind = .connected) (hf : e.fatal = false)
    (he : ∀ a, a.call = .none → P a (.event e)) :
    ∃ m, Reachable P m ∧ m.Free ∧ m.running = 1 ∧ m.session = connectedSession e := by
  obtain ⟨a, ha, hfree, hrun, hs⟩ := Run.attempt hP (m := fresh) ⟨rfl, rfl⟩ "client" rfl rfl
  have hsession : (a.map (·.report e)).session = connectedSession e := by
    rw [session_report hfree.2, hs]
    obtain ⟨_, info, error, _⟩ := e
    cases hk
    cases hf
    rfl
  exact ⟨a.map (·.report e), (reachable_fresh.run ha).run (.step (.event e) (he a hfree.1) .refl),
    ⟨hfree.1, (Tunnel.gone_report a.tunnel e).trans hfree.2⟩, hrun, hsession⟩

theorem exists_connected_anyhow : ∃ m, Reachable Anyhow m ∧ m.Free ∧ m.running = 1 ∧
    m.session = connectedSession ⟨.connected, "", false, false⟩ :=
  exists_connected (fun _ => ⟨trivial, fun _ => trivial, trivial⟩) rfl rfl fun _ _ => trivial

theorem isLive_of_connectedSession {m : Moment} (hf : m.Free) {e : Event}
    (hs : m.session = connectedSession e) : m.tunnel.isLive := by
  have hd : m.tunnel.session.destroying = false := congrArg Session.destroying hs
  simp [Tunnel.isLive, hf.2, hd]

/-- Runs lead to a connection whose worker does not return when it is stopped. -/
theorem exists_wedged {P : Moment → Move → Prop}
    (hP : ∀ a, P a .admitted ∧ (∀ i, P a (.evaluated (.ok i))) ∧ P a .started) {e : Event}
    (hk : e.kind = .connected) (hf : e.fatal = false)
    (he : ∀ a, a.call = .none → P a (.event e)) :
    ∃ k a m, Reachable P k ∧ k.session = connectedSession e ∧ k.Step .stop a ∧
      a.Step .stopped m ∧ m.Free ∧ m.running = 1 ∧
      m.session = (connectedSession e).beginStop.endStop true true := by
  obtain ⟨k, hk, hfree, hrun, hs⟩ := exists_connected hP hk hf he
  refine ⟨k, k.beginStop false, (k.beginStop false).endStop _ _ false, hk, hs, .stop hfree,
    .stopped rfl, ⟨rfl, (Tunnel.gone_beginStop k.tunnel).trans hfree.2⟩, hrun, ?_⟩
  show (k.beginStop false).session.endStop k.session.isActive
    (k.session.workerRunning && decide (0 < k.running)) = _
  rw [session_beginStop, hrun, hs]
  rfl

end Moment

end TunnelRelay
