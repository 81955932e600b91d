import TunnelRelay.Proofs.Relay.Wired

/-!
# Tunnels over loopback engines

An application makes a tunnel over a loopback engine, and then connects, disconnects, restarts the
transport, pauses, resumes and releases it in any order, also from inside a callback. Whenever the
session is connected, the tunnel is wired.

## Main definitions

- `Tunnel.Working` — a worker runs the connection
- `Tunnel.Opening`, `Tunnel.Up` — the connection is being established, or it is
- `Tunnel.Down` — there is no connection
- `Tunnel.Dialed` — what the application makes of a tunnel

## Main statements

- `Tunnel.Opening.bringUp` — the device of a connection
- `Tunnel.Idle.run` — a connection is established or has failed
- `Tunnel.Dialed.wired` — a connected session is wired
-/

namespace TunnelRelay.Tunnel

open Engine (Command Event Failure Link Loopback LoopbackOptions Verdict)
open Session (Request)
open Tun (Bay Call Device Halt Notice)

/-- A worker runs the connection of a session that was not released, and no packet was on its way
so far. -/
structure Working (t : Tunnel) : Prop where
  relay : t.relay = {}
  gone : t.gone = false
  worker : t.session.worker = .running
  released : t.session.released = false

/-- The connection is being established. -/
structure Opening (o : LoopbackOptions) (t : Tunnel) : Prop extends t.Working where
  engine : ∃ l, t.engine = .loopback l .opening ∧ l.options = o

/-- The connection is established, and nothing is on its way. -/
structure Up (o : LoopbackOptions) (t : Tunnel) : Prop extends t.Wired o [] [], t.Working

/-- There is no connection, and no packet was on its way so far. -/
structure Idle (o : LoopbackOptions) (t : Tunnel) : Prop where
  engine : ∃ l, t.engine = .loopback l .down ∧ l.options = o
  relay : t.relay = {}
  gone : t.gone = false

/-- There is no connection, and the session does not think so either. -/
structure Down (o : LoopbackOptions) (t : Tunnel) : Prop extends t.Idle o where
  connected : t.session.connected = false

variable {o : LoopbackOptions} {t u : Tunnel}

theorem Working.sameFreight (h : t.Working) (hu : t.SameFreight u) : u.Working where
  relay := hu.relay.trans h.relay
  gone := hu.gone.trans h.gone
  worker := hu.session.worker.trans h.worker
  released := hu.session.released.trans h.released

theorem Working.isActive (h : t.Working) : t.session.isActive := by
  simp [Session.isActive, Session.workerRunning, h.worker]

theorem Working.mustStop (h : t.Working) : t.mustStop := by
  simp [Tunnel.mustStop, h.isActive, h.released]

/-! ### While a connection is being established -/

theorem Opening.besides (h : t.Opening o) (hu : t.Besides u) : u.Opening o where
  toWorking := h.toWorking.sameFreight hu.toSameFreight
  engine := by
    rw [hu.engine]
    exact h.engine

/-- A stop of a connection is queued, and obeyed if the connection is up. -/
theorem disconnect_of_mustStop {l : Loopback} {k : Link} (he : t.engine = .loopback l k)
    (hm : t.mustStop)
    (hu : ({ t.beginStop with engine := .loopback (l.push .stop) k } : Tunnel).settle = u) :
    t.disconnect = u.mapSession
      (·.endStop t.session.isActive (t.session.workerRunning && u.engine.isBusy)) := by
  have hb : t.beginStop.engine = .loopback l k := by rw [engine_beginStop, he]
  simp only [Tunnel.disconnect, hm, if_true, stopEngine_of_loopback hb, hu]

/-- A stop from inside a callback is queued, and the worker is known again afterwards. -/
theorem Opening.disconnect (h : t.Opening o) :
    t.disconnect.Opening o ∧ t.disconnect.bay = t.bay := by
  obtain ⟨l, he, ho⟩ := h.engine
  let v : Tunnel := { t.beginStop with engine := .loopback (l.push .stop) .opening }
  -- The connection does not obey before it is up.
  have hv : v.settle = v := settle_of_not_up (k := .opening) rfl nofun
  have hd : t.disconnect = v.mapSession (·.endStop true true) := by
    rw [disconnect_of_mustStop he h.mustStop hv, h.isActive]
    simp only [Session.workerRunning, h.worker, v, Engine.isBusy]
    rfl
  rw [hd]
  refine ⟨⟨⟨?_, ?_, ?_, ?_⟩, _, rfl, ho⟩, ?_⟩
  · exact (relay_beginStop t).trans h.relay
  · exact (gone_beginStop t).trans h.gone
  · exact Session.worker_endStop _ _ _
  · have hr := Session.endStop_sameRelease t.beginStop.session true true
    have hb := Session.beginStop_sameRelease t.session
    rw [session_beginStop] at hr
    show (t.beginStop.session.endStop true true).released = false
    rw [session_beginStop]
    exact hr.released.trans (hb.released.trans h.released)
  · exact bay_beginStop t

/-- What is announced while the current device starts leaves the connection as it is, and halts
nothing but the device. -/
theorem Opening.announce (h : t.Opening o) {n : Nat} (hn : t.bay.current? = some n) (x : Notice) :
    (t.announce n x).2.Opening o ∧ (t.announce n x).2.bay = t.bay := by
  have ht := tell_besides t x
  have hu := h.besides ht
  obtain ha | ⟨-, ha⟩ := announce_cases t n x
  · rw [ha]
    exact ⟨hu, ht.bay⟩
  · rw [ha]
    cases (t.tell x).2.application.reaction x with
    | none => exact ⟨hu, ht.bay⟩
    | some a =>
      cases a with
      | stopDevice =>
        have hc : (t.tell x).2.bay.current? = some n := by rw [ht.bay, hn]
        have hs : (t.tell x).2.react n (some .stopDevice) = (some .stop, (t.tell x).2) := by
          simp only [react, stopCurrent, hc, if_true]
        rw [hs]
        exact ⟨hu, ht.bay⟩
      | disconnect => exact ⟨hu.disconnect.1, hu.disconnect.2.trans ht.bay⟩

/-- The device is starting in this bay, and its owner has not heard yet whether it runs. -/
structure Awaiting (o : LoopbackOptions) (b : Bay) (x : Option (Except String Unit) × Tunnel) :
    Prop where
  report : x.1 = none
  opening : x.2.Opening o
  bay : x.2.bay = b

theorem Awaiting.callOwn {b : Bay} {n : Nat} (hn : b.current? = some n)
    {x : Option (Except String Unit) × Tunnel} (hx : Awaiting o b x) {ds : List Directive}
    {c : Call} (hc : c ∈ Device.startCalls ds) : Awaiting o b (callOwn n c x).2 := by
  obtain ⟨r, t⟩ := x
  obtain ⟨rfl, ht, rfl⟩ := hx
  rcases List.mem_cons.1 hc with rfl | hc
  · exact ⟨rfl, ht, rfl⟩
  · obtain ⟨y, -, rfl⟩ := List.mem_map.1 hc
    have ha := ht.announce hn y
    exact ⟨rfl, ha.1, ha.2⟩

/-- The device of a connection runs, unless the application has stopped it meanwhile. -/
theorem Opening.bringUp (h : t.Opening o) (ds : List Directive) :
    (∃ text u, bringUp ds t = (.error text, u) ∧ u.Opening o) ∨
      ∃ name u, bringUp ds t = (.ok name, u) ∧ u.Opening o ∧
        ∃ n d, u.current? = some (n, d) ∧ d.Runs [] [] := by
  let n := t.bay.built
  let s : Option (Except String Unit) × Tunnel :=
    (none, { t with bay := t.bay.build, own := some n })
  have hs : Awaiting o t.bay.build s :=
    ⟨rfl, ⟨⟨h.relay, h.gone, h.worker, h.released⟩, h.engine⟩, rfl⟩
  have hn : t.bay.build.current? = some n := Bay.current?_build t.bay
  have ha : Awaiting o t.bay.build (Device.announced (callOwn n) ds t.bay.fresh s).2 :=
    Device.foldl_ring_keeps (I := Awaiting o t.bay.build) (fun c hc x hx => hx.callOwn hn hc) hs
  have hl : t.bay.fresh.launch (callOwn n) ds s = _ := Device.launch_of_created rfl rfl ds s
  obtain ⟨⟨d, r, u⟩, hd⟩ : ∃ x, Device.announced (callOwn n) ds t.bay.fresh s = x := ⟨_, rfl⟩
  rw [hd] at ha hl
  obtain ⟨hr, hu, hb⟩ := ha
  obtain rfl : r = none := hr
  have hopen (e : Device) : ({ u with bay := u.bay.modify n fun _ => e } : Tunnel).Opening o :=
    ⟨⟨hu.relay, hu.gone, hu.worker, hu.released⟩, hu.engine⟩
  cases hh : d.halted with
  | true =>
    have hring : t.bay.fresh.launch (callOwn n) ds s =
        (d, some (.error Fault.pipeClosed.message), u) := by rw [hl, if_pos hh]; rfl
    exact .inl ⟨_, _, bringUp_of_launch hring, hopen d⟩
  | false =>
    have hring : t.bay.fresh.launch (callOwn n) ds s = (d.running, some (.ok ()), u) := by
      rw [hl, if_neg (by simp [hh])]
      rfl
    have hc : u.current? = some (n, t.bay.fresh) := by
      rw [current?_eq_some_iff, show u.bay = t.bay.build from hb]
      exact ⟨hn, Bay.device?_build t.bay⟩
    exact .inr ⟨_, _, bringUp_of_launch hring, hopen _, n, d.running,
      current?_modify hc d.running, Device.runs_running hh⟩

theorem Opening.tearDown (h : t.Opening o) : t.tearDown.Opening o := by
  unfold Tunnel.tearDown
  split
  · exact ⟨⟨h.relay, h.gone, h.worker, h.released⟩, h.engine⟩
  · exact h

/-- A connection is established with a device that runs, or has failed. -/
theorem Opening.establish (h : t.Opening o) (l : Loopback) :
    (∃ e u, l.establish host Tunnel.bringUp t = (.error e, u) ∧ u.Opening o) ∨
      ∃ name u, l.establish host Tunnel.bringUp t = (.ok name, u) ∧ u.Opening o ∧
        ∃ n d, u.current? = some (n, d) ∧ d.Runs [] [] := by
  cases hr : l.remote with
  | none =>
    have he : l.establish host Tunnel.bringUp t =
        (.error ⟨"connect before eval_config", true⟩, t) := by
      simp only [Loopback.establish, hr]
    exact .inl ⟨_, t, he, h⟩
  | some remote =>
    have hv := reach_besides t remote
    cases hl : l.accepts with
    | false =>
      have he : l.establish host Tunnel.bringUp t = (.error ⟨"AUTH_FAILED", true⟩,
          host.event ⟨.authFailed, "credentials rejected", true, true⟩
            (Loopback.reach host remote t)) := by
        simp only [Loopback.establish, hr, hl, Bool.false_eq_true, if_false]
      exact .inl ⟨_, _, he, h.besides (hv.trans (report_besides _ _))⟩
    | true =>
      have hw := hv.trans (negotiate_besides _ l)
      obtain ⟨text, u, hb, hu⟩ | ⟨name, u, hb, hu, n, d, hd, hruns⟩ := (h.besides hw).bringUp
        (Directive.ofPushReply l.options.pushReply.toList)
      · have he : l.establish host Tunnel.bringUp t = (.error ⟨text, true⟩,
            host.event ⟨.transportError, text, true, true⟩ (host.tearDown u)) := by
          simp only [Loopback.establish, hr, hl, if_true, hb]
        exact .inl ⟨_, _, he, hu.tearDown.besides (report_besides _ _)⟩
      · have he : l.establish host Tunnel.bringUp t =
            (.ok name, host.event ⟨.connected, name, false, false⟩ u) := by
          simp only [Loopback.establish, hr, hl, if_true, hb]
        have hc := report_besides u ⟨.connected, name, false, false⟩
        exact .inr ⟨_, _, he, hu.besides hc, n, d, (current?_congr hc.bay).trans hd, hruns⟩

/-! ### When there is no connection, and when it is established -/

/-- A tunnel is down or up. -/
def Standing (o : LoopbackOptions) (t : Tunnel) : Prop := t.Down o ∨ t.Up o

/-- A connection that is up and is stopped goes down, and its worker returns. -/
theorem settle_of_stop {l : Loopback} {name : String} (he : t.engine = .loopback l (.up name))
    (hq : Command.stop ∈ l.queue) :
    ∃ (u : Tunnel) (rest : List Command), u.relay = t.relay ∧ u.gone = t.gone ∧
      t.settle = { u with engine := .loopback { l with queue := rest } .down }.finish (.ok ()) := by
  obtain ⟨as, rest, hq, has⟩ := List.eq_append_cons_of_mem hq
  have hb := foldl_obey_besides (l.remote.getD "") name as t
  let v := as.foldl (fun u c => Loopback.obey host (l.remote.getD "") name c u) t
  have hv : v.tearDown.relay = t.relay ∧ v.tearDown.gone = t.gone := by
    unfold Tunnel.tearDown
    split
    · exact ⟨hb.relay, hb.gone⟩
    · exact ⟨hb.relay, hb.gone⟩
  have hr := report_besides v.tearDown ⟨.disconnected, "", false, false⟩
  refine ⟨_, rest, hr.relay.trans hv.1, hr.gone.trans hv.2, ?_⟩
  simp only [settle, he, Loopback.serve, hq, Loopback.splitAtStop_append as rest has]
  rfl

theorem Idle.finish (h : t.Idle o) (v : Verdict) : (t.finish v).Down o := by
  have hf : t.finish v = (t.note (.returned v)).mapSession (·.exit v) := by
    simp [Tunnel.finish, h.gone]
  rw [hf]
  exact ⟨⟨h.engine, h.relay, h.gone⟩, rfl⟩

/-- The worker establishes the connection, or it fails. A stop that was queued meanwhile ends it
at once. -/
theorem Idle.run (h : t.Idle o) (hw : t.session.worker = .running)
    (hr : t.session.released = false) : t.run.Standing o := by
  obtain ⟨l, he, ho⟩ := h.engine
  let w : Tunnel := { t.note .run with engine := .loopback l .opening }
  have hopen : w.Opening o := ⟨⟨h.relay, h.gone, hw, hr⟩, l, rfl, ho⟩
  have hn : (t.note .run).engine = .loopback l .down := he
  obtain ⟨e, u, hb, hu⟩ | ⟨name, u, hb, hu, n, d, hd, hruns⟩ := hopen.establish l
  · obtain ⟨k, hk, hko⟩ := hu.engine
    have hrun : t.run = { u with engine := .loopback k .down }.finish (.error e) := by
      have hb : l.establish host Tunnel.bringUp { t.note .run with engine := .loopback l .opening } =
        (.error e, u) := hb
      simp only [Tunnel.run, hn, hb, hk, Engine.withLink]
    have hidle : ({ u with engine := .loopback k .down } : Tunnel).Idle o :=
      ⟨⟨k, rfl, hko⟩, hu.relay, hu.gone⟩
    rw [hrun]
    exact .inl (hidle.finish _)
  · obtain ⟨k, hk, hko⟩ := hu.engine
    have hrun : t.run = { u with engine := .loopback k (.up name) }.settle := by
      have hb : l.establish host Tunnel.bringUp { t.note .run with engine := .loopback l .opening } =
        (.ok name, u) := hb
      simp only [Tunnel.run, hn, hb, hk, Engine.withLink]
    rw [hrun]
    -- A stop from inside a callback was queued, and is obeyed as soon as the connection is up.
    by_cases hq : Command.stop ∈ k.queue
    · obtain ⟨v, rest, hvr, hvg, hs⟩ :=
        settle_of_stop (t := { u with engine := .loopback k (.up name) }) rfl hq
      have hidle : ({ v with engine := .loopback { k with queue := rest } .down } : Tunnel).Idle o :=
        ⟨⟨_, rfl, hko⟩, hvr.trans hu.relay, hvg.trans hu.gone⟩
      rw [hs]
      exact .inl (hidle.finish _)
    · obtain ⟨v, hv, hs⟩ :=
        settle_of_no_stop (t := { u with engine := .loopback k (.up name) }) rfl hq
      rw [hs]
      refine .inr ⟨⟨⟨_, name, rfl, hko, rfl⟩, n, d, ?_, hruns⟩, ?_⟩
      · exact (current?_congr hv.bay).trans hd
      · exact hu.toWorking.sameFreight ⟨hv.bay, hv.own, hv.relay, hv.gone, hv.session⟩

theorem Up.sameFreight (h : t.Up o) (hw : u.Wired o [] []) (hu : t.SameFreight u) : u.Up o :=
  ⟨hw, h.toWorking.sameFreight hu⟩

theorem Idle.endStop (h : t.Idle o) (hc : t.session.connected = false) (active left : Bool) :
    (t.mapSession (·.endStop active left)).Down o :=
  ⟨⟨h.engine, h.relay, h.gone⟩, (Session.connected_endStop _ _ _).trans hc⟩

/-- A stop of a connection that is up is obeyed. -/
theorem Up.disconnect (h : t.Up o) : t.disconnect.Down o := by
  obtain ⟨l, name, he, ho, -⟩ := h.engine
  obtain ⟨u, rest, hr, hg, hs⟩ := settle_of_stop
    (t := { t.beginStop with engine := .loopback (l.push .stop) (.up name) }) rfl
    (by simp [Loopback.push])
  have hidle : ({ u with engine := .loopback { l.push .stop with queue := rest } .down } :
      Tunnel).Idle o :=
    ⟨⟨_, rfl, ho⟩, hr.trans ((relay_beginStop t).trans h.relay),
      hg.trans ((gone_beginStop t).trans h.gone)⟩
  have hd := hidle.finish (.ok ())
  rw [disconnect_of_mustStop he h.mustStop hs]
  exact hd.toIdle.endStop hd.connected _ _

/-- Nothing obeys a stop when there is no connection. -/
theorem Down.disconnect (h : t.Down o) : t.disconnect.Down o := by
  obtain ⟨l, he, ho⟩ := h.engine
  have hc : t.beginStop.session.connected = false := by
    rw [session_beginStop]
    rfl
  have hrelay := (relay_beginStop t).trans h.relay
  have hgone := (gone_beginStop t).trans h.gone
  by_cases hm : t.mustStop
  · have hs : ({ t.beginStop with engine := .loopback (l.push .stop) .down } : Tunnel).settle =
        { t.beginStop with engine := .loopback (l.push .stop) .down } :=
      settle_of_not_up (k := .down) rfl nofun
    rw [disconnect_of_mustStop he hm hs]
    have hi : ({ t.beginStop with engine := .loopback (l.push .stop) .down } : Tunnel).Idle o :=
      ⟨⟨_, rfl, ho⟩, hrelay, hgone⟩
    exact hi.endStop hc _ _
  · have hb : t.beginStop.engine = .loopback l .down := by rw [engine_beginStop, he]
    have hd : t.disconnect = t.beginStop.mapSession (·.endStop t.session.isActive
        (t.session.workerRunning && t.beginStop.engine.isBusy)) := by
      simp only [Tunnel.disconnect, hm, if_false, settle_of_not_up hb nofun, Bool.false_eq_true]
    have hi : t.beginStop.Idle o := ⟨⟨l, hb, ho⟩, hrelay, hgone⟩
    rw [hd]
    exact hi.endStop hc _ _

/-! ### What the application calls -/

/-- A question to an engine without a connection leaves everything but the engine as it is. -/
theorem Idle.carryOut (h : t.Idle o) {r : Request} (hr : r ≠ .run) :
    (t.carryOut r).Idle o ∧ (t.carryOut r).session = t.session := by
  obtain ⟨l, he, ho⟩ := h.engine
  cases r with
  | run => exact absurd rfl hr
  | evaluate c =>
    have hl : (l.evaluate c).2.options = o := by
      unfold Loopback.evaluate
      dsimp only
      split
      · exact ho
      · split
        · exact ho
        · exact ho
    refine ⟨⟨⟨(l.evaluate c).2, ?_, hl⟩, h.relay, h.gone⟩, rfl⟩
    simp only [Tunnel.carryOut, he]
    rfl
  | authenticate k =>
    have hl : (l.authenticate k).2.options = o := by
      unfold Loopback.authenticate
      split
      · exact ho
      · exact ho
    refine ⟨⟨⟨(l.authenticate k).2, ?_, hl⟩, h.relay, h.gone⟩, rfl⟩
    simp only [Tunnel.carryOut, he]
    rfl

theorem Idle.foldl_carryOut (h : t.Idle o) (rs : List Request) (hrs : Request.run ∉ rs) :
    (rs.foldl Tunnel.carryOut t).Idle o ∧ (rs.foldl Tunnel.carryOut t).session = t.session := by
  induction rs generalizing t with
  | nil => exact ⟨h, rfl⟩
  | cons r rs ih =>
    have hr : r ≠ .run := fun hr => hrs (hr ▸ List.mem_cons_self)
    have hc := h.carryOut hr
    have hs := ih hc.1 fun hm => hrs (List.mem_cons_of_mem r hm)
    exact ⟨hs.1, hs.2.trans hc.2⟩

/-- An attempt without a connection ends without one, or in one. -/
theorem Down.connect (h : t.Down o) (profile username password : String) :
    (t.connect profile username password).2.Standing o := by
  have hx := Session.connect_requests t.session (answers t.engine) profile username password
  let x := t.session.connect (answers t.engine) profile username password
  have hidle : ({ t with session := x.session } : Tunnel).Idle o := ⟨h.engine, h.relay, h.gone⟩
  have ht : (t.connect profile username password).2 =
    x.requests.foldl Tunnel.carryOut { t with session := x.session } := rfl
  rw [ht]
  obtain ⟨hc, hrun | ⟨⟨c, k, hrun⟩, hw, hr⟩⟩ := hx
  · obtain ⟨hi, hs⟩ := hidle.foldl_carryOut x.requests hrun
    refine .inl ⟨hi, ?_⟩
    rw [hs]
    exact hc.trans h.connected
  · have hrs : x.requests = [.evaluate c, .authenticate k] ++ [.run] := hrun
    obtain ⟨hi, hs⟩ := hidle.foldl_carryOut [.evaluate c, .authenticate k] (by simp)
    rw [hrs, List.foldl_append]
    exact hi.run (by rw [hs]; exact hw) (by rw [hs]; exact hr)

/-- An attempt is one too many while the connection is up. -/
theorem Up.connect (h : t.Up o) (profile username password : String) :
    (t.connect profile username password).2.Up o := by
  cases hb : t.session.begin? profile with
  | ok u => exact absurd h.worker (Session.begin?_eq_ok hb).2.1
  | error x =>
    have hx := Session.connect_of_refused (f := x.1) (u := x.2) hb (answers t.engine)
      username password
    have ht : (t.connect profile username password).2 = { t with session := x.2 } := by
      simp only [Tunnel.connect, hx]
      rfl
    have hs := Besides.of_session (t := t) (Session.refused_sameStanding (f := x.1) (u := x.2) hb)
    rw [ht]
    exact h.sameFreight (h.toWired.besides hs) hs.toSameFreight

theorem Down.besides (h : t.Down o) (hu : t.Besides u) (hc : u.session.connected = false) :
    u.Down o := by
  obtain ⟨l, he, ho⟩ := h.engine
  exact ⟨⟨⟨l, hu.engine.trans he, ho⟩, hu.relay.trans h.relay, hu.gone.trans h.gone⟩, hc⟩

/-- A command waits for the next connection if there is none. -/
theorem Down.settle_push (h : t.Down o) (c : Command) (hu : t.Besides u)
    (hc : u.session.connected = false) :
    ({ u with engine := t.engine.command c } : Tunnel).settle.Down o := by
  obtain ⟨l, he, ho⟩ := h.engine
  have hl : t.engine.command c = .loopback (l.push c) .down := by rw [he]; rfl
  rw [settle_of_not_up (t := { u with engine := t.engine.command c }) hl nofun]
  exact ⟨⟨⟨_, hl, ho⟩, hu.relay.trans h.relay, hu.gone.trans h.gone⟩, hc⟩

theorem Down.reconnect (h : t.Down o) : t.reconnect.2.Down o := by
  obtain ⟨l, he, -⟩ := h.engine
  have hu := restart_besides t (.ok ())
  have hc : (t.restart (.ok ())).2.session.connected = false := by
    rw [session_restart, Session.connected_reconnect, h.connected]
  rw [reconnect_of_loopback he]
  split
  · exact h.settle_push .reconnect hu hc
  · exact h.besides hu hc

theorem Down.command (h : t.Down o) (a : Act) (c : Command) : (t.command a c).Down o := by
  cases hr : t.session.released with
  | true =>
    have ht : t.command a c = t := by simp [Tunnel.command, hr]
    rw [ht]
    exact h
  | false =>
    rw [command_of_held hr]
    exact h.settle_push c (note_besides t a) h.connected

theorem Standing.command (h : t.Standing o) (a : Act) {c : Command} (hc : c ≠ .stop) :
    (t.command a c).Standing o := by
  rcases h with h | h
  · exact .inl (h.command a c)
  · obtain ⟨hw, hu⟩ := h.toWired.command a hc
    exact .inr (h.sameFreight hw hu)

/-- A release stops the connection first. -/
theorem Standing.destroy (h : t.Standing o) : t.destroy.Standing o := by
  cases hd : t.session.destroying with
  | true =>
    rw [destroy_of_destroying hd]
    exact h
  | false =>
    have ht : t.destroy = (t.mapSession .beginRelease).disconnect.mapSession .endRelease := by
      simp [Tunnel.destroy, hd]
    have hb : (t.mapSession .beginRelease).disconnect.Down o := by
      rcases h with h | h
      · have hs : (t.mapSession .beginRelease).Down o :=
          ⟨⟨h.engine, h.relay, h.gone⟩, h.connected⟩
        exact hs.disconnect
      · have hs : (t.mapSession .beginRelease).Up o :=
          ⟨⟨h.engine, h.device⟩, h.relay, h.gone, h.worker, h.released⟩
        exact hs.disconnect
    rw [ht]
    refine .inl ⟨⟨hb.engine, hb.relay, hb.gone⟩, ?_⟩
    exact (Session.connected_setPhase _ _).trans hb.connected

/-- What an application makes of a tunnel over a loopback engine. -/
inductive Dialed (o : LoopbackOptions) : Tunnel → Prop where
  | create {id : String} {prefs : Preferences} {app : Application} {t : Tunnel}
      (h : Tunnel.create id prefs (.ofOptions o) app = .ok t) : Dialed o t
  | connect {t : Tunnel} (h : Dialed o t) (profile username password : String) :
      Dialed o (t.connect profile username password).2
  | disconnect {t : Tunnel} (h : Dialed o t) : Dialed o t.disconnect
  | reconnect {t : Tunnel} (h : Dialed o t) : Dialed o t.reconnect.2
  | pause {t : Tunnel} (h : Dialed o t) (reason : String) : Dialed o (t.pause reason)
  | resume {t : Tunnel} (h : Dialed o t) : Dialed o t.resume
  | destroy {t : Tunnel} (h : Dialed o t) : Dialed o t.destroy

theorem Dialed.standing (h : t.Dialed o) : t.Standing o := by
  induction h with
  | create h =>
    obtain ⟨hs, he, hg, -, hr⟩ := create_eq_ok h
    exact .inl ⟨⟨⟨_, he, rfl⟩, hr, hg⟩, by rw [hs]⟩
  | connect _ profile username password ih =>
    rcases ih with h | h
    · exact h.connect profile username password
    · exact .inr (h.connect profile username password)
  | disconnect _ ih =>
    rcases ih with h | h
    · exact .inl h.disconnect
    · exact .inl h.disconnect
  | reconnect _ ih =>
    rcases ih with h | h
    · exact .inl h.reconnect
    · obtain ⟨hw, hu⟩ := h.toWired.reconnect
      exact .inr (h.sameFreight hw hu)
  | pause _ reason ih => exact ih.command _ nofun
  | resume _ ih => exact ih.command _ nofun
  | destroy _ ih => exact ih.destroy

/-- A session that is connected is connected through a device that runs, and nothing is on its
way. -/
theorem Dialed.wired (h : t.Dialed o) (hc : t.session.connected) :
    t.Wired o [] [] ∧ t.relay = {} := by
  rcases h.standing with h | h
  · rw [h.connected] at hc
    cases hc
  · exact ⟨h.toWired, h.relay⟩

end TunnelRelay.Tunnel
