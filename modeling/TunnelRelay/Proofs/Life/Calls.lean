import TunnelRelay.Proofs.Life.Passes

/-!
# What the operations do is a run

The application stops a connection, restarts its transport, pauses it and releases the session.
Devices start, and the application may act inside their callbacks. An attempt ends with a
connection on a worker. None of it does anything but what can happen to a tunnel, so every tunnel
that the operations make is the tunnel of a reachable moment, and what holds of reachable moments
holds of it.

## Main definitions

- `Tunnel.Made` — what the operations make

## Main statements

- `Tunnel.Passes.disconnect`, `Tunnel.destroy_run`, `Tunnel.abandon_run` — stops and releases
- `Tunnel.Passes.launch`, `Tunnel.Passes.bringUp` — devices that start
- `Tunnel.Passes.connect` — attempts
- `Tunnel.Made.reachable` — a tunnel that was made is the tunnel of a reachable moment
- `Tunnel.Made.sound`, `Tunnel.Made.agreed` — so its worker, its phase and its flags agree
-/

namespace TunnelRelay.Tunnel

open Engine (Config Credentials Event Failure Loopback ProfileInfo Verdict)
open Moment (Call Run)
open Tun (Device Notice)

variable {E : Event → Prop} {P : Moment → Move → Prop} {c : Call} {t u v : Tunnel}

/-! ### Stops and releases -/

theorem during_beginStop (t : Tunnel) (c : Call) (release : Bool) :
    (t.during c).beginStop release =
      t.beginStop.during (.stopping t.session.isActive t.session.workerRunning release) := by
  rw [during, during, engine_beginStop]
  rfl

theorem during_endStop (t : Tunnel) (active working release : Bool) :
    (t.during (.stopping active working release)).endStop active working release =
      (t.mapSession (·.endStop active (working && t.engine.isBusy))).during
        (if release then .clearing else .none) := by
  have hr : decide (0 < t.engine.connections) = t.engine.isBusy := by
    unfold Engine.connections
    cases t.engine.isBusy <;> rfl
  show (⟨t.mapSession (·.endStop active (working && decide (0 < t.engine.connections))), _,
    t.engine.connections⟩ : Moment) = _
  rw [hr]
  rfl

/-- A stop, from its request to the end of the wait. -/
theorem stop_run (hP : Moment.Lenient E P) (t : Tunnel) (c : Call) (release : Bool) :
    Run P ((t.during c).beginStop release)
      (t.disconnect.during (if release then .clearing else .none)) ∧
      t.disconnect.gone = t.gone := by
  let d : Call := .stopping t.session.isActive t.session.workerRunning release
  let w : Tunnel := if t.mustStop then t.beginStop.stopEngine else t.beginStop
  have hw : Passes P d t.beginStop w := by
    by_cases hm : t.mustStop
    · rw [show w = t.beginStop.stopEngine from if_pos hm]
      exact .stopEngine hP t.beginStop
    · rw [show w = t.beginStop from if_neg hm]
      exact .refl t.beginStop
  -- The connection obeys while the stop waits for its worker.
  have hs : Passes P d t.beginStop w.settle := hw.trans (.settle hP rfl w)
  refine ⟨?_, hs.gone.trans (gone_beginStop t)⟩
  rw [during_beginStop]
  refine hs.run.tail ⟨.stopped, hP.other _ _ rfl, ?_⟩
  have hstep := Moment.Step.stopped (m := w.settle.during d) rfl
  rwa [during_endStop] at hstep

/-- A stop is a run. -/
theorem Passes.disconnect (hP : Moment.Lenient E P) (hg : t.gone = false) :
    Passes P .none t t.disconnect := by
  have hs := stop_run hP t .none false
  exact ⟨.step (.stop ⟨rfl, hg⟩) (hP.other _ _ rfl) hs.1, hs.2⟩

/-- A release is a run, once it was requested. -/
theorem destroy_run (hP : Moment.Lenient E P) (t : Tunnel) :
    Run P (t.during .none).beginRelease (t.destroy.during .none) ∧ t.destroy.gone = t.gone := by
  by_cases hd : t.session.destroying
  · have hb : (t.during .none).beginRelease = t.during .none := if_pos hd
    rw [destroy_of_destroying hd, hb]
    exact ⟨.refl, rfl⟩
  · let w : Tunnel := t.mapSession .beginRelease
    have hb : (t.during .none).beginRelease = w.during .releasing := if_neg hd
    have he : t.destroy = w.disconnect.mapSession .endRelease := by simp [destroy, hd, w]
    have hs := stop_run hP w .releasing true
    rw [hb, he]
    refine ⟨.step (.releaseStop rfl) (hP.other _ _ rfl) ?_, hs.2⟩
    exact hs.1.tail ⟨.released, hP.other _ _ rfl, .released rfl⟩

theorem Passes.destroy (hP : Moment.Lenient E P) (hg : t.gone = false) :
    Passes P .none t t.destroy := by
  have hd := destroy_run hP t
  exact ⟨.step (.release ⟨rfl, hg⟩) (hP.other _ _ rfl) hd.1, hd.2⟩

/-- A release with the last holder is a run. Nobody holds the session afterwards. -/
theorem abandon_run (hP : Moment.Lenient E P) (hg : t.gone = false) :
    Run P (t.during .none) (t.abandon.during .none) ∧ t.abandon.gone := by
  have hd := destroy_run hP { t with gone := true }
  exact ⟨.step (.abandon ⟨rfl, hg⟩) (hP.other _ _ rfl) hd.1, hd.2⟩

/-! ### Commands -/

/-- A restart of the transport, without what the engine makes of it. -/
theorem Passes.restart (hP : Moment.Lenient E P) (hg : t.gone = false) (r : Except Failure Unit) :
    Passes P .none t (t.restart r).2 :=
  of_step (f := fun t => (t.restart r).2) hP (.restart ⟨rfl, hg⟩ r) rfl (engine_restart t r)
    (gone_restart t r)

theorem Passes.reconnect (hP : Moment.Lenient E P) (hg : t.gone = false) :
    Passes P .none t t.reconnect.2 := by
  by_cases hm : t.mustRestart
  · let w : Tunnel := { t with engine := t.engine.reconnect.2 }
    have hr : t.reconnect.2 = (w.restart t.engine.reconnect.1).2.settle := by
      simp only [Tunnel.reconnect, hm, if_true]
      rfl
    rw [hr]
    have hw : Passes P .none t w := elsewhere hP rfl rfl rfl (Engine.isBusy_reconnect _)
    exact (hw.trans (.restart (t := w) hP hg _)).trans (.settle hP rfl _)
  · have hr : t.reconnect.2 = (t.restart (.ok ())).2 := by
      simp only [Tunnel.reconnect, hm, if_false, Bool.false_eq_true]
    rw [hr]
    exact .restart hP hg _

/-- An order that was given, with what the engine makes of it. -/
theorem Passes.command (hP : Moment.Lenient E P) {a : Act} (x : Engine.Command)
    (ha : Passes P .none t (t.order a)) : Passes P .none t (t.command a x) := by
  by_cases hr : t.session.released
  · have hc : t.command a x = t := by simp only [Tunnel.command, hr, if_true]
    rw [hc]
    exact .refl t
  · let w : Tunnel := { t.order a with engine := t.engine.command x }
    have hb : w.engine.isBusy = (t.order a).engine.isBusy := by
      rw [engine_order]
      exact Engine.isBusy_command t.engine x
    have hc : t.command a x = w.settle := by
      simp only [Tunnel.command, hr, if_false, Bool.false_eq_true]
      rfl
    have hw : Passes P .none (t.order a) w := elsewhere hP rfl rfl rfl hb
    rw [hc]
    exact (ha.trans hw).trans (.settle hP rfl w)

theorem Passes.order (hP : Moment.Lenient E P) {a : Act} {x : Move} (hx : x.isEvent = false)
    (hs : (t.during .none).Step x ((t.during .none).map (·.order a))) :
    Passes P .none t (t.order a) :=
  of_step hP hs hx (engine_order t a) (gone_order t a)

theorem Passes.pause (hP : Moment.Lenient E P) (hg : t.gone = false) (reason : String) :
    Passes P .none t (t.pause reason) :=
  .command hP _ (.order hP rfl (.pause ⟨rfl, hg⟩ reason))

theorem Passes.resume (hP : Moment.Lenient E P) (hg : t.gone = false) :
    Passes P .none t t.resume := .command hP _ (.order hP rfl (.resume ⟨rfl, hg⟩))

/-! ### Devices -/

/-- What the application does at once is a run. -/
theorem Passes.react (hP : Moment.Lenient E P) (hg : t.gone = false) (n : Nat)
    (r : Option Reaction) : Passes P .none t (t.react n r).2 := by
  obtain h | ⟨m, -, h⟩ | h := react_cases t n r <;> rw [h]
  · exact .refl t
  · exact elsewhere hP rfl rfl rfl rfl
  · exact .disconnect hP hg

theorem Passes.announce (hP : Moment.Lenient E P) (n : Nat) (x : Notice) (t : Tunnel) :
    Passes P .none t (t.announce n x).2 := by
  have ht := tell (c := .none) hP t x
  obtain ha | ⟨hl, ha⟩ := announce_cases t n x
  · rw [ha]
    exact ht
  · rw [ha]
    exact ht.trans (.react hP (ht.gone.trans (gone_of_isLive hl)) n _)

/-- A device that is not the engine's own starts. -/
theorem Passes.launch (hP : Moment.Lenient E P) (t : Tunnel) (n : Nat) (d : Device)
    (ds : List Directive) : Passes P .none t (t.launch n d ds) := by
  have hcall (c : Tun.Call) (u : Tunnel) : Passes P .none u (call n c u).2 := by
    cases c with
    | notice x => exact announce hP n x u
    | prepare | connected | failed =>
      exact of_step hP (.owner _ fun _ => Tun.Call.noConfusion) rfl rfl rfl
  have hl := Device.launch_keeps (I := Passes P .none t)
    (fun c u hu => hu.trans (hcall c u)) ds d (.refl t)
  exact hl.trans (elsewhere hP rfl rfl rfl rfl)

/-! ### Connections -/

/-- A run while the connection of a loopback engine is being established. -/
structure Opens (P : Moment → Move → Prop) (t u : Tunnel) : Prop extends Passes P .none t u where
  engine : ∃ l, u.engine = .loopback l .opening

theorem Opens.of_engine (h : Opens P t u) (hv : Passes P .none u v) (he : v.engine = u.engine) :
    Opens P t v := by
  refine ⟨h.toPasses.trans hv, ?_⟩
  rw [he]
  exact h.engine

/-- A stop from inside a callback is queued. -/
theorem Opens.disconnect (hP : Moment.Lenient E P) (h : Opens P t u) (hg : u.gone = false) :
    Opens P t u.disconnect := by
  obtain ⟨l, hl⟩ := h.engine
  exact ⟨h.toPasses.trans (.disconnect hP hg), (disconnect_of_opening hl).1⟩

theorem Opens.announce (hP : Moment.Lenient E P) (h : Opens P t u) (n : Nat) (x : Notice) :
    Opens P t (u.announce n x).2 := by
  have ht : Opens P t (u.tell x).2 := h.of_engine (.tell hP u x) (tell_besides u x).engine
  obtain ha | ⟨hl, ha⟩ := announce_cases u n x
  · rw [ha]
    exact ht
  · have hg : (u.tell x).2.gone = false := (gone_tell u x).trans (gone_of_isLive hl)
    rw [ha]
    obtain h | ⟨m, -, h⟩ | h := react_cases (u.tell x).2 n _ <;> rw [h]
    · exact ht
    · exact ht.of_engine (.elsewhere hP rfl rfl rfl rfl) rfl
    -- The connection is not up yet, so the stop waits in the queue.
    · exact ht.disconnect hP hg

/-- The device of a connection starts. -/
theorem Opens.bringUp (hP : Moment.Lenient E P) (h : Opens P t u) (ds : List Directive) :
    Opens P t (Tunnel.bringUp ds u).2 := by
  let n := u.bay.built
  let w : Tunnel := { u with bay := u.bay.build, own := some n }
  have hw : Opens P t w := h.of_engine (.elsewhere hP rfl rfl rfl rfl) rfl
  have hcall (c : Tun.Call) (x : Option (Except String Unit) × Tunnel) (hx : Opens P t x.2) :
      Opens P t (callOwn n c x).2.2 := by
    cases c with
    | notice y => exact hx.announce hP n y
    | prepare | connected | failed => exact hx
  obtain ⟨d, r, v, hd⟩ : ∃ d r v, u.bay.fresh.launch (callOwn n) ds (none, w) = (d, r, v) :=
    ⟨_, _, _, rfl⟩
  have hl : Opens P t (u.bay.fresh.launch (callOwn n) ds (none, w)).2.2 :=
    Device.launch_keeps (I := fun x => Opens P t x.2) hcall ds u.bay.fresh (s := (none, w)) hw
  rw [hd] at hl
  rw [bringUp_of_launch hd]
  exact hl.of_engine (.elsewhere hP rfl rfl rfl rfl) rfl

/-- A connection is established, or it fails. -/
theorem Opens.establish (hP : Moment.Lenient E P) (h : Opens P t u) (l : Loopback) :
    Opens P t (l.establish host Tunnel.bringUp u).2 := by
  have hreport (e : Event) (he : e.Plain) {v : Tunnel} (hv : Opens P t v) :
      Opens P t (v.report e) :=
    hv.of_engine (.report hP rfl v (hP.plain he)) (report_besides v e).engine
  cases hr : l.remote with
  | none =>
    simp only [Loopback.establish, hr]
    exact h
  | some remote =>
    have hreach : Opens P t (Loopback.reach host remote u) := by
      have hw := hreport ⟨.wait, "", false, false⟩ (fun _ => rfl)
        (hreport ⟨.resolve, remote, false, false⟩ (fun _ => rfl) h)
      exact hw.of_engine (.openTransport hP _ remote) (openTransport_besides _ remote).engine
    cases ha : l.accepts with
    | false =>
      simp only [Loopback.establish, hr, ha, Bool.false_eq_true, if_false]
      exact hreport _ (fun h => by simp at h) hreach
    | true =>
      have hn : Opens P t (l.negotiate host (Loopback.reach host remote u)) :=
        hreport _ (fun _ => rfl) (hreport _ (fun _ => rfl) (hreport _ (fun _ => rfl) hreach))
      have hb := hn.bringUp hP (Directive.ofPushReply l.options.pushReply.toList)
      simp only [Loopback.establish, hr, ha, if_true]
      split
      · next hu =>
        rw [hu] at hb
        exact hreport _ (fun _ => rfl) hb
      · next v hu =>
        rw [hu] at hb
        have hd : Opens P t v.tearDown := hb.of_engine (.tearDown hP v) (engine_tearDown v)
        exact hreport _ (fun h => by simp at h) hd

/-- A scripted connection goes on once its first request was answered. -/
theorem Passes.proceed (hP : Moment.Lenient E P) (t : Tunnel) : Passes P c t t.proceed := by
  cases he : t.engine with
  | loopback l k =>
    have hp : t.proceed = t := by simp only [Tunnel.proceed, he]
    rw [hp]
    exact .refl t
  | scripted e =>
    have hp : t.proceed = { t with engine := .scripted e.proceed.2 }.finishIf e.proceed.1 := by
      simp only [Tunnel.proceed, he]
    rw [hp]
    refine finishIf (x := (e.proceed.1, .scripted e.proceed.2)) hP ?_ ?_
    · rw [he]
      exact e.proceed_answers.1
    · rw [he]
      exact e.proceed_answers.2

/-- The application asks the session to protect a socket. -/
theorem Passes.ask (hP : Moment.Lenient E P) (hg : t.gone = false) (x : Socket) :
    Passes P .none t (t.ask x).2 :=
  of_step (f := fun t => (t.ask x).2) hP (.ask ⟨rfl, hg⟩ x) rfl (ask_besides t x).engine
    (gone_ask t x)

theorem Passes.askFirst (hP : Moment.Lenient E P) (t : Tunnel) : Passes P .none t t.askFirst := by
  unfold Tunnel.askFirst
  split
  · split
    · next hw =>
      -- A request that has to wait reaches the application, and is answered later.
      simp only [mustWait, Bool.and_eq_true, Bool.not_eq_true', decide_eq_true_eq] at hw
      have ha : (t.ask firstSocket).2 = t.note (.queried firstSocket) := by
        simp only [Tunnel.ask, hw.1.2, hw.2, if_false, Bool.false_eq_true]
      have hq := ask hP (gone_of_isLive hw.1.1) firstSocket
      rwa [ha] at hq
    · exact (protect hP t _ _ _).trans (.proceed hP _)
  · exact .refl t

/-- The engine begins the connection that a worker is to run. -/
theorem begin_run (hP : Moment.Lenient E P) {e : Engine} (he : e.isBusy) (t : Tunnel) :
    Run P ⟨t, .none, 1⟩ ({ t with engine := e }.during .none) := by
  have hw : ({ t with engine := e } : Tunnel).during .none = ⟨{ t with engine := e }, .none, 1⟩ := by
    simp only [during, Engine.connections, he, if_true]
  have hs : (⟨t, .none, 1⟩ : Moment).Step .elsewhere ⟨{ t with engine := e }, .none, 1⟩ :=
    elsewhere_step rfl rfl rfl
  rw [hw]
  exact .step hs (hP.other _ _ rfl) .refl

/-- A connection that is established obeys the commands that were queued meanwhile. -/
theorem Opens.settle (hP : Moment.Lenient E P) (h : Opens P t u) (device : String) :
    Passes P .none t { u with engine := u.engine.withLink (.up device) }.settle := by
  obtain ⟨l, hl⟩ := h.engine
  let w : Tunnel := { u with engine := u.engine.withLink (.up device) }
  have hw : Passes P .none u w := by
    refine .elsewhere hP rfl rfl rfl ?_
    simp only [w, hl]
    rfl
  exact (h.toPasses.trans hw).trans (.settle hP rfl w)

/-- A connection that is not established ends. -/
theorem Opens.finish (hP : Moment.Lenient E P) (h : Opens P t u) (v : Verdict) :
    Passes P .none t ({ u with engine := u.engine.withLink .down }.finish v) := by
  obtain ⟨l, hl⟩ := h.engine
  refine h.toPasses.trans (.finish hP ?_ ?_ v)
  · rw [hl]
    rfl
  · rw [hl]
    rfl

/-- A connection on the worker is a run, from its beginning on. -/
theorem run_run (hP : Moment.Lenient E P) (t : Tunnel) :
    Run P ⟨t.note .run, .none, 1⟩ (t.run.during .none) ∧ t.run.gone = t.gone := by
  cases he : t.engine with
  | scripted e =>
    let w : Tunnel := { t.note .run with engine := .scripted e.start }
    have hb : (Engine.scripted e.start).isBusy := by
      unfold Engine.isBusy Engine.Scripted.isBusy Engine.Scripted.start
      cases e.script.protectsFirst <;> rfl
    have hr : t.run = w.askFirst := by
      simp only [Tunnel.run, show (t.note .run).engine = .scripted e from he]
      rfl
    have ha := Passes.askFirst hP w
    rw [hr]
    exact ⟨(begin_run hP hb _).trans ha.run, ha.gone⟩
  | loopback l k =>
    let w : Tunnel := { t.note .run with engine := .loopback l .opening }
    have ho : Opens P w (l.establish host Tunnel.bringUp w).2 :=
      Opens.establish hP ⟨.refl w, l, rfl⟩ l
    have hn : (t.note .run).engine = .loopback l k := he
    obtain ⟨r, u, hb⟩ : ∃ r u, l.establish host Tunnel.bringUp w = (r, u) := ⟨_, _, rfl⟩
    rw [hb] at ho
    have hb : l.establish host Tunnel.bringUp
      { t.note .run with engine := .loopback l .opening } = (r, u) := hb
    have hw := begin_run hP (e := .loopback l .opening) rfl (t.note .run)
    cases r with
    | ok device =>
      have hr : t.run = { u with engine := u.engine.withLink (.up device) }.settle := by
        simp only [Tunnel.run, hn, hb]
      have hs := ho.settle hP device
      rw [hr]
      exact ⟨hw.trans hs.run, hs.gone⟩
    | error e =>
      have hr : t.run = { u with engine := u.engine.withLink .down }.finish (.error e) := by
        simp only [Tunnel.run, hn, hb]
      have hf := ho.finish hP (.error e)
      rw [hr]
      exact ⟨hw.trans hf.run, hf.gone⟩

/-! ### Attempts -/

/-- The engine changes after a step that ended the call. -/
theorem Passes.elsewhere_after (hP : Moment.Lenient E P) {x : Move} {e : Engine}
    (hs : (t.during c).Step x (u.during .none)) (hx : x.isEvent = false)
    (he : e.isBusy = u.engine.isBusy) :
    Run P (t.during c) ({ u with engine := e }.during .none) := by
  have hu : Passes P .none u { u with engine := e } := .elsewhere hP rfl rfl rfl he
  exact .step hs (hP.other _ _ hx) hu.run

/-- The engine takes the profile, and there are credentials. -/
theorem evaluated_step {c : Config} {k : Credentials} {r : Except Failure ProfileInfo}
    {s : Session} (h : t.session.evaluated k r = .ok s) :
    (t.during (.evaluating c k)).Step (.evaluated r)
      ({ t.note (.evaluate c r) with session := s }.during (.authenticating k)) := by
  have hs := Moment.Step.evaluated (m := t.during (.evaluating c k)) r rfl
  have hm : (t.during (.evaluating c k)).session.evaluated k r = .ok s := h
  rwa [hm] at hs

/-- The engine does not take the profile, or there are no credentials. -/
theorem evaluated_run (hP : Moment.Lenient E P) {e : Engine} (he : e.isBusy = t.engine.isBusy)
    {c : Config} {k : Credentials} {r : Except Failure ProfileInfo} {x : Fault × Session}
    (h : t.session.evaluated k r = .error x) :
    Run P (t.during (.evaluating c k))
      ({ t.note (.evaluate c r) with session := x.2, engine := e }.during .none) := by
  let u : Tunnel := { t.note (.evaluate c r) with session := x.2 }
  have hs := Moment.Step.evaluated (m := t.during (.evaluating c k)) r rfl
  have hm : (t.during (.evaluating c k)).session.evaluated k r = .error x := h
  have hu : (t.during (.evaluating c k)).Step (.evaluated r) (u.during .none) := by
    rwa [hm] at hs
  exact Passes.elsewhere_after hP hu rfl he

/-- The engine does not take the credentials. -/
theorem declined_run (hP : Moment.Lenient E P) {e : Engine} (he : e.isBusy = t.engine.isBusy)
    (k : Credentials) (x : Failure) :
    Run P (t.during (.authenticating k))
      ({ t.note (.authenticate k) with
        session := t.session.abort (Session.credentialsFault x), engine := e }.during .none) := by
  let u : Tunnel := { t.note (.authenticate k) with
    session := t.session.abort (Session.credentialsFault x) }
  have hu : (t.during (.authenticating k)).Step (.declined x) (u.during .none) :=
    Moment.Step.declined x rfl
  exact Passes.elsewhere_after hP hu rfl he

/-- The engine takes the credentials, and the connection begins. -/
theorem started_run (hP : Moment.Lenient E P) (hb : t.engine.isBusy = false) (e : Engine)
    (k : Credentials) :
    Run P (t.during (.authenticating k))
      ({ t.note (.authenticate k) with session := t.session.startWorker, engine := e
        }.run.during .none) := by
  let u : Tunnel := { t.note (.authenticate k) with session := t.session.startWorker }
  let w : Tunnel := { u with engine := e }
  have hu : (t.during (.authenticating k)).Step .started ⟨u.note .run, .none, 1⟩ := by
    have hs := Moment.Step.started (m := t.during (.authenticating k)) rfl
    have hr : (t.during (.authenticating k)).running = 0 := by
      simp only [during, Engine.connections, hb, if_false, Bool.false_eq_true]
    rw [hr] at hs
    exact hs
  have hw : (⟨u.note .run, .none, 1⟩ : Moment).Step .elsewhere ⟨w.note .run, .none, 1⟩ :=
    elsewhere_step rfl rfl rfl
  exact .step hu (hP.other _ _ rfl) (.step hw (hP.other _ _ rfl) (run_run hP w).1)

/-- An attempt ends before it reaches the engine. -/
theorem Passes.not_begun (hP : Moment.Lenient E P) (hg : t.gone = false) {profile : String}
    {f : Fault} {s : Session}
    (h : (t.session.begin? profile).bind Session.engage = .error (f, s)) :
    Passes P .none t { t with session := s } := by
  have hfree : (t.during .none).Free := ⟨rfl, hg⟩
  cases hb : t.session.begin? profile with
  | error x =>
    obtain rfl : x = (f, s) := by
      rw [hb] at h
      exact Except.error.inj h
    exact of_step (f := fun t => { t with session := s }) hP (.refused hfree hb) rfl rfl rfl
  | ok u =>
    have hu : u.engage = .error (f, s) := by rwa [hb] at h
    have hs := Moment.Step.admitted hfree {} hb
    rw [hu] at hs
    exact of_step (f := fun t => { t with session := s }) hP hs rfl rfl rfl

/-- An attempt reaches the engine. -/
theorem admitted_step (hg : t.gone = false) {profile : String} {s : Session}
    (h : (t.session.begin? profile).bind Session.engage = .ok s) (k : Credentials) :
    (t.during .none).Step .admitted
      ({ t with session := s }.during (.evaluating (t.session.engineConfig profile) k)) := by
  cases hb : t.session.begin? profile with
  | error x =>
    rw [hb] at h
    cases h
  | ok u =>
    have hu : u.engage = .ok s := by rwa [hb] at h
    have hs := Moment.Step.admitted (m := t.during .none) ⟨rfl, hg⟩ k hb
    rw [hu] at hs
    exact hs

/-- The engine of an attempt that reaches it has no connection. -/
theorem isBusy_of_begun (hs : (t.during .none).Sound) (hg : t.gone = false) {profile : String}
    {s : Session} (h : (t.session.begin? profile).bind Session.engage = .ok s) :
    t.engine.isBusy = false := by
  have hw : t.session.worker ≠ .running := by
    cases hb : t.session.begin? profile with
    | error x =>
      rw [hb] at h
      cases h
    | ok u => exact (Session.begin?_eq_ok hb).2.1
  have hslot : t.engine.connections = if t.session.worker = .running then 1 else 0 := hs.slot hg
  rw [if_neg hw] at hslot
  unfold Engine.connections at hslot
  split at hslot
  · cases hslot
  · next hb => simpa using hb

/-- **An attempt is a run**, whether it is refused, fails or ends with a connection. -/
theorem Passes.connect (hP : Moment.Lenient E P) (hs : (t.during .none).Sound)
    (hg : t.gone = false) (profile username password : String) :
    Passes P .none t (t.connect profile username password).2 := by
  let c := t.session.engineConfig profile
  let k : Credentials := ⟨username, password⟩
  cases hb : (t.session.begin? profile).bind Session.engage with
  | error x =>
    rw [connect_of_not_begun hb]
    exact .not_begun hP hg hb
  | ok s =>
    let w : Tunnel := { t with session := s }
    have hw : (t.during .none).Step .admitted (w.during (.evaluating c k)) := admitted_step hg hb k
    cases hu : s.evaluated k (t.engine.evaluate c).1 with
    | error x =>
      have hrun := evaluated_run (t := w) (c := c) hP (t.engine.isBusy_evaluate c) hu
      rw [connect_of_not_evaluated hb rfl rfl hu]
      exact ⟨.step hw (hP.other _ _ rfl) hrun, rfl⟩
    | ok u =>
      let v : Tunnel := { w.note (.evaluate c (t.engine.evaluate c).1) with session := u }
      -- What the engine keeps of its answers is no concern of the session, and changes last.
      let e := ((t.engine.evaluate c).2.authenticate k).2
      have hv : (w.during (.evaluating c k)).Step (.evaluated _) (v.during (.authenticating k)) :=
        evaluated_step hu
      cases ha : (t.engine.authenticate k).1 with
      | error x =>
        have he : e.isBusy = v.engine.isBusy :=
          (Engine.isBusy_authenticate _ k).trans (t.engine.isBusy_evaluate c)
        have hrun := declined_run (t := v) hP he k x
        rw [connect_of_declined hb rfl rfl hu ha]
        exact ⟨.step hw (hP.other _ _ rfl) (.step hv (hP.other _ _ rfl) hrun), rfl⟩
      | ok _ =>
        have hidle : t.engine.isBusy = false := isBusy_of_begun hs hg hb
        have hrun := started_run (t := v) hP hidle e k
        rw [connect_of_started hb rfl rfl hu ha]
        exact ⟨.step hw (hP.other _ _ rfl) (.step hv (hP.other _ _ rfl) hrun), (run_run hP _).2⟩

/-! ### Scripted connections -/

theorem Passes.conclude (hP : Moment.Lenient E P) (t : Tunnel) (v : Verdict) :
    Passes P c t (t.conclude v) := by
  cases he : t.engine with
  | loopback l k =>
    have hc : t.conclude v = t := by simp only [Tunnel.conclude, he]
    rw [hc]
    exact .refl t
  | scripted e =>
    have hc : t.conclude v =
        { t with engine := .scripted (e.conclude v).2 }.finishIf (e.conclude v).1 := by
      simp only [Tunnel.conclude, he]
    rw [hc]
    refine finishIf (x := ((e.conclude v).1, .scripted (e.conclude v).2)) hP ?_ ?_
    · rw [he]
      exact (e.conclude_answers v).1
    · rw [he]
      exact (e.conclude_answers v).2

/-- A request that waited is granted, and may have been the last to hold the session. -/
theorem openLatch_run (hP : Moment.Lenient E P) (t : Tunnel) (othersHold : Bool)
    (hg : t.engine.isAsking → t.gone = false) :
    Run P (t.during .none) ((t.openLatch othersHold).during .none) := by
  let w : Tunnel := { t with application := t.application.withOpenLatch }
  have hw : Passes P .none t w := .elsewhere hP rfl rfl rfl rfl
  by_cases ha : t.engine.isAsking
  -- The request that waited may have been the last to hold the session.
  · let u : Tunnel := if othersHold then w else w.abandon
    have hu : Run P (w.during .none) (u.during .none) := by
      cases othersHold with
      | true => exact .refl
      | false => exact (abandon_run (t := w) hP (hg ha)).1
    have hn : Passes P .none u (u.note (.protection firstRemote false true)) :=
      .of_step hP (.answered firstRemote false true) rfl rfl rfl
    have ho : t.openLatch othersHold = (u.note (.protection firstRemote false true)).proceed :=
      if_pos ha
    rw [ho]
    exact (hw.run.trans hu).trans (hn.trans (.proceed hP _)).run
  · have ho : t.openLatch othersHold = w := if_neg ha
    rw [ho]
    exact hw.run

/-! ### What the operations make -/

/-- The tunnels that are made by the operations, one after the other, while engines report the
events of `E`. The application calls a session only as long as it is held. -/
inductive Made (E : Event → Prop) : Tunnel → Prop
  | create {id : String} {prefs : Preferences} {engine : Engine} {application : Application}
      {t : Tunnel} (h : create id prefs engine application = .ok t) (hb : engine.isBusy = false) :
      Made E t
  | connect {t : Tunnel} (h : Made E t) (hg : t.gone = false)
      (profile username password : String) : Made E (t.connect profile username password).2
  | disconnect {t : Tunnel} (h : Made E t) (hg : t.gone = false) : Made E t.disconnect
  | reconnect {t : Tunnel} (h : Made E t) (hg : t.gone = false) : Made E t.reconnect.2
  | pause {t : Tunnel} (h : Made E t) (hg : t.gone = false) (reason : String) :
      Made E (t.pause reason)
  | resume {t : Tunnel} (h : Made E t) (hg : t.gone = false) : Made E t.resume
  | ask {t : Tunnel} (h : Made E t) (hg : t.gone = false) (x : Socket) : Made E (t.ask x).2
  | destroy {t : Tunnel} (h : Made E t) (hg : t.gone = false) : Made E t.destroy
  | abandon {t : Tunnel} (h : Made E t) (hg : t.gone = false) : Made E t.abandon
  | report {t : Tunnel} (h : Made E t) {e : Event} (he : E e) : Made E (t.report e)
  | line {t : Tunnel} (h : Made E t) (text : String) : Made E (t.note (.line text))
  | protect {t : Tunnel} (h : Made E t) (x : Socket) (remote : String) (ipv6 : Bool) :
      Made E (t.protect x remote ipv6).2
  | launch {t : Tunnel} (h : Made E t) (n : Nat) (d : Device) (ds : List Directive) :
      Made E (t.launch n d ds)
  | conclude {t : Tunnel} (h : Made E t) (v : Verdict) : Made E (t.conclude v)
  | openLatch {t : Tunnel} (h : Made E t) (hg : t.engine.isAsking → t.gone = false)
      (othersHold : Bool) : Made E (t.openLatch othersHold)
  | elsewhere {t : Tunnel} (h : Made E t) {u : Tunnel} (hs : u.session = t.session)
      (ha : u.acts = t.acts) (hg : u.gone = t.gone) (he : u.engine = t.engine) : Made E u

/-- **A tunnel that the operations make is the tunnel of a reachable moment**, at which no call is
in progress. -/
theorem Made.reachable (hP : Moment.Lenient E P) (h : Made E t) :
    (t.during .none).Reachable P := by
  induction h with
  | @create id prefs engine application t h hb =>
    have ht : t.during .none = { tunnel := t } := by
      simp only [during, Engine.connections, (create_eq_ok h).2.1, hb, if_false,
        Bool.false_eq_true]
    rw [ht]
    exact ⟨id, prefs, engine, application, t, h, .refl⟩
  | connect _ hg profile username password ih =>
    exact ih.run (Passes.connect hP ih.sound hg profile username password).run
  | disconnect _ hg ih => exact ih.run (Passes.disconnect hP hg).run
  | reconnect _ hg ih => exact ih.run (Passes.reconnect hP hg).run
  | pause _ hg reason ih => exact ih.run (Passes.pause hP hg reason).run
  | resume _ hg ih => exact ih.run (Passes.resume hP hg).run
  | ask _ hg x ih => exact ih.run (Passes.ask hP hg x).run
  | destroy _ hg ih => exact ih.run (Passes.destroy hP hg).run
  | abandon _ hg ih => exact ih.run (abandon_run hP hg).1
  | report _ he ih => exact ih.run (Passes.report hP rfl _ he).run
  | line _ text ih => exact ih.run (Passes.line hP _ text).run
  | protect _ x remote ipv6 ih => exact ih.run (Passes.protect hP _ x remote ipv6).run
  | launch _ n d ds ih => exact ih.run (Passes.launch hP _ n d ds).run
  | conclude _ v ih => exact ih.run (Passes.conclude hP _ v).run
  | openLatch _ hg othersHold ih => exact ih.run (openLatch_run hP _ othersHold hg)
  | elsewhere _ hs ha hg he ih =>
    exact ih.run (Passes.elsewhere hP hs ha hg (congrArg Engine.isBusy he)).run

theorem Made.sound (h : Made (fun _ => True) t) : (t.during .none).Sound :=
  (h.reachable Moment.lenient_anyhow).sound

/-- The phase, the flags and the worker of a tunnel that was made agree, as long as engines are
sane. -/
theorem Made.agreed (h : Made Event.Plain t) : (t.during .none).Agreed :=
  (h.reachable Moment.lenient_sane).agreed

end TunnelRelay.Tunnel
