import TunnelRelay.Proofs.Life.Calls
import TunnelRelay.Proofs.Relay.Dialed

/-!
# Pushed settings on their way to the application

A loopback engine builds a device with the directives of its push reply. The device announces its
settings, and the session and the application hear all of them, in order and once, before the
session is connected. No reply keeps the connection from being established.

## Main definitions

- `Tunnel.notices` — what the application was told
- `Tunnel.Unmoved` — changes of the history, apart from what the application is told
- `Tunnel.Attends` — the session takes part, and the application does nothing in its callbacks
- `Tunnel.Furnished` — a connection with its settings

## Main statements

- `Tunnel.Attends.bringUp` — the device of a connection, with all that it announces
- `Tunnel.Attends.run` — a connection from its beginning until it is established
- `Tunnel.Made.settings_reach_application` — an attempt that is admitted
-/

namespace TunnelRelay

open Engine (Command Config Credentials Event Link Loopback LoopbackOptions ProfileInfo)
open Tun (Device Notice)

/-- The session after a device announced something. -/
def Session.learn (s : Session) : Notice → Session
  | .complete x => s.storeSettings x
  | _ => s

namespace Tunnel

/-- What the application is told by an act. -/
def Act.notice? : Act → Option Notice
  | .called (.notice x) => some x
  | _ => none

/-- What the application was told, the oldest first. -/
def notices (t : Tunnel) : List Notice := t.acts.reverse.filterMap Act.notice?

theorem notices_note {t : Tunnel} {a : Act} (h : a.notice? = none) :
    (t.note a).notices = t.notices := by
  simp [notices, h]

/-! ### What tells the application nothing -/

/-- The session knows of more events, and more was written down, but nothing that the application
was told. -/
structure Unmoved (t u : Tunnel) : Prop where
  besides : t.Besides u
  notices : u.notices = t.notices
  session : u.session = { t.session with events := u.session.events }

theorem Unmoved.refl (t : Tunnel) : t.Unmoved t := ⟨.refl t, rfl, rfl⟩

theorem Unmoved.trans {t u v : Tunnel} (h : t.Unmoved u) (k : u.Unmoved v) : t.Unmoved v where
  besides := h.besides.trans k.besides
  notices := k.notices.trans h.notices
  session := k.session.trans (by rw [h.session])

theorem note_unmoved (t : Tunnel) {a : Act} (h : a.notice? = none) : t.Unmoved (t.note a) :=
  ⟨note_besides t a, notices_note h, rfl⟩

/-- An event that is only remembered. -/
theorem report_unmoved (t : Tunnel) {e : Event} (he : ∀ s : Session, s.follow e = s) :
    t.Unmoved (t.report e) := by
  have hn : (t.report e).notices = t.notices := by
    rw [Tunnel.notices, acts_report]
    exact notices_note (a := .event e) rfl
  refine ⟨report_besides t e, hn, ?_⟩
  rw [session_report]
  split
  · rfl
  · cases hd : t.session.destroying with
    | true => rw [Session.hear_of_destroying hd]
    | false =>
      rw [Session.hear_of_not_destroying hd, he]
      simpa using Session.remember_eq t.session e

theorem ask_unmoved (t : Tunnel) (x : Socket) : t.Unmoved (t.ask x).2 := by
  unfold ask
  split
  · exact .refl t
  · split
    · exact .refl t
    · exact note_unmoved t rfl
    · exact note_unmoved t rfl

theorem protect_unmoved (t : Tunnel) (x : Socket) (remote : String) (ipv6 : Bool) :
    t.Unmoved (t.protect x remote ipv6).2 := by
  cases h : t.isLive
  · rw [protect_of_not_live h]
    exact note_unmoved t rfl
  · rw [protect_of_live h]
    exact (ask_unmoved t x).trans (note_unmoved _ rfl)

theorem openTransport_unmoved (t : Tunnel) (remote : String) :
    t.Unmoved (Loopback.openTransport host remote t) := by
  obtain ⟨granted, u, hu⟩ : ∃ granted u, host.protect remote false t = (granted, u) := ⟨_, _, rfl⟩
  have hp : t.Unmoved u := by
    rw [show u = (t.protect .transport remote false).2 from congrArg Prod.snd hu.symm]
    exact protect_unmoved t .transport remote false
  unfold Loopback.openTransport
  rw [hu]
  cases granted with
  | true => exact hp
  | false => exact hp.trans (note_unmoved u rfl)

theorem reach_unmoved (t : Tunnel) (remote : String) :
    t.Unmoved (Loopback.reach host remote t) :=
  ((report_unmoved t fun _ => rfl).trans (report_unmoved _ fun _ => rfl)).trans
    (openTransport_unmoved _ remote)

theorem negotiate_unmoved (t : Tunnel) (l : Loopback) : t.Unmoved (l.negotiate host t) :=
  ((report_unmoved t fun _ => rfl).trans (report_unmoved _ fun _ => rfl)).trans
    (report_unmoved _ fun _ => rfl)

/-! ### What a device announces -/

/-- The tunnel after the session heard what a device announced, and the application if it wants
to be told. -/
def heard (t : Tunnel) (x : Notice) : Tunnel :=
  let u := t.mapSession (·.learn x)
  if t.application.observes then u.note (.called (.notice x)) else u

theorem foldl_heard (xs : List Notice) (t : Tunnel) : xs.foldl heard t =
    { t with
      session := xs.foldl Session.learn t.session
      acts := (if t.application.observes then (xs.map fun x => Act.called (.notice x)).reverse
        else []) ++ t.acts } := by
  induction xs generalizing t with
  | nil => simp
  | cons x xs ih =>
    rw [List.foldl_cons, ih]
    cases h : t.application.observes <;> simp [heard, note, mapSession, h]

theorem notices_foldl_heard (xs : List Notice) {t : Tunnel} (h : t.application.observes) :
    (xs.foldl heard t).notices = t.notices ++ xs := by
  simp [foldl_heard, h, notices, Act.notice?, List.filterMap_map, Function.comp_def]

/-- Only the settings as a whole are new to the session. -/
theorem foldl_learn_announcements (x : Settings) (s : Session) :
    (Tun.announcements x).foldl Session.learn s = s.storeSettings x := by
  have hpart (xs : List Notice) (h : ∀ y ∈ xs, ∀ u : Session, u.learn y = u) :
      xs.foldl Session.learn s = s := by
    induction xs with
    | nil => rfl
    | cons y xs ih =>
      rw [List.foldl_cons, h y List.mem_cons_self]
      exact ih fun z hz => h z (List.mem_cons_of_mem y hz)
  rw [Tun.announcements, List.foldl_append, hpart]
  · rfl
  · intro y hy u
    simp only [List.mem_append, List.mem_map] at hy
    obtain (⟨a, -, rfl⟩ | hy) | ⟨r, -, rfl⟩ := hy
    · rfl
    · split at hy
      · cases hy
      · rw [List.mem_singleton.1 hy]
        rfl
    · rfl

/-- The session takes part, and the application does nothing about what it is told, if it is told
anything. -/
structure Attends (t : Tunnel) : Prop where
  live : t.isLive
  reaction : ∀ x, t.application.reaction x = none

variable {t u : Tunnel}

theorem Attends.unmoved (h : t.Attends) (hu : t.Unmoved u) : u.Attends where
  live := by
    rw [isLive, hu.besides.gone, hu.besides.session.destroying]
    exact h.live
  reaction := by
    rw [hu.besides.application]
    exact h.reaction

theorem Attends.heard (h : t.Attends) (x : Notice) : (t.heard x).Attends := by
  have hd : (t.session.learn x).destroying = t.session.destroying := by
    cases x with
    | complete s => exact (Session.storeSettings_sameStanding t.session s).destroying
    | _ => rfl
  have hlive : (!t.gone && !(t.session.learn x).destroying) = true := by
    rw [hd]
    exact h.live
  unfold Tunnel.heard
  split
  · exact ⟨hlive, h.reaction⟩
  · exact ⟨hlive, h.reaction⟩

theorem Attends.announce (h : t.Attends) (n : Nat) (x : Notice) :
    t.announce n x = (none, t.heard x) := by
  have hstore : t.store x = t.mapSession (·.learn x) := by cases x <;> rfl
  have htell : t.tell x = (t.application.observes, t.heard x) := by
    cases ho : t.application.observes <;>
      simp only [tell, Tunnel.heard, h.live, hstore, application_mapSession, ho, if_true, if_false,
        Bool.false_eq_true]
  have happ : (t.heard x).application = t.application := by
    unfold Tunnel.heard
    split <;> rfl
  simp only [Tunnel.announce, htell]
  cases t.application.observes with
  | false => rfl
  | true =>
    show (t.heard x).react n ((t.heard x).application.reaction x) = _
    rw [happ, h.reaction]
    rfl

/-- The application hears all that a device announces, and does not halt it. -/
theorem Attends.foldl_announce (h : t.Attends) (n : Nat) (xs : List Notice) (d : Device)
    (r : Option (Except String Unit)) :
    (xs.map Tun.Call.notice).foldl (Device.ring (callOwn n)) (d, r, t) =
      (d, r, xs.foldl Tunnel.heard t) := by
  induction xs generalizing t with
  | nil => rfl
  | cons x xs ih =>
    have hring : Device.ring (callOwn n) (d, r, t) (.notice x) = (d, r, t.heard x) := by
      simp only [Device.ring, callOwn, h.announce]
      rfl
    rw [List.map_cons, List.foldl_cons, hring, ih (h.heard x)]
    rfl

/-- The device of a connection runs with its settings, which the session and the application have
heard. -/
theorem Attends.bringUp (h : t.Attends) (ds : List Directive) :
    ∃ name u d, bringUp ds t = (.ok name, u) ∧ u.engine = t.engine ∧
      u.application = t.application ∧ u.gone = t.gone ∧
      u.session = t.session.storeSettings (Settings.ofDirectives ds) ∧
      (t.application.observes →
        u.notices = t.notices ++ Tun.announcements (Settings.ofDirectives ds)) ∧
      u.current? = some (t.bay.built, d) ∧ d.stage = .started ∧
      d.settings = Settings.ofDirectives ds := by
  let n := t.bay.built
  let xs := Tun.announcements (Settings.ofDirectives ds)
  let v : Tunnel := { t with bay := t.bay.build, own := some n }
  let d : Device := { t.bay.fresh with settings := Settings.ofDirectives ds }
  have hv : v.Attends := ⟨h.live, h.reaction⟩
  have ha : Device.announced (callOwn n) ds t.bay.fresh (none, v) =
      (d, none, xs.foldl Tunnel.heard v) := hv.foldl_announce n xs d none
  have hl : t.bay.fresh.launch (callOwn n) ds (none, v) =
      (d.running, some (.ok ()), xs.foldl Tunnel.heard v) := by
    rw [Device.launch_of_created rfl rfl, ha]
    rfl
  have hfold := foldl_heard xs v
  have hbay : (xs.foldl Tunnel.heard v).bay = t.bay.build := by rw [hfold]
  have hcurrent : (xs.foldl Tunnel.heard v).current? = some (n, t.bay.fresh) := by
    rw [current?_eq_some_iff, hbay]
    exact ⟨Tun.Bay.current?_build t.bay, Tun.Bay.device?_build t.bay⟩
  refine ⟨_, _, d.running, bringUp_of_launch hl, ?_, ?_, ?_, ?_, ?_,
    current?_modify hcurrent _, rfl, rfl⟩
  · show (xs.foldl Tunnel.heard v).engine = _
    rw [hfold]
  · show (xs.foldl Tunnel.heard v).application = _
    rw [hfold]
  · show (xs.foldl Tunnel.heard v).gone = _
    rw [hfold]
  · show (xs.foldl Tunnel.heard v).session = _
    rw [hfold]
    exact foldl_learn_announcements _ t.session
  · exact fun ho => notices_foldl_heard (t := v) xs ho

/-! ### A connection -/

/-- The connection is established with these settings. The session and the current device have
them. So has the application if it wants to be told, and it was told nothing else. -/
structure Furnished (x : Settings) (t u : Tunnel) : Prop where
  application : u.application = t.application
  phase : u.session.phase = .connected
  connected : u.session.connected
  settings : u.session.settings = x
  notices : t.application.observes → u.notices = t.notices ++ Tun.announcements x
  device : ∃ n d, u.current? = some (n, d) ∧ d.stage = .started ∧ d.settings = x

/-- A connection that is reported is followed, unless a stop was requested. -/
theorem hear_connected {s : Session} (hd : s.destroying = false) (hp : s.phase ≠ .destroyed)
    (hs : s.stopRequested = false) (name : String) :
    s.hear ⟨.connected, name, false, false⟩ =
      { s.remember ⟨.connected, name, false, false⟩ with
        phase := .connected, connected := true, connecting := false } := by
  have hi : (s.remember ⟨.connected, name, false, false⟩).ignores
      ⟨.connected, name, false, false⟩ = false := by
    rw [Session.remember_eq]
    simp [Session.ignores, hs]
  rw [Session.hear_of_not_destroying hd, hi, if_neg Bool.false_ne_true,
    Session.follow_connected (by rwa [Session.phase_remember]) rfl]

/-- The session is in an attempt, and no stop was requested since it began. -/
structure Attempting (t : Tunnel) : Prop extends t.Attends where
  phase : t.session.phase = .connecting
  stopRequested : t.session.stopRequested = false

theorem Attempting.unmoved (h : t.Attempting) (hu : t.Unmoved u) : u.Attempting where
  toAttends := h.toAttends.unmoved hu
  phase := by
    rw [hu.session]
    exact h.phase
  stopRequested := by
    rw [hu.session]
    exact h.stopRequested

/-- A connection is established if the engine knows a server and the credentials are accepted. -/
theorem Attempting.establish (h : t.Attempting) {l : Loopback} {remote : String}
    (hr : l.remote = some remote) (ha : l.accepts) :
    ∃ name u, l.establish host Tunnel.bringUp t = (.ok name, u) ∧ u.engine = t.engine ∧
      Furnished (Settings.ofDirectives (Directive.ofPushReply l.options.pushReply.toList)) t u := by
  obtain ⟨w, hneg⟩ : ∃ w, l.negotiate host (Loopback.reach host remote t) = w := ⟨_, rfl⟩
  have hw : t.Unmoved w := hneg ▸ (reach_unmoved t remote).trans (negotiate_unmoved _ l)
  have hatt := h.unmoved hw
  obtain ⟨name, v, d, hb, hengine, happlication, hgone, hsession, hnotices, hcurrent, hstage,
    hsettings⟩ := hatt.bringUp (Directive.ofPushReply l.options.pushReply.toList)
  let e : Event := ⟨.connected, name, false, false⟩
  have he : l.establish host Tunnel.bringUp t = (.ok name, v.report e) := by
    simp only [Loopback.establish, hr, ha, if_true, hneg, hb]
    rfl
  have hc := report_besides v e
  -- The settings were stored before the session was connected; from then on they stay.
  have hstored (x : Settings) : w.session.storeSettings x = { w.session with settings := x } :=
    if_neg (by rw [hatt.phase]; decide)
  rw [hstored] at hsession
  have hu : (v.report e).session = { v.session.remember e with
      phase := .connected, connected := true, connecting := false } := by
    rw [session_report, hgone, gone_of_isLive hatt.live, if_neg Bool.false_ne_true]
    refine hear_connected ?_ ?_ ?_ name
    · rw [hsession]
      show w.session.destroying = false
      exact destroying_of_isLive hatt.live
    · rw [hsession, hatt.phase]
      decide
    · rw [hsession]
      exact hatt.stopRequested
  refine ⟨name, v.report e, he, hc.engine.trans (hengine.trans hw.besides.engine),
    hc.application.trans (happlication.trans hw.besides.application), by rw [hu], by rw [hu],
    ?_, ?_, _, d, (current?_congr hc.bay).trans hcurrent, hstage, hsettings⟩
  · rw [hu, Session.remember_eq, hsession]
  · intro ho
    rw [← hw.besides.application] at ho
    rw [notices, acts_report]
    exact (notices_note (a := .event e) rfl).trans (by rw [hnotices ho, hw.notices])

theorem settle_of_idle {l : Loopback} {name : String} (he : t.engine = .loopback l (.up name))
    (hq : l.queue = []) : t.settle = t := by
  have hl : { l with queue := [] } = l := by rw [← hq]
  simp only [settle, he, hq, Loopback.serve, Loopback.splitAtStop, List.foldl_nil, hl]
  rw [← he]

/-- The worker establishes the connection. -/
theorem Attempting.run (h : t.Attempting) {l : Loopback} {k : Link} {remote : String}
    (he : t.engine = .loopback l k) (hr : l.remote = some remote) (ha : l.accepts)
    (hq : l.queue = []) :
    Furnished (Settings.ofDirectives (Directive.ofPushReply l.options.pushReply.toList)) t
      t.run := by
  let w : Tunnel := { t.note .run with engine := .loopback l .opening }
  have hw : w.Attempting := ⟨⟨h.live, h.reaction⟩, h.phase, h.stopRequested⟩
  obtain ⟨name, u, hu, hengine, hf⟩ := hw.establish hr ha
  have hn : (t.note .run).engine = .loopback l k := he
  have hrun : t.run = { u with engine := .loopback l (.up name) } := by
    have hu : l.establish host Tunnel.bringUp { t.note .run with engine := .loopback l .opening } =
      (.ok name, u) := hu
    simp only [Tunnel.run, hn, hu, hengine, w, Engine.withLink]
    exact settle_of_idle rfl hq
  have hwn : w.notices = t.notices := notices_note (a := .run) rfl
  have hun (ho : t.application.observes) : u.notices = t.notices ++ _ := hwn ▸ hf.notices ho
  rw [hrun]
  exact ⟨hf.application, hf.phase, hf.connected, hf.settings, hun, hf.device⟩

/-! ### An attempt -/

/-- An attempt that is admitted, whose profile is evaluated and which has credentials gets to the
worker. -/
theorem connect_of_loopback {l : Loopback} {k : Link} (he : t.engine = .loopback l k)
    {profile username password : String} {s : Session} (hs : t.session.begin? profile = .ok s)
    (hr : s.released = false) {i : ProfileInfo}
    (hi : (l.evaluate (t.session.engineConfig profile)).1 = .ok i) (hu : username ≠ "")
    (hp : password ≠ "") :
    (t.connect profile username password).1 = .ok () ∧
    ∃ remote w, (t.connect profile username password).2 = Tunnel.run w ∧
      w.session = (s.setPhase .authenticating).startWorker ∧
      w.engine = .loopback { l with
        remote := some remote, queue := [], credentials := ⟨username, password⟩ } k ∧
      w.application = t.application ∧ w.gone = t.gone ∧ w.notices = t.notices := by
  obtain ⟨c, hc⟩ : ∃ c, t.session.engineConfig profile = c := ⟨_, rfl⟩
  rw [hc] at hi
  obtain ⟨remote, hl⟩ := Loopback.evaluate_eq_ok hi
  have hevaluate : t.engine.evaluate c =
      (.ok i, .loopback { l with remote := some remote, queue := [] } k) := by
    rw [he, Engine.evaluate_loopback, hi, hl]
  have hengage : (t.session.begin? profile).bind Session.engage = .ok s := by
    rw [hs]
    exact Session.engage_of_held hr
  have hevaluated : s.evaluated ⟨username, password⟩ (t.engine.evaluate c).1 =
      .ok (s.setPhase .authenticating) := by
    rw [hevaluate]
    exact Session.evaluated_of_ok hu hp s i
  have hauth (m : Loopback) : (Engine.loopback m k).authenticate ⟨username, password⟩ =
      (.ok (), .loopback { m with credentials := ⟨username, password⟩ } k) := by
    rw [Engine.authenticate_loopback, Loopback.authenticate_of_name m hu]
  have htaken : (t.engine.authenticate ⟨username, password⟩).1 = .ok () := by rw [he, hauth]
  refine ⟨outcome_of_started hengage hc rfl hevaluated htaken, remote, _,
    connect_of_started hengage hc rfl hevaluated htaken, rfl, ?_, rfl, rfl, ?_⟩
  · rw [hevaluate, hauth]
  · simp [notices, note, Act.notice?]

/-- An attempt that is admitted and evaluated ends connected, with the settings that were pushed. -/
theorem Made.connect_furnished (h : t.Made fun _ => True) (hg : t.gone = false)
    {l : Loopback} {k : Link} (he : t.engine = .loopback l k)
    (hr : ∀ x, t.application.reaction x = none) {profile username password : String} {s : Session}
    (hs : t.session.begin? profile = .ok s) {i : ProfileInfo}
    (hi : (l.evaluate (t.session.engineConfig profile)).1 = .ok i) (hu : username ≠ "")
    (hp : password ≠ "") (hk : l.options.expected.all (· = ⟨username, password⟩)) :
    (t.connect profile username password).1 = .ok () ∧
      Furnished (Settings.ofDirectives (Directive.ofPushReply l.options.pushReply.toList)) t
        (t.connect profile username password).2 := by
  have hsound := h.sound
  obtain ⟨hd, -, -, -, hbegun⟩ := Session.begin?_eq_ok hs
  have hsame := Session.begin?_sameStanding hs
  have hphase : s.phase ≠ .destroyed := fun hp => hsound.phase_ne hd (hsame.phase.1 hp)
  have hstop : s.stopRequested = false := by
    rw [hbegun]
    exact Session.stopRequested_setPhase _ _
  have hreleased : s.released = false := by
    rw [hsame.released]
    cases hrel : t.session.released with
    | false => rfl
    | true => cases hd.symm.trans (hsound.released hrel)
  obtain ⟨hout, remote, w, hw, hws, hwe, hwa, hwg, hwn⟩ :=
    connect_of_loopback he hs hreleased hi hu hp
  have hatt : w.Attempting := by
    refine ⟨⟨?_, by rw [hwa]; exact hr⟩, ?_, ?_⟩
    · simp [isLive, hwg, hg, hws, Session.startWorker, hsame.destroying, hd]
    · rw [hws]
      refine Session.phase_setPhase ?_ .connecting
      rw [Session.phase_setPhase hphase]
      decide
    · simp [hws, Session.startWorker, hstop]
  have hf := hatt.run hwe rfl hk rfl
  rw [hw]
  exact ⟨hout, hf.application.trans hwa, hf.phase, hf.connected, hf.settings,
    fun ho => hwn ▸ hf.notices (hwa ▸ ho), hf.device⟩

/-- **What is pushed reaches the application as it is, and never ends an attempt.** Let an
application that does nothing in its callbacks be told about a session over a loopback engine that
accepts the credentials. Whatever happened before, an attempt that is admitted and whose profile is
evaluated ends connected. In it the application is told the addresses, the servers, the routes with
their families and the settings as a whole, in this order and nothing else. The session and the
current device have these settings, down to the addresses and the packet size of the interface. -/
theorem Made.settings_reach_application (h : t.Made fun _ => True) (hg : t.gone = false)
    {l : Loopback} {k : Link} (he : t.engine = .loopback l k) (ho : t.application.observes)
    (hr : ∀ x, t.application.reaction x = none) {profile username password : String} {s : Session}
    (hs : t.session.begin? profile = .ok s) {i : ProfileInfo}
    (hi : (l.evaluate (t.session.engineConfig profile)).1 = .ok i) (hu : username ≠ "")
    (hp : password ≠ "") (hk : l.options.expected.all (· = ⟨username, password⟩)) :
    let x := Settings.ofDirectives (Directive.ofPushReply l.options.pushReply.toList)
    let u := (t.connect profile username password).2
    (t.connect profile username password).1 = .ok () ∧
    (u.session.phase = .connected ∧ u.session.connected) ∧
    u.notices = t.notices ++ (x.ipv4.toList.map .address ++ x.ipv6.toList.map .address ++
      (if x.servers = [] then [] else [.servers x.servers]) ++
      x.routes.map (fun r => .route r r.address.isV6) ++ [.complete x]) ∧
    u.session.settings = x ∧
    ∃ n d, u.current? = some (n, d) ∧ d.stage = .started ∧ d.settings = x ∧
      d.address4?.map .v4 = x.ipv4.map (·.address) ∧
      d.address6?.map .v6 = x.ipv6.map (·.address) ∧ d.mtu = x.mtu := by
  intro x u
  obtain ⟨hout, hf⟩ := h.connect_furnished hg he hr hs hi hu hp hk
  obtain ⟨n, d, hcurrent, hstage, hsettings⟩ := hf.device
  refine ⟨hout, ⟨hf.phase, hf.connected⟩, ?_, hf.settings, n, d, hcurrent, hstage, hsettings,
    Device.address4?_of_settings hsettings, Device.address6?_of_settings hsettings,
    congrArg Settings.mtu hsettings⟩
  have hx : Tun.announcements x = x.ipv4.toList.map .address ++ x.ipv6.toList.map .address ++
      (if x.servers = [] then [] else [.servers x.servers]) ++
      x.routes.map (fun r => .route r r.address.isV6) ++ [.complete x] := by
    simp [Tun.announcements]
  rw [← hx]
  exact hf.notices ho

/-- A server that takes one user, and pushes routes of both families and a malformed one. -/
def branchOptions : LoopbackOptions where
  pushReply := "PUSH_REPLY,ifconfig 10.8.0.2 255.255.255.0,route 10.9.0.0 255.255.0.0," ++
    "route 10.9.0.300,route-ipv6 fd00::/64"
  expected := some ⟨"user", "secret"⟩

/-- A new tunnel to such a server. -/
def branchTunnel : Tunnel where
  session := { id := "branch", prefs := {} }
  engine := .ofOptions branchOptions
  application := {}
  bay := { id := "branch", blocking := true }

/-- A second attempt, after the first connection was stopped: the application is told everything
once more. -/
theorem Made.settings_reach_application_again : ∃ t : Tunnel, t.Made (fun _ => True) ∧
    t.bay.built = 1 ∧
    let u := (t.connect "remote vpn.example.com 1194" "user" "secret").2
    u.session.phase = .connected ∧ u.notices = t.notices ++
      [.address ⟨.v4 (.ofOctets 10 8 0 2), 24⟩, .route ⟨.v4 (.ofOctets 10 9 0 0), 16⟩ false,
        .route ⟨.v6 (.ofGroups [0xfd00]), 64⟩ true, .complete u.session.settings] := by
  have hcreate : Tunnel.create "branch" {} (.ofOptions branchOptions) {} = .ok branchTunnel := rfl
  have hnew : branchTunnel.Made fun _ => True := .create hcreate rfl
  have hblank : Text.isAllBlank "remote vpn.example.com 1194".toList = false := by decide +kernel
  have hremote : (Directive.first? "remote" (Directive.ofLines (branchTunnel.session.engineConfig
      "remote vpn.example.com 1194").content.toList)).bind (·.word? 1) =
        some "vpn.example.com" := by
    decide +kernel
  obtain ⟨s, hs, -⟩ := Session.exists_begin?_eq_ok (s := branchTunnel.session) rfl hblank
    (by decide)
  obtain ⟨i, hi⟩ := Loopback.exists_evaluate_eq_ok { options := branchOptions } hremote
  have hfirst := (hnew.connect_furnished rfl rfl (fun _ => rfl) hs hi
    (by decide : "user" ≠ "") (by decide : "secret" ≠ "") (by decide)).2
  let t : Tunnel := (branchTunnel.connect "remote vpn.example.com 1194" "user" "secret").2
  have ht : t.Made fun _ => True := hnew.connect rfl _ _ _
  -- The connection that is up is stopped.
  have hup : t.Up branchOptions := by
    refine ((Dialed.create hcreate).connect _ _ _).standing.resolve_left fun hdown => ?_
    cases hdown.connected.symm.trans hfirst.connected
  have happ : t.disconnect.application = {} := (application_disconnect t).trans hfirst.application
  obtain ⟨l, he, ho⟩ := hup.disconnect.engine
  obtain ⟨hbuilt, hd, hfree, hprefs⟩ : t.disconnect.bay.built = 1 ∧
      t.disconnect.session.destroying = false ∧
      ¬(t.disconnect.session.worker = .running ∨ t.disconnect.session.connected ∨
        t.disconnect.session.connecting) ∧
      t.disconnect.session.prefs = branchTunnel.session.prefs := by decide +kernel
  obtain ⟨s, hs, -⟩ := Session.exists_begin?_eq_ok hd hblank hfree
  obtain ⟨i, hi⟩ := Loopback.exists_evaluate_eq_ok l
    (c := t.disconnect.session.engineConfig "remote vpn.example.com 1194") (by
      rw [Session.engineConfig, hprefs]
      exact hremote)
  obtain ⟨-, ⟨hphase, -⟩, hnotices, hsettings, -⟩ :=
    (ht.disconnect hup.gone).settings_reach_application hup.disconnect.gone he (by rw [happ])
      (fun _ => by rw [happ]) hs hi (by decide : "user" ≠ "") (by decide : "secret" ≠ "")
      (by rw [ho]; decide)
  refine ⟨t.disconnect, ht.disconnect hup.gone, hbuilt, hphase, hnotices.trans ?_⟩
  rw [hsettings, ho]
  exact congrArg (t.disconnect.notices ++ ·) (by decide +kernel)

end Tunnel

end TunnelRelay
