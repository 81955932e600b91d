import TunnelRelay.Proofs.Life.Soundness

/-!
# What engines and devices never change

Engines report events, devices announce their settings, workers return, and the application stops
a connection. A property of sessions that all of it keeps is kept by every operation on a tunnel
that makes no more of the session than that.

## Main definitions

- `Session.SameRecord` — sessions with the same name, preferences and count of restarts
- `Session.Kept` — a property that the small changes of a session keep

## Main statements

- `Session.Kept.settle`, `Session.Kept.disconnect` — connections that obey, and stops
- `Session.Kept.bringUp`, `Session.Kept.run` — devices that start, and connections on a worker
- `Session.Kept.connect`, `Session.Kept.reconnect`, `Session.Kept.command` — what the application
  calls
- `Moment.Step.id_eq`, `Moment.Run.id_eq` — a tunnel keeps its name for ever
-/

namespace TunnelRelay

open Engine (Command Credentials Event Failure Loopback ProfileInfo Verdict)

namespace Session

/-- The sessions have the same name, preferences and count of restarts. -/
structure SameRecord (s u : Session) : Prop where
  id : u.id = s.id
  prefs : u.prefs = s.prefs
  reconnects : u.reconnects = s.reconnects

theorem SameRecord.refl (s : Session) : s.SameRecord s := ⟨rfl, rfl, rfl⟩

theorem SameRecord.trans {s u v : Session} (h : s.SameRecord u) (k : u.SameRecord v) :
    s.SameRecord v :=
  ⟨k.id.trans h.id, k.prefs.trans h.prefs, k.reconnects.trans h.reconnects⟩

theorem setPhase_sameRecord (s : Session) (p : Phase) : s.SameRecord (s.setPhase p) := by
  unfold setPhase
  split <;> exact ⟨rfl, rfl, rfl⟩

theorem fail_sameRecord (s : Session) (text : String) : s.SameRecord (s.fail text) :=
  SameRecord.trans (u := (s.setError text).clearFlags) ⟨rfl, rfl, rfl⟩ (setPhase_sameRecord _ _)

theorem follow_sameRecord (s : Session) (e : Event) : s.SameRecord (s.follow e) := by
  cases hk : e.kind with
  | connected =>
    simp only [follow, hk]
    exact SameRecord.trans (u := { s with connected := true, connecting := false }) ⟨rfl, rfl, rfl⟩
      (setPhase_sameRecord _ _)
  | disconnected =>
    simp only [follow, hk]
    split <;> exact ⟨rfl, rfl, rfl⟩
  | reconnecting => simpa only [follow, hk] using setPhase_sameRecord s _
  | authFailed => simpa only [follow, hk] using fail_sameRecord s _
  | authPending =>
    simp only [follow, hk]
    split
    · exact fail_sameRecord s _
    · split
      · exact .refl s
      · exact setPhase_sameRecord s _
  | transportError | compressError =>
    simp only [follow, hk]
    split
    · exact fail_sameRecord s _
    · exact ⟨rfl, rfl, rfl⟩
  | _ => simpa only [follow, hk] using SameRecord.refl s

theorem hear_sameRecord (s : Session) (e : Event) : s.SameRecord (s.hear e) := by
  have hr : s.SameRecord (s.remember e) := by
    rw [remember_eq]
    exact ⟨rfl, rfl, rfl⟩
  cases hd : s.destroying with
  | true =>
    rw [hear_of_destroying hd]
    exact .refl s
  | false =>
    rw [hear_of_not_destroying hd]
    split
    · exact hr
    · exact hr.trans (follow_sameRecord _ e)

theorem storeSettings_sameRecord (s : Session) (x : Settings) :
    s.SameRecord (s.storeSettings x) := by
  rw [storeSettings_eq]
  exact ⟨rfl, rfl, rfl⟩

theorem abort_sameRecord (s : Session) (f : Fault) : s.SameRecord (s.abort f) := by
  have h : s.SameRecord { s with connecting := false } := ⟨rfl, rfl, rfl⟩
  cases f
  all_goals exact (h.trans (setPhase_sameRecord _ _)).trans ⟨rfl, rfl, rfl⟩

theorem beginStop_sameRecord (s : Session) : s.SameRecord s.beginStop := by
  have h : s.SameRecord { s with stopRequested := true } := ⟨rfl, rfl, rfl⟩
  unfold beginStop
  cases s.isActive
  · exact ⟨rfl, rfl, rfl⟩
  · exact (h.trans (setPhase_sameRecord _ .disconnecting)).trans ⟨rfl, rfl, rfl⟩

theorem endStop_sameRecord (s : Session) (active left : Bool) :
    s.SameRecord (s.endStop active left) := by
  have h : s.SameRecord (if left then { s with worker := .running } else s) := by
    cases left <;> exact ⟨rfl, rfl, rfl⟩
  cases active
  · exact h
  · exact h.trans (setPhase_sameRecord _ _)

theorem endRelease_sameRecord (s : Session) : s.SameRecord s.endRelease :=
  SameRecord.trans (u := { s with released := true }) ⟨rfl, rfl, rfl⟩ (setPhase_sameRecord _ _)

theorem startWorker_sameRecord (s : Session) : s.SameRecord s.startWorker :=
  (setPhase_sameRecord s .connecting).trans ⟨rfl, rfl, rfl⟩

/-! ### Attempts, stage by stage -/

/-- An attempt ends before it reaches the engine, after the engine's answer to the profile, after
its answer to the credentials, or with a worker. -/
theorem connect_cases {M : Attempt → Prop} {s : Session} {a : Answers}
    {profile username password : String} {c : Engine.Config} {k : Credentials}
    (hc : s.engineConfig profile = c) (hk : ⟨username, password⟩ = k)
    (notBegun : ∀ {f u}, (s.begin? profile).bind engage = .error (f, u) → M ⟨u, .error f, []⟩)
    (notEvaluated : ∀ {v f u}, (s.begin? profile).bind engage = .ok v →
      v.evaluated k (a.evaluate c) = .error (f, u) → M ⟨u, .error f, [.evaluate c]⟩)
    (declined : ∀ {v w f u}, (s.begin? profile).bind engage = .ok v →
      v.evaluated k (a.evaluate c) = .ok w → w.authenticated (a.authenticate k) = .error (f, u) →
      M ⟨u, .error f, [.evaluate c, .authenticate k]⟩)
    (started : ∀ {v w u}, (s.begin? profile).bind engage = .ok v →
      v.evaluated k (a.evaluate c) = .ok w → w.authenticated (a.authenticate k) = .ok u →
      M ⟨u, .ok (), [.evaluate c, .authenticate k, .run]⟩) :
    M (s.connect a profile username password) := by
  subst hc hk
  unfold connect
  cases hb : (s.begin? profile).bind engage with
  | error x => exact notBegun hb
  | ok v =>
    dsimp only
    cases hv : v.evaluated ⟨username, password⟩ (a.evaluate (s.engineConfig profile)) with
    | error x => exact notEvaluated hb hv
    | ok w =>
      dsimp only
      cases hw : w.authenticated (a.authenticate ⟨username, password⟩) with
      | error x => exact declined hb hv hw
      | ok u => exact started hb hv hw

/-- The session has the property after a stage of an attempt, whether the attempt ends or not. -/
def Stays (C : Session → Prop) : Except (Fault × Session) Session → Prop
  | .ok u => C u
  | .error y => C y.2

/-- A property of sessions that the stages of an attempt keep. -/
structure KeptByStages (C : Session → Prop) : Prop where
  abort : ∀ {u}, C u → ∀ f, C (u.abort f)
  setPhase : ∀ {u}, C u → C (u.setPhase .authenticating)
  startWorker : ∀ {u}, C u → C u.startWorker

section Stages

variable {C : Session → Prop} {s : Session}

theorem KeptByStages.giveUp (h : KeptByStages C) (hs : C s) (f : Fault) : Stays C (s.giveUp f) :=
  h.abort hs f

theorem KeptByStages.engage (h : KeptByStages C) (hs : C s) : Stays C s.engage := by
  unfold Session.engage
  split
  · exact h.giveUp hs _
  · exact hs

theorem KeptByStages.evaluated (h : KeptByStages C) (hs : C s) (k : Credentials)
    (r : Except Failure ProfileInfo) : Stays C (s.evaluated k r) := by
  cases r with
  | error e => exact h.giveUp hs _
  | ok i =>
    have hp := h.setPhase hs
    simp only [Session.evaluated]
    split
    · exact h.giveUp hp _
    · exact hp

theorem KeptByStages.authenticated (h : KeptByStages C) (hs : C s) (r : Except Failure Unit) :
    Stays C (s.authenticated r) := by
  cases r with
  | error e => exact h.giveUp hs _
  | ok _ => exact h.startWorker hs

/-- What the stages of an attempt keep, the attempt keeps. -/
theorem KeptByStages.connect (h : KeptByStages C) {profile : String}
    (hs : Stays C (s.begin? profile)) (a : Answers) (username password : String) :
    C (s.connect a profile username password).session := by
  have hb : Stays C ((s.begin? profile).bind Session.engage) := by
    cases hx : s.begin? profile with
    | error y =>
      rw [hx] at hs
      exact hs
    | ok u =>
      rw [hx] at hs
      exact h.engage hs
  apply connect_cases (M := fun r => C r.session) rfl rfl
  · intro f u hx
    rw [hx] at hb
    exact hb
  · intro v f u hx hv
    rw [hx] at hb
    have hy := h.evaluated hb ⟨username, password⟩ (a.evaluate (s.engineConfig profile))
    rw [hv] at hy
    exact hy
  · intro v w f u hx hv hw
    rw [hx] at hb
    have hy := h.evaluated hb ⟨username, password⟩ (a.evaluate (s.engineConfig profile))
    rw [hv] at hy
    have hz := h.authenticated hy (a.authenticate ⟨username, password⟩)
    rw [hw] at hz
    exact hz
  · intro v w u hx hv hw
    rw [hx] at hb
    have hy := h.evaluated hb ⟨username, password⟩ (a.evaluate (s.engineConfig profile))
    rw [hv] at hy
    have hz := h.authenticated hy (a.authenticate ⟨username, password⟩)
    rw [hw] at hz
    exact hz

end Stages

theorem refuseWorker_sameRecord (s : Session) (text : String) :
    s.SameRecord (s.refuseWorker text) :=
  SameRecord.trans (u := { s.setPhase .connecting with worker := .absent })
    ((setPhase_sameRecord s .connecting).trans ⟨rfl, rfl, rfl⟩) (abort_sameRecord _ _)

theorem keptByStages_sameRecord (s : Session) : KeptByStages s.SameRecord where
  abort h f := h.trans (abort_sameRecord _ f)
  setPhase h := h.trans (setPhase_sameRecord _ _)
  startWorker h := h.trans (startWorker_sameRecord _)

theorem keptByStages_sameRelease (s : Session) : KeptByStages s.SameRelease where
  abort h f := h.trans (abort_sameStanding _ f).toSameRelease
  setPhase h := h.trans (setPhase_sameStanding _ (by decide)).toSameRelease
  startWorker h := h.trans (startWorker_sameRelease _)

theorem begin?_sameRecord (s : Session) (profile : String) :
    Stays s.SameRecord (s.begin? profile) := by
  cases hb : s.begin? profile with
  | error y =>
    obtain hy | hy := begin?_eq_error (f := y.1) (u := y.2) hb
    all_goals
      show s.SameRecord y.2
      rw [hy]
      exact ⟨rfl, rfl, rfl⟩
  | ok u =>
    obtain ⟨-, -, -, -, rfl⟩ := begin?_eq_ok hb
    exact SameRecord.trans
      (u := { s with connecting := true, stopRequested := false, lastError := none })
      ⟨rfl, rfl, rfl⟩ (setPhase_sameRecord _ _)

theorem connect_sameRelease (s : Session) (a : Answers) (profile username password : String) :
    s.SameRelease (s.connect a profile username password).session := by
  apply (keptByStages_sameRelease s).connect
  cases hb : s.begin? profile with
  | error y => exact (refused_sameStanding (f := y.1) (u := y.2) hb).toSameRelease
  | ok u => exact (begin?_sameStanding hb).toSameRelease

/-- A property of sessions that events, settings, the return of a worker and a stop keep. -/
structure Kept (I : Session → Prop) : Prop where
  hear : ∀ {s}, I s → ∀ e, I (s.hear e)
  settings : ∀ {s}, I s → ∀ x, I (s.storeSettings x)
  exit : ∀ {s}, I s → ∀ v, I (s.exit v)
  beginStop : ∀ {s}, I s → I s.beginStop
  endStop : ∀ {s}, I s → ∀ active left, I (s.endStop active left)

theorem kept_sameRecord (s : Session) : Kept s.SameRecord where
  hear h e := h.trans (hear_sameRecord _ e)
  settings h x := h.trans (storeSettings_sameRecord _ x)
  exit h _ := h.trans ⟨rfl, rfl, rfl⟩
  beginStop h := h.trans (beginStop_sameRecord _)
  endStop h active left := h.trans (endStop_sameRecord _ active left)

theorem kept_sameRelease (s : Session) : Kept s.SameRelease where
  hear h e := h.trans (hear_sameStanding _ e).toSameRelease
  settings h x := h.trans (storeSettings_sameStanding _ x).toSameRelease
  exit h v := h.trans (exit_sameRelease _ v)
  beginStop h := h.trans (beginStop_sameRelease _)
  endStop h active left := h.trans (endStop_sameRelease _ active left)

end Session

/-! ### Tunnels -/

namespace Session.Kept

open Tunnel (Act Reaction Socket host)
open Tun (Notice)

variable {I : Session → Prop} {t : Tunnel}

theorem report (h : Kept I) (ht : I t.session) (e : Event) : I (t.report e).session := by
  rw [Tunnel.session_report]
  split
  · exact ht
  · exact h.hear ht e

theorem finish (h : Kept I) (ht : I t.session) (v : Verdict) : I (t.finish v).session := by
  rw [Tunnel.session_finish]
  split
  · exact ht
  · exact h.exit ht v

theorem finishIf (h : Kept I) (ht : I t.session) (v : Option Verdict) :
    I (t.finishIf v).session := by
  cases v with
  | none => exact ht
  | some v => exact h.finish ht v

theorem tell (h : Kept I) (ht : I t.session) (x : Notice) : I (t.tell x).2.session := by
  rw [Tunnel.session_tell]
  split
  · cases x with
    | complete s => exact h.settings ht s
    | _ => exact ht
  · exact ht

theorem tearDown (ht : I t.session) : I t.tearDown.session := by
  unfold Tunnel.tearDown
  split
  · exact ht
  · exact ht

theorem openTransport (ht : I t.session) (remote : String) :
    I (Loopback.openTransport host remote t).session := by
  have hp : I (host.protect remote false t).2.session := by
    show I (t.protect .transport remote false).2.session
    rw [Tunnel.session_protect]
    exact ht
  unfold Loopback.openTransport
  split
  all_goals
    next hx =>
    rw [hx] at hp
    exact hp

theorem obey (h : Kept I) (ht : I t.session) (remote name : String) (c : Command) :
    I (Loopback.obey host remote name c t).session := by
  cases c with
  | stop => exact ht
  | reconnect => exact h.report (openTransport (h.report ht _) remote) _
  | pause reason => exact h.report ht _
  | resume => exact h.report ht _

theorem foldl_obey (h : Kept I) (ht : I t.session) (remote name : String) (cs : List Command) :
    I (cs.foldl (fun u c => Loopback.obey host remote name c u) t).session := by
  induction cs generalizing t with
  | nil => exact ht
  | cons c cs ih => exact ih (h.obey ht remote name c)

/-- A connection obeys the commands that wait. -/
theorem settle (h : Kept I) (ht : I t.session) : I t.settle.session := by
  cases he : t.engine with
  | scripted e =>
    simp only [Tunnel.settle, he]
    exact ht
  | loopback l k =>
    cases k with
    | up name =>
      have hs := h.foldl_obey ht (l.remote.getD "") name (Loopback.splitAtStop l.queue).1
      simp only [Tunnel.settle, he, Loopback.serve]
      cases (Loopback.splitAtStop l.queue).2 with
      | none => exact hs
      | some rest =>
        apply h.finish
        exact h.report (tearDown hs) _
    | _ =>
      simp only [Tunnel.settle, he]
      exact ht

theorem stopEngine (h : Kept I) (ht : I t.session) : I t.stopEngine.session :=
  h.finishIf (t := { t with engine := t.engine.stop.2 }) ht _

theorem disconnect (h : Kept I) (ht : I t.session) : I t.disconnect.session := by
  have hb : I t.beginStop.session := by
    rw [Tunnel.session_beginStop]
    exact h.beginStop ht
  have hw : I (if t.mustStop then t.beginStop.stopEngine else t.beginStop).session := by
    split
    · exact h.stopEngine hb
    · exact hb
  exact h.endStop (h.settle hw) _ _

/-! ### Devices that start -/

theorem react (h : Kept I) (ht : I t.session) (n : Nat) (r : Option Reaction) :
    I (t.react n r).2.session := by
  obtain hr | ⟨m, -, hr⟩ | hr := Tunnel.react_cases t n r <;> rw [hr]
  · exact ht
  · exact ht
  · exact h.disconnect ht

theorem announce (h : Kept I) (ht : I t.session) (n : Nat) (x : Notice) :
    I (t.announce n x).2.session := by
  have hx := h.tell ht x
  obtain ha | ⟨-, ha⟩ := Tunnel.announce_cases t n x
  · rw [ha]
    exact hx
  · rw [ha]
    exact h.react hx n _

theorem bringUp (h : Kept I) (ht : I t.session) (ds : List Directive) :
    I (Tunnel.bringUp ds t).2.session := by
  let n := t.bay.built
  let w : Tunnel := { t with bay := t.bay.build, own := some n }
  have hcall (c : Tun.Call) (x : Option (Except String Unit) × Tunnel) (hx : I x.2.session) :
      I (Tunnel.callOwn n c x).2.2.session := by
    cases c with
    | notice y => exact h.announce hx n y
    | prepare | connected | failed => exact hx
  obtain ⟨d, r, v, hd⟩ : ∃ d r v, t.bay.fresh.launch (Tunnel.callOwn n) ds (none, w) = (d, r, v) :=
    ⟨_, _, _, rfl⟩
  have hl : I (t.bay.fresh.launch (Tunnel.callOwn n) ds (none, w)).2.2.session :=
    Tun.Device.launch_keeps (I := fun x => I x.2.session) hcall ds t.bay.fresh (s := (none, w)) ht
  rw [hd] at hl
  rw [Tunnel.bringUp_of_launch hd]
  exact hl

/-! ### Connections on a worker -/

theorem reach (h : Kept I) (ht : I t.session) (remote : String) :
    I (Loopback.reach host remote t).session :=
  openTransport (h.report (h.report ht _) _) remote

theorem negotiate (h : Kept I) (ht : I t.session) (l : Loopback) :
    I (l.negotiate host t).session :=
  h.report (h.report (h.report ht _) _) _

theorem establish (h : Kept I) (ht : I t.session) (l : Loopback) :
    I (l.establish host Tunnel.bringUp t).2.session := by
  cases hr : l.remote with
  | none =>
    simp only [Loopback.establish, hr]
    exact ht
  | some remote =>
    have hreach := h.reach ht remote
    cases ha : l.accepts with
    | false =>
      simp only [Loopback.establish, hr, ha, Bool.false_eq_true, if_false]
      exact h.report hreach _
    | true =>
      have hb := h.bringUp (h.negotiate hreach l)
        (Directive.ofPushReply l.options.pushReply.toList)
      simp only [Loopback.establish, hr, ha, if_true]
      split
      · next hu =>
        rw [hu] at hb
        exact h.report hb _
      · next v hu =>
        rw [hu] at hb
        exact h.report (tearDown hb) _

theorem proceed (h : Kept I) (ht : I t.session) : I t.proceed.session := by
  cases he : t.engine with
  | loopback l k =>
    simp only [Tunnel.proceed, he]
    exact ht
  | scripted e =>
    simp only [Tunnel.proceed, he]
    exact h.finishIf (t := { t with engine := .scripted e.proceed.2 }) ht _

theorem askFirst (h : Kept I) (ht : I t.session) : I t.askFirst.session := by
  unfold Tunnel.askFirst
  split
  · split
    · exact ht
    · apply h.proceed
      rw [Tunnel.session_protect]
      exact ht
  · exact ht

/-- A connection on the worker, as far as it goes. -/
theorem run (h : Kept I) (ht : I t.session) : I t.run.session := by
  cases he : t.engine with
  | scripted e =>
    have hr : t.run = ({ t.note .run with engine := .scripted e.start } : Tunnel).askFirst := by
      simp only [Tunnel.run, show (t.note .run).engine = .scripted e from he]
    rw [hr]
    exact h.askFirst ht
  | loopback l k =>
    let w : Tunnel := { t.note .run with engine := .loopback l .opening }
    have hw : I (l.establish host Tunnel.bringUp w).2.session := h.establish (t := w) ht l
    have hn : (t.note .run).engine = .loopback l k := he
    obtain ⟨r, u, hb⟩ : ∃ r u, l.establish host Tunnel.bringUp w = (r, u) := ⟨_, _, rfl⟩
    rw [hb] at hw
    have hb : l.establish host Tunnel.bringUp
      { t.note .run with engine := .loopback l .opening } = (r, u) := hb
    cases r with
    | ok device =>
      simp only [Tunnel.run, hn, hb]
      exact h.settle (t := { u with engine := u.engine.withLink (.up device) }) hw
    | error e =>
      simp only [Tunnel.run, hn, hb]
      exact h.finish (t := { u with engine := u.engine.withLink .down }) hw _

/-! ### What the application calls -/

theorem carryOut (h : Kept I) (ht : I t.session) (r : Session.Request) :
    I (t.carryOut r).session := by
  cases r with
  | evaluate c => exact ht
  | authenticate k => exact ht
  | run => exact h.run ht

/-- An attempt, as far as the session lets it go. -/
theorem connect (h : Kept I) {profile username password : String}
    (ht : I (t.session.connect (Tunnel.answers t.engine) profile username password).session) :
    I (t.connect profile username password).2.session := by
  let a := t.session.connect (Tunnel.answers t.engine) profile username password
  have hfold (rs : List Session.Request) {u : Tunnel} (hu : I u.session) :
      I (rs.foldl Tunnel.carryOut u).session := by
    induction rs generalizing u with
    | nil => exact hu
    | cons r rs ih => exact ih (h.carryOut hu r)
  exact hfold a.requests (u := { t with session := a.session }) ht

theorem command (h : Kept I) (ht : I t.session) (a : Act) (c : Command) :
    I (t.command a c).session := by
  unfold Tunnel.command
  split
  · exact ht
  · apply h.settle
    show I (t.order a).session
    rw [Tunnel.session_order]
    exact ht

/-- A restart of the transport, with what the engine makes of it. -/
theorem reconnect (h : Kept I) (ht : ∀ r, I (t.session.reconnect r).2) :
    I t.reconnect.2.session := by
  unfold Tunnel.reconnect
  split
  · apply h.settle
    exact ht t.engine.reconnect.1
  · exact ht (.ok ())

end Session.Kept

namespace Moment

/-! ### Names -/

theorem goOn_stays {C : Session → Prop} {m : Moment} {x : Except (Fault × Session) Session}
    (hx : Session.Stays C x) (next : Call) : C (m.goOn x next).session := by
  cases x with
  | ok u => exact hx
  | error y => exact hx

/-- A tunnel keeps its name, whatever happens to it. -/
theorem Step.id_eq {m n : Moment} {x : Move} (h : m.Step x n) : n.session.id = m.session.id := by
  have ha := h.alike
  have hs := Session.keptByStages_sameRecord m.session
  cases h with
  | line | protection | answered | owner | elsewhere | pause | resume | ask =>
    rw [(ha rfl).session]
  | event e =>
    exact report_keeps (C := fun u => u.id = m.session.id) rfl (Session.hear_sameRecord _ e).id
  | notice x =>
    exact tell_keeps (C := fun u => u.id = m.session.id) rfl
      (fun s => (Session.storeSettings_sameRecord _ s).id) x
  | returned v hr => exact finish_keeps (C := fun u => u.id = m.session.id) rfl rfl
  | @refused hf profile f s hb =>
    have hx := Session.begin?_sameRecord m.session profile
    rw [hb] at hx
    exact hx.id
  | @admitted hf profile s k hb =>
    have hx := Session.begin?_sameRecord m.session profile
    rw [hb] at hx
    exact (goOn_stays (hs.engage hx) _).id
  | @evaluated c k r hc =>
    exact (goOn_stays (m := m.map (·.note (.evaluate c r))) (hs.evaluated (.refl _) k r) _).id
  | @declined k e hc => exact (hs.abort (.refl m.session) _).id
  | started hc => exact (hs.startWorker (.refl m.session)).id
  | unstarted text hc => exact (Session.refuseWorker_sameRecord m.session text).id
  | restart hf answer =>
    show (m.session.reconnect answer).2.id = _
    rw [Session.reconnect_eq]
  | stop hf | releaseStop hc =>
    rw [session_beginStop]
    exact (Session.beginStop_sameRecord _).id
  | stopped hc => exact (Session.endStop_sameRecord m.session _ _).id
  | stopInside hr hg =>
    rw [session_stopInside]
    exact ((Session.beginStop_sameRecord _).trans (Session.endStop_sameRecord _ _ _)).id
  | release hf =>
    unfold Moment.beginRelease
    split <;> rfl
  | abandon hf =>
    unfold Moment.beginRelease
    split <;> rfl
  | released hc => exact (Session.endRelease_sameRecord m.session).id

theorem Run.id_eq {P : Moment → Move → Prop} {m n : Moment} (h : Run P m n) :
    n.session.id = m.session.id :=
  h.keeps (I := fun a => a.session.id = m.session.id) (fun _ hx ha => hx.id_eq.trans ha) rfl

end Moment

end TunnelRelay
