import TunnelRelay.Proofs.Life.Agreement

/-!
# Attempts and phases, whatever engines report

An engine may report a connection while it evaluates a profile or takes credentials. The attempt
may fail all the same, and then the session keeps the flag of the connection in a phase that tells
of none. The flag of an attempt is never left behind in this way.

## Main definitions

- `Session.Calm` — a phase that tells of no attempt has none
- `Session.Calms` — a change that keeps this and begins no attempt

## Main statements

- `Moment.Step.calm`, `Moment.Reachable.calm` — the invariant is kept
- `Moment.exists_failed_connected` — the same is not true of a connection
-/

namespace TunnelRelay

open Engine (Config Credentials Event Failure ProfileInfo Verdict)

/-- In a phase in which there is neither a connection nor an attempt, there is no attempt. -/
def Session.Calm (s : Session) : Prop := s.phase.isQuiet → s.connecting = false

/-- A change that keeps a session calm and begins no attempt. -/
structure Session.Calms (s u : Session) : Prop where
  calm : s.Calm → u.Calm
  connecting : s.connecting = false → u.connecting = false

namespace Session

theorem Calms.trans {s u v : Session} (h : s.Calms u) (k : u.Calms v) : s.Calms v :=
  ⟨fun hs => k.calm (h.calm hs), fun hs => k.connecting (h.connecting hs)⟩

theorem calms_of_eq {s u : Session} (hp : u.phase = s.phase)
    (hg : u.connecting = s.connecting) : s.Calms u := by
  refine ⟨fun hs hq => ?_, hg.trans⟩
  rw [hp] at hq
  exact hg.trans (hs hq)

theorem Calms.refl (s : Session) : s.Calms s := calms_of_eq rfl rfl

/-- A session without an attempt is calm in every phase. -/
theorem calms_of_clear {s u : Session} (hg : u.connecting = false) : s.Calms u :=
  ⟨fun _ _ => hg, fun _ => hg⟩

theorem setPhase_calms (s : Session) {p : Phase} (hp : p.isQuiet = false) :
    s.Calms (s.setPhase p) := by
  by_cases hd : s.phase = .destroyed
  · rw [setPhase_of_destroyed hd]
    exact .refl s
  · refine ⟨fun _ hq => ?_, (connecting_setPhase s p).trans⟩
    rw [phase_setPhase hd, hp] at hq
    cases hq

theorem connecting_fail (s : Session) (text : String) : (s.fail text).connecting = false :=
  connecting_setPhase ..

theorem follow_calms (s : Session) (e : Event) : s.Calms (s.follow e) := by
  unfold follow
  split
  case h_1 => exact calms_of_clear (connecting_setPhase ..)
  case h_2 =>
    refine calms_of_clear ?_
    dsimp only
    split <;> rfl
  case h_3 => exact setPhase_calms s rfl
  case h_4 => exact calms_of_clear (connecting_fail ..)
  case h_5 =>
    split
    · exact calms_of_clear (connecting_fail ..)
    · split
      · exact .refl s
      · exact setPhase_calms s rfl
  case h_6 | h_7 =>
    dsimp only
    split
    · exact calms_of_clear (connecting_fail ..)
    · exact calms_of_eq rfl rfl
  case h_8 => exact .refl s

theorem hear_calms (s : Session) (e : Event) : s.Calms (s.hear e) := by
  have hr : s.Calms (s.remember e) := by
    rw [remember_eq]
    exact calms_of_eq rfl rfl
  cases hd : s.destroying with
  | true =>
    rw [hear_of_destroying hd]
    exact .refl s
  | false =>
    rw [hear_of_not_destroying hd]
    split
    · exact hr
    · exact hr.trans (follow_calms _ e)

theorem begin?_calm {s u : Session} (hp : s.phase ≠ .destroyed) {profile : String}
    (hb : s.begin? profile = .ok u) : u.Calm := by
  obtain ⟨-, -, -, -, rfl⟩ := begin?_eq_ok hb
  intro hq
  rw [phase_setPhase] at hq
  · cases hq
  · exact hp

/-- An attempt that ends leaves nothing behind, and one that goes on is as calm as it was. -/
def EndsCalm (s : Session) : Except (Fault × Session) Session → Prop
  | .error (_, u) => u.connecting = false
  | .ok u => s.Calms u

theorem engage_endsCalm (s : Session) : s.EndsCalm s.engage := by
  unfold engage
  split
  · exact connecting_abort ..
  · exact Calms.refl s

theorem evaluated_endsCalm (s : Session) (k : Credentials) (r : Except Failure ProfileInfo) :
    s.EndsCalm (s.evaluated k r) := by
  cases r with
  | error e => exact connecting_abort ..
  | ok i =>
    simp only [evaluated]
    split
    · exact connecting_abort ..
    · exact setPhase_calms s rfl

theorem endStop_calms {s : Session} (hg : s.connecting = false) (active left : Bool) :
    s.Calms (s.endStop active left) := by
  refine calms_of_clear ?_
  cases active <;> cases left <;> simp [endStop, hg]

end Session

namespace Moment

/-- The session is calm, and has no attempt while a stop is in progress. -/
structure Calm (m : Moment) : Prop where
  session : m.session.Calm
  stop : m.call.isStop → m.session.connecting = false

theorem Calm.of_calms {m n : Moment} (h : m.Calm) (hs : m.session.Calms n.session)
    (hc : n.call.isStop → m.call.isStop) : n.Calm :=
  ⟨hs.calm h.session, fun hn => hs.connecting (h.stop (hc hn))⟩

/-- Without an attempt, a moment is calm in every call. -/
theorem calm_of_clear {n : Moment} (hg : n.session.connecting = false) : n.Calm :=
  ⟨fun _ => hg, fun _ => hg⟩

theorem Calm.goOn {m : Moment} (h : m.session.Calm) {x : Except (Fault × Session) Session}
    (hx : m.session.EndsCalm x) {next : Call} (hn : next.isStop = false) :
    (m.goOn x next).Calm := by
  cases x with
  | error y => exact calm_of_clear hx
  | ok u =>
    refine ⟨hx.calm h, fun hs => ?_⟩
    rw [show (m.goOn (.ok u) next).call = next from rfl, hn] at hs
    cases hs

theorem Step.calm_of_attempt {m n : Moment} {x : Move} (h : m.Step x n) (hx : x.isAttempt)
    (hs : m.Sound) (hm : m.Calm) : n.Calm := by
  cases h with
  | @admitted hf profile s k hb =>
    have hcalm := Session.begin?_calm (hs.phase_ne (Session.begin?_eq_ok hb).1) hb
    exact Calm.goOn (m := m.put s) hcalm (Session.engage_endsCalm s) rfl
  | @evaluated c k r hc =>
    exact Calm.goOn (m := m.map (·.note (.evaluate c r))) hm.session
      (Session.evaluated_endsCalm m.session k r) rfl
  | declined e hc => exact calm_of_clear (Session.connecting_abort ..)
  | started hc =>
    have hw : m.session.Calms m.session.startWorker :=
      (Session.setPhase_calms m.session rfl).trans (Session.calms_of_eq rfl rfl)
    exact ⟨hw.calm hm.session, Bool.noConfusion⟩
  | unstarted text hc =>
    have hg : (m.session.refuseWorker text).connecting = false := Session.connecting_abort ..
    exact calm_of_clear hg
  | _ => cases hx

theorem Step.calm_of_stop {m n : Moment} {x : Move} (h : m.Step x n) (hx : x.isStop)
    (hm : m.Calm) : n.Calm := by
  have hbegin : m.session.beginStop.connecting = false := (Session.atRest_beginStop _).connecting
  cases h with
  | stop hf | releaseStop hc =>
    refine calm_of_clear ?_
    rw [session_beginStop]
    exact hbegin
  | stopped hc =>
    have hg := hm.stop (by rw [hc]; rfl)
    exact calm_of_clear ((Session.endStop_calms hg _ _).connecting hg)
  | stopInside hr hg =>
    refine calm_of_clear ?_
    rw [session_stopInside]
    exact (Session.endStop_calms hbegin _ _).connecting hbegin
  | _ => cases hx

theorem Step.calm_of_release {m n : Moment} {x : Move} (h : m.Step x n) (hx : x.isRelease)
    (hm : m.Calm) : n.Calm := by
  have hbegin {k : Moment} (hk : k.Calm) : k.beginRelease.Calm := by
    unfold Moment.beginRelease
    split
    · exact hk
    · exact hk.of_calms (Session.calms_of_eq rfl rfl) Bool.noConfusion
  cases h with
  | release hf => exact hbegin hm
  | abandon hf => exact hbegin (hm.of_calms (.refl _) id)
  | released hc =>
    refine calm_of_clear ?_
    show m.session.endRelease.connecting = false
    rw [Session.endRelease, Session.connecting_setPhase]
    exact hm.stop (by rw [hc]; rfl)
  | _ => cases hx

theorem Step.calms {m n : Moment} {x : Move} (h : m.Step x n) (hx : x.isBrief) :
    m.session.Calms n.session := by
  have ha := h.alike
  cases h with
  | line | protection | answered | owner | elsewhere | pause | resume | ask =>
    exact (ha rfl).session ▸ .refl _
  | event e => exact report_keeps (.refl _) (Session.hear_calms _ e)
  | notice x =>
    refine tell_keeps (C := m.session.Calms) (.refl _) (fun s => ?_) x
    rw [Session.storeSettings_eq]
    exact Session.calms_of_eq rfl rfl
  | refused hf hb =>
    obtain rfl | rfl := Session.begin?_eq_error hb
    · exact .refl _
    · exact Session.calms_of_eq rfl rfl
  | restart hf answer =>
    show m.session.Calms (m.session.reconnect answer).2
    rw [Session.reconnect_eq]
    exact Session.calms_of_eq rfl rfl
  | _ => cases hx

/-- **Every step keeps a moment calm**, whatever the engine reports. -/
theorem Step.calm {m n : Moment} {x : Move} (h : m.Step x n) (hs : m.Sound) (hm : m.Calm) :
    n.Calm := by
  cases x with
  | admitted | evaluated | declined | started | unstarted => exact h.calm_of_attempt rfl hs hm
  | stop | stopped | stopInside | releaseStop => exact h.calm_of_stop rfl hm
  | release | abandon | released => exact h.calm_of_release rfl hm
  | returned v =>
    cases h with
    | returned _ hr =>
      exact hm.of_calms (finish_keeps (.refl _) (Session.calms_of_clear rfl)) id
  | _ =>
    have hc := (h.sameStanding rfl).2.1
    exact hm.of_calms (h.calms rfl) (hc ▸ id)

theorem calm_of_create {id : String} {prefs : Preferences} {e : Engine}
    {a : Tunnel.Application} {t : Tunnel} (h : Tunnel.create id prefs e a = .ok t) :
    ({ tunnel := t } : Moment).Calm := by
  have hs : ({ tunnel := t } : Moment).session = { id, prefs } := (Tunnel.create_eq_ok h).1
  refine calm_of_clear ?_
  rw [hs]

theorem Reachable.calm {P : Moment → Move → Prop} {m : Moment} (h : m.Reachable P) : m.Calm :=
  (h.keeps (I := fun a => a.Sound ∧ a.Calm)
    (fun ht => ⟨sound_of_create ht, calm_of_create ht⟩)
    fun _ hx ⟨hs, ha⟩ => ⟨hx.sound hs, hx.calm hs ha⟩).2

/-- A connection is reported while the engine takes the credentials, and then it does not take
them: the session has failed, keeps the flag, and agrees to a restart. -/
theorem exists_failed_connected : ∃ m : Moment, m.Reachable Anyhow ∧ m.Free ∧
    m.running = 0 ∧ m.tunnel.engine.isBusy = false ∧ m.session.id = "office" ∧
    m.session.phase = .failed ∧ m.session.connected ∧ m.tunnel.reconnect.1 = .ok true := by
  let k : Credentials := ⟨"user", "secret"⟩
  let c : Config := fresh.session.engineConfig "client"
  let s : Session := { fresh.session with connecting := true, phase := .configuring }
  let a : Moment := { fresh.put s with call := .evaluating c k }
  let b : Moment := { (a.map (·.note (.evaluate c (.ok {})))).put
    (s.setPhase .authenticating) with call := .authenticating k }
  have ha : fresh.Step .admitted a := Step.admitted (s := s) ⟨rfl, rfl⟩ k rfl
  have hb : a.Step (.evaluated (.ok {})) b := Step.evaluated (m := a) (.ok {}) rfl
  have hc := Step.event (m := b) ⟨.connected, "", false, false⟩
  have hd := Step.declined (m := b.map (·.report ⟨.connected, "", false, false⟩)) (k := k)
    ⟨"authentication failed", false⟩ rfl
  exact ⟨_, reachable_fresh.run (.step ha trivial (.step hb trivial (.step hc trivial
    (.step hd trivial .refl)))), ⟨rfl, rfl⟩, rfl, rfl, rfl, by decide +kernel,
    rfl, rfl⟩

end Moment

end TunnelRelay
