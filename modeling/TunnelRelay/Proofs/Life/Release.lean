import TunnelRelay.Proofs.Life.Rest

/-!
# Steps after the beginning of a release

From the moment a release begins, no step of a tunnel calls anybody back, and none remembers
anything. Once it has ended, the session stays as it is, and its engine is left alone.

## Main definitions

- `Tunnel.callbacks`, `Tunnel.requests` — what the application and the engine were called for
- `Moment.Closing` — a release has begun
- `Moment.Muted` — a change after a release has begun
- `Session.Ended` — a release has ended
- `Session.Sealed`, `Moment.Sealed` — a change after a release has ended

## Main statements

- `Moment.Step.muted` — from the beginning of a release on
- `Moment.Step.sealed` — from its end on
- `Moment.Reachable.ended` — a release that is over has ended

## Design notes

Nothing is assumed here about the worker, and nothing about an attempt that may be in flight, so
that it all holds as well when other threads connect and stop the session meanwhile.
-/

namespace TunnelRelay

open Engine (Config Credentials Event Failure ProfileInfo Verdict)

/-- The application was called: one of its observers, or its protector. -/
def Tunnel.Act.isCallback : Act → Bool
  | called (.notice _) | asked _ | queried _ => true
  | _ => false

/-- A method of the engine was called through the session. -/
def Tunnel.Act.isRequest : Act → Bool
  | evaluate _ _ | authenticate _ | run | stop | reconnect _ | pause _ | resume => true
  | _ => false

/-- What a session does not notice while it is being released. -/
def Move.isUnnoticed : Move → Bool
  | event _ | line _ | protection _ | answered | notice _ | owner _ | elsewhere | refused _
  | ask _ | release | abandon => true
  | _ => false

/-- What the application was called for, the latest first. -/
def Tunnel.callbacks (t : Tunnel) : List Tunnel.Act := t.acts.filter Tunnel.Act.isCallback

/-- What the engine was called for, the latest first. -/
def Tunnel.requests (t : Tunnel) : List Tunnel.Act := t.acts.filter Tunnel.Act.isRequest

namespace Tunnel

theorem callbacks_note {t : Tunnel} {a : Act} (h : a.isCallback = false) :
    (t.note a).callbacks = t.callbacks := by simp [callbacks, h]

theorem requests_note {t : Tunnel} {a : Act} (h : a.isRequest = false) :
    (t.note a).requests = t.requests := by simp [requests, h]

theorem isCallback_called {c : Tun.Call} (h : ∀ x, c ≠ .notice x) :
    (Act.called c).isCallback = false := by
  cases c with
  | notice x => exact absurd rfl (h x)
  | _ => rfl

theorem acts_order (t : Tunnel) (a : Act) :
    (t.order a).acts = if t.session.released then t.acts else a :: t.acts := by
  cases h : t.session.released <;> simp [order, h]

theorem acts_restart (t : Tunnel) (r : Except Failure Unit) :
    (t.restart r).2.acts = if t.mustRestart then .reconnect 0 :: t.acts else t.acts := by
  cases h : t.mustRestart <;> simp [restart, h]

end Tunnel

namespace Session

/-- The two sessions remember the same, and the release goes on. No connection is reported. -/
structure Remembers (s u : Session) : Prop where
  destroying : s.destroying → u.destroying
  events : u.events = s.events
  settings : u.settings = s.settings
  connected : s.connected = false → u.connected = false

/-- Besides, no attempt begins. -/
structure Subsides (s u : Session) : Prop extends s.Remembers u where
  connecting : s.connecting = false → u.connecting = false

theorem Remembers.refl (s : Session) : s.Remembers s := ⟨fun h => h, rfl, rfl, fun h => h⟩

theorem Remembers.trans {s u v : Session} (h : s.Remembers u) (k : u.Remembers v) :
    s.Remembers v :=
  ⟨fun hs => k.destroying (h.destroying hs), k.events.trans h.events,
    k.settings.trans h.settings, fun hs => k.connected (h.connected hs)⟩

theorem Subsides.refl (s : Session) : s.Subsides s := ⟨.refl s, fun h => h⟩

theorem Subsides.trans {s u v : Session} (h : s.Subsides u) (k : u.Subsides v) : s.Subsides v :=
  ⟨h.toRemembers.trans k.toRemembers, fun hs => k.connecting (h.connecting hs)⟩

theorem setPhase_subsides (s : Session) (p : Phase) : s.Subsides (s.setPhase p) := by
  refine ⟨⟨?_, events_setPhase s p, settings_setPhase s p, ?_⟩, ?_⟩
  · rw [destroying_setPhase]
    exact fun h => h
  · rw [connected_setPhase]
    exact fun h => h
  · rw [connecting_setPhase]
    exact fun h => h

theorem reconnect_subsides (s : Session) (answer : Except Failure Unit) :
    s.Subsides (s.reconnect answer).2 := by
  rw [reconnect_eq]
  exact ⟨⟨fun h => h, rfl, rfl, fun h => h⟩, fun h => h⟩

theorem beginStop_subsides (s : Session) : s.Subsides s.beginStop := by
  have hs : s.Subsides { s with stopRequested := true } :=
    ⟨⟨fun h => h, rfl, rfl, fun h => h⟩, fun h => h⟩
  have hp := hs.trans (setPhase_subsides _ .disconnecting)
  unfold beginStop
  cases s.isActive
  · exact ⟨⟨hs.destroying, hs.events, hs.settings, fun _ => rfl⟩, fun _ => rfl⟩
  · exact ⟨⟨hp.destroying, hp.events, hp.settings, fun _ => rfl⟩, fun _ => rfl⟩

theorem endStop_subsides (s : Session) (active left : Bool) :
    s.Subsides (s.endStop active left) := by
  have hs : s.Subsides (if left then { s with worker := .running } else s) := by
    cases left
    · exact .refl s
    · exact ⟨⟨fun h => h, rfl, rfl, fun h => h⟩, fun h => h⟩
  cases active
  · exact hs
  · exact hs.trans (setPhase_subsides _ .idle)

theorem endRelease_subsides (s : Session) : s.Subsides s.endRelease :=
  Subsides.trans (u := { s with released := true })
    ⟨⟨fun h => h, rfl, rfl, fun h => h⟩, fun h => h⟩ (setPhase_subsides _ .destroyed)

/-- The sessions are the same, but for the worker, the request of a stop, and an attempt that may
have ended. -/
structure Sealed (s u : Session) : Prop where
  eq : u = { s with
    worker := u.worker
    stopRequested := u.stopRequested
    connecting := u.connecting }
  connecting : s.connecting = false → u.connecting = false

theorem Sealed.refl (s : Session) : s.Sealed s := ⟨rfl, fun h => h⟩

theorem Sealed.trans {s u v : Session} (h : s.Sealed u) (k : u.Sealed v) : s.Sealed v := by
  refine ⟨?_, fun hs => k.connecting (h.connecting hs)⟩
  rw [k.eq, h.eq]

/-- The release has ended: the last phase is reached, and there is no connection. -/
structure Ended (s : Session) : Prop where
  released : s.released
  phase : s.phase = .destroyed
  connected : s.connected = false

theorem Ended.of_sealed {s u : Session} (h : s.Ended) (k : s.Sealed u) : u.Ended := by
  rw [k.eq]
  exact ⟨h.released, h.phase, h.connected⟩

theorem Ended.exit {s : Session} (h : s.Ended) (v : Verdict) : s.Sealed (s.exit v) := by
  have hp : s.phase.afterReturn v = s.phase := by
    rw [h.phase]
    cases v <;> rfl
  have he : s.errorAfterReturn v = s.lastError := by
    cases v with
    | ok => rfl
    | error e => exact if_pos (.inr h.phase)
  exact ⟨Session.ext rfl rfl hp h.connected.symm rfl rfl rfl rfl he rfl rfl rfl rfl, fun _ => rfl⟩

theorem Ended.beginStop {s : Session} (h : s.Ended) : s.Sealed s.beginStop := by
  have hp (active : Bool) : (if active then
      ({ s with stopRequested := true } : Session).setPhase .disconnecting
      else { s with stopRequested := true }) = { s with stopRequested := true } := by
    cases active
    · rfl
    · exact setPhase_of_destroyed (s := { s with stopRequested := true }) h.phase _
  refine ⟨?_, fun _ => rfl⟩
  unfold Session.beginStop
  dsimp only
  rw [hp]
  exact Session.ext rfl rfl rfl h.connected.symm rfl rfl rfl rfl rfl rfl rfl rfl rfl

theorem Ended.endStop {s : Session} (h : s.Ended) (active left : Bool) :
    s.Sealed (s.endStop active left) := by
  have hs : s.Sealed (if left then { s with worker := .running } else s) := by
    cases left
    · exact .refl s
    · exact ⟨rfl, fun h => h⟩
  unfold Session.endStop
  cases active
  · exact hs
  · dsimp only
    rw [if_pos rfl, setPhase_of_destroyed (h.of_sealed hs).phase]
    exact hs

/-- The engine is not asked for a restart once it was given up. -/
theorem reconnect_of_released {s : Session} (h : s.released) (answer : Except Failure Unit) :
    (s.reconnect answer).2 = s := by
  unfold reconnect
  rw [if_pos h]
  split <;> rfl

theorem Ended.reconnect {s : Session} (h : s.Ended) (hg : s.connecting = false)
    (answer : Except Failure Unit) : s.reconnect answer = (.ok false, s) := by
  simp [Session.reconnect, canReconnect, h.connected, hg]

end Session

namespace Moment

/-- A change after a release has begun. -/
structure Muted (m n : Moment) : Prop where
  session : m.session.Subsides n.session
  callbacks : n.tunnel.callbacks = m.tunnel.callbacks

theorem isLive_of_destroying {m : Moment} (h : m.session.destroying) : m.tunnel.isLive = false := by
  have h : m.tunnel.session.destroying = true := h
  simp [Tunnel.isLive, h]

/-- A release has begun. It is in progress, or it has ended. -/
structure Closing (m : Moment) : Prop where
  destroying : m.session.destroying
  attempt : m.call.isAttempt = false
  release : m.call.isRelease → m.session.released = false
  released : m.session.released ∨ m.call.isRelease
  phase : m.session.phase = .destroyed ↔ m.session.released

theorem Guarded.closing {m : Moment} (h : m.Guarded) (hd : m.session.destroying) : m.Closing where
  destroying := hd
  attempt := Bool.eq_false_iff.mpr fun ha => Bool.noConfusion ((h.attempt ha).symm.trans hd)
  release := fun hc => (h.release hc).2
  released := h.destroying hd
  phase := h.phase

/-- A release that is not in progress has ended. -/
theorem Closing.released_of_none {m : Moment} (h : m.Closing) (hc : m.call = .none) :
    m.session.released := by
  refine h.released.resolve_right ?_
  rw [hc]
  exact Bool.false_ne_true

/-- Neither the session nor the application nor the engine has part in the change. -/
structure Unnoticed (m n : Moment) : Prop where
  session : n.session = m.session
  callbacks : n.tunnel.callbacks = m.tunnel.callbacks
  requests : n.tunnel.requests = m.tunnel.requests

theorem Step.unnoticed {m n : Moment} {x : Move} (h : m.Step x n) (hm : m.Closing)
    (hx : x.isUnnoticed) : m.Unnoticed n := by
  have hd := hm.destroying
  have hl := isLive_of_destroying hd
  cases h with
  | event e =>
    refine ⟨?_, ?_, ?_⟩
    · exact Tunnel.session_report_of_not_live hl e
    · show (m.tunnel.report e).callbacks = _
      rw [Tunnel.callbacks, Tunnel.acts_report]
      rfl
    · show (m.tunnel.report e).requests = _
      rw [Tunnel.requests, Tunnel.acts_report]
      rfl
  | line | answered | elsewhere => exact ⟨rfl, rfl, rfl⟩
  | protection x remote ipv6 =>
    have hp : m.map (fun t => (t.protect x remote ipv6).2) =
        m.map (·.note (.protection remote ipv6 false)) := by
      simp only [map, Tunnel.protect_of_not_live hl]
    rw [hp]
    exact ⟨rfl, rfl, rfl⟩
  | notice x =>
    have hp : m.map (fun t => (t.tell x).2) = m := by
      simp only [map, Tunnel.tell_of_not_live hl]
    rw [hp]
    exact ⟨rfl, rfl, rfl⟩
  | owner c hc =>
    exact ⟨rfl, Tunnel.callbacks_note (Tunnel.isCallback_called hc), Tunnel.requests_note rfl⟩
  | refused hf hb =>
    rw [Session.begin?_of_destroying hd] at hb
    cases hb
    exact ⟨rfl, rfl, rfl⟩
  | ask hf x =>
    -- Nobody can call the session before the release has ended.
    have hr : m.tunnel.session.released := hm.released_of_none hf.1
    have hp : m.map (fun t => (t.ask x).2) = m := by
      simp only [map, Tunnel.ask_of_released hr]
    rw [hp]
    exact ⟨rfl, rfl, rfl⟩
  | release hf =>
    rw [Moment.beginRelease, if_pos hd]
    exact ⟨rfl, rfl, rfl⟩
  | abandon hf =>
    have hg : (m.map fun t => { t with gone := true }).session.destroying := hd
    rw [Moment.beginRelease, if_pos hg]
    exact ⟨rfl, rfl, rfl⟩
  | _ => cases hx

theorem Step.isAttempt_of_closing {m n : Moment} {x : Move} (h : m.Step x n) (hm : m.Closing) :
    x.isAttempt = false := by
  have ha := hm.attempt
  cases h with
  | admitted hf k hb =>
    rw [Session.begin?_of_destroying hm.destroying] at hb
    cases hb
  | evaluated r hc | declined e hc | started hc | unstarted text hc =>
    rw [hc] at ha
    cases ha
  | _ => rfl

/-- **A release that has begun silences every step.** -/
theorem Step.muted {m n : Moment} {x : Move} (h : m.Step x n) (hm : m.Closing) : m.Muted n := by
  have unnoticed := h.unnoticed hm
  have attempt := h.isAttempt_of_closing hm
  have hbegin : m.tunnel.beginStop.callbacks = m.tunnel.callbacks := by
    rw [Tunnel.callbacks, Tunnel.acts_beginStop]
    split <;> rfl
  cases h with
  | event | line | protection | answered | notice | owner | elsewhere | refused | ask | release
  | abandon =>
    have hu := unnoticed rfl
    exact ⟨hu.session ▸ .refl _, hu.callbacks⟩
  | admitted | evaluated | declined | started | unstarted => cases attempt
  | returned v hr =>
    refine ⟨?_, ?_⟩
    · exact finish_keeps (C := m.session.Subsides) (.refl _)
        ⟨⟨fun h => h, rfl, rfl, fun _ => rfl⟩, fun _ => rfl⟩
    · show (m.tunnel.finish v).callbacks = _
      rw [Tunnel.callbacks, Tunnel.acts_finish]
      rfl
  | restart hf answer =>
    refine ⟨Session.reconnect_subsides m.session answer, ?_⟩
    show (m.tunnel.restart answer).2.callbacks = _
    rw [Tunnel.callbacks, Tunnel.acts_restart]
    split <;> rfl
  | pause hf reason | resume hf =>
    refine ⟨?_, ?_⟩
    · show m.session.Subsides (m.tunnel.order _).session
      rw [Tunnel.session_order]
      exact .refl _
    · show (m.tunnel.order _).callbacks = _
      rw [Tunnel.callbacks, Tunnel.acts_order]
      split <;> rfl
  | stop hf | releaseStop hc =>
    refine ⟨?_, hbegin⟩
    rw [session_beginStop]
    exact Session.beginStop_subsides _
  | stopped hc => exact ⟨Session.endStop_subsides _ _ _, rfl⟩
  | stopInside hr hg =>
    refine ⟨?_, hbegin⟩
    rw [session_stopInside]
    exact (Session.beginStop_subsides _).trans (Session.endStop_subsides _ _ _)
  | released hc => exact ⟨Session.endRelease_subsides _, rfl⟩

/-- The flag is down, unless the release has to request its stop yet. -/
def Lowered (flag : Session → Bool) (m : Moment) : Prop :=
  m.call = .releasing ∨ flag m.session = false

theorem Lowered.of_none {flag : Session → Bool} {m : Moment} (h : m.Lowered flag)
    (hc : m.call = .none) : flag m.session = false := by
  refine h.resolve_left ?_
  rw [hc]
  exact Moment.Call.noConfusion

theorem Step.lowered {flag : Session → Bool} (stop : ∀ s : Session, flag s.beginStop = false)
    {m n : Moment} {x : Move} (h : m.Step x n)
    (stays : flag m.session = false → flag n.session = false) (hm : m.Lowered flag) :
    n.Lowered flag := by
  obtain hc | hf := hm
  · cases h with
    | event | line | protection | answered | notice | owner | elsewhere | returned | stopInside =>
      exact .inl hc
    | releaseStop =>
      refine .inr ?_
      rw [session_beginStop]
      exact stop m.session
    -- Nobody can call the session while the stop of the release is due.
    | refused hf | admitted hf | restart hf | pause hf | resume hf | ask hf | stop hf | release hf
    | abandon hf => cases hf.1.symm.trans hc
    | evaluated _ hk | declined _ hk | started hk | unstarted _ hk | stopped hk | released hk =>
      cases hk.symm.trans hc
  · exact .inr (stays hf)

/-- Both flags are down, unless the release has to request its stop yet. -/
structure Flagless (m : Moment) : Prop where
  connected : m.Lowered Session.connected
  connecting : m.Lowered Session.connecting

theorem Step.flagless {m n : Moment} {x : Move} (h : m.Step x n) (hm : m.Closing)
    (hf : m.Flagless) : n.Flagless where
  connected := h.lowered (fun _ => rfl) (h.muted hm).session.connected hf.connected
  connecting := h.lowered (fun _ => rfl) (h.muted hm).session.connecting hf.connecting

/-- A release that has requested its stop leaves no flag. -/
def Unflagged (m : Moment) : Prop := m.session.destroying → m.Flagless

theorem Step.unflagged {m n : Moment} {x : Move} (h : m.Step x n) (hs : m.Guarded)
    (hm : m.Unflagged) : n.Unflagged := by
  intro hn
  have same := h.sameRelease
  by_cases hd : m.session.destroying
  · exact h.flagless (hs.closing hd) (hm hd)
  · cases h with
    | release hf =>
      rw [Moment.beginRelease, if_neg hd]
      exact ⟨.inl rfl, .inl rfl⟩
    | abandon hf =>
      have hg : ¬(m.map fun t => { t with gone := true }).session.destroying := hd
      rw [Moment.beginRelease, if_neg hg]
      exact ⟨.inl rfl, .inl rfl⟩
    | released hc =>
      exact absurd (hs.release (by rw [hc]; rfl)).1 hd
    | _ => exact absurd ((same rfl).destroying ▸ hn) hd

theorem unflagged_of_create {id : String} {prefs : Preferences} {e : Engine}
    {a : Tunnel.Application} {t : Tunnel} (h : Tunnel.create id prefs e a = .ok t) :
    ({ tunnel := t } : Moment).Unflagged := by
  have hs : ({ tunnel := t } : Moment).session = { id, prefs } := (Tunnel.create_eq_ok h).1
  rw [Unflagged, hs]
  exact nofun

theorem Reachable.unflagged {P : Moment → Move → Prop} {m : Moment} (h : m.Reachable P) :
    m.Unflagged :=
  (h.keeps (I := fun a => a.Sound ∧ a.Unflagged)
    (fun ht => ⟨sound_of_create ht, unflagged_of_create ht⟩)
    fun _ hx ⟨hs, ha⟩ => ⟨hx.sound hs, hx.unflagged hs.toGuarded ha⟩).2

/-- A change after a release has ended. -/
structure Sealed (m n : Moment) : Prop where
  session : m.session.Sealed n.session
  requests : n.tunnel.requests = m.tunnel.requests

/-- **A release that has ended seals the session against every step.** -/
theorem Step.sealed {m n : Moment} {x : Move} (h : m.Step x n) (hm : m.Closing)
    (he : m.session.Ended) : m.Sealed n := by
  have unnoticed := h.unnoticed hm
  have attempt := h.isAttempt_of_closing hm
  have hr : m.tunnel.session.released := he.released
  have hbegin : m.tunnel.beginStop.requests = m.tunnel.requests := by
    have hs : m.tunnel.mustStop = false := by simp [Tunnel.mustStop, hr]
    rw [Tunnel.requests, Tunnel.acts_beginStop, hs]
    rfl
  cases h with
  | event | line | protection | answered | notice | owner | elsewhere | refused | ask | release
  | abandon =>
    have hu := unnoticed rfl
    exact ⟨hu.session ▸ .refl _, hu.requests⟩
  | admitted | evaluated | declined | started | unstarted => cases attempt
  | returned v hr =>
    refine ⟨?_, ?_⟩
    · exact finish_keeps (C := m.session.Sealed) (.refl _) (he.exit v)
    · show (m.tunnel.finish v).requests = _
      rw [Tunnel.requests, Tunnel.acts_finish]
      rfl
  | restart hf answer =>
    have hs : (m.tunnel.session.reconnect answer).2 = m.tunnel.session :=
      Session.reconnect_of_released hr answer
    have hp : m.map (fun t => (t.restart answer).2) = m := by
      simp [map, Tunnel.restart, Tunnel.mustRestart, hs, hr]
    rw [hp]
    exact ⟨.refl _, rfl⟩
  | pause hf reason | resume hf =>
    have hp (a : Tunnel.Act) : m.map (·.order a) = m := by
      simp [map, Tunnel.order, hr]
    rw [hp]
    exact ⟨.refl _, rfl⟩
  | stop hf | releaseStop hc =>
    refine ⟨?_, hbegin⟩
    rw [session_beginStop]
    exact he.beginStop
  | stopped hc => exact ⟨he.endStop _ _, rfl⟩
  | stopInside hr hg =>
    refine ⟨?_, hbegin⟩
    rw [session_stopInside]
    exact he.beginStop.trans ((he.of_sealed he.beginStop).endStop _ _)
  | released hc =>
    -- A release does not end twice.
    have hn := hm.release (by rw [hc]; rfl)
    rw [he.released] at hn
    cases hn

/-- A release that is over has ended. -/
theorem Closing.ended {m : Moment} (h : m.Closing) (hf : m.Lowered Session.connected)
    (hc : m.call = .none) : m.session.Ended :=
  have hr := h.released_of_none hc
  ⟨hr, h.phase.2 hr, hf.of_none hc⟩

/-- A release that has begun, and is not in progress, has ended. -/
theorem Reachable.ended {P : Moment → Move → Prop} {m : Moment} (h : m.Reachable P)
    (hd : m.session.destroying) (hc : m.call = .none) :
    m.session.Ended ∧ m.session.connecting = false :=
  have hf := h.unflagged hd
  ⟨(h.sound.closing hd).ended hf.connected hc, hf.connecting.of_none hc⟩

end Moment

end TunnelRelay
