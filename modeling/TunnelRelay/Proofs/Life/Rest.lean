import TunnelRelay.Proofs.Life.Soundness

/-!
# Sessions at rest

Once a stop has returned, the session is at rest: its flags are clear, and it remembers that a stop
was requested. A worker that was left behind may go on reporting, but nothing that it reports
brings the session back. Only an attempt that passes its checks does.

## Main definitions

- `Session.AtRest` — the invariant
- `Session.Rests` — a change that keeps a session at rest
- `Moment.Quiet` — no attempt passes its checks, and the events that revive are not fatal
- `Moment.StopReturned` — a stop, up to its return

## Main statements

- `Moment.Step.rests`, `Moment.Run.rests` — rest is kept
- `Moment.StopReturned.no_revival` — what this means to the application
-/

namespace TunnelRelay

open Engine (Config Credentials Event EventKind Failure ProfileInfo Verdict)

/-- The engine flags the event as its kind allows: a connection and a new try are not fatal. -/
def Engine.Event.Plain (e : Event) : Prop :=
  e.kind = .connected ∨ e.kind = .reconnecting → e.fatal = false

/-- A phase in which a connection exists, or is being made. -/
def Session.Phase.isUnderWay : Phase → Bool
  | connected | connecting | authenticating | reconnecting => true
  | _ => false

/-- A stop was requested, and neither an attempt nor a connection is left. -/
structure Session.AtRest (s : Session) : Prop where
  connected : s.connected = false
  connecting : s.connecting = false
  stopRequested : s.stopRequested

/-- A change that keeps a session at rest. -/
structure Session.Rests (s u : Session) : Prop where
  rest : u.AtRest
  phase : u.phase = s.phase ∨ u.phase.isUnderWay = false
  reconnects : u.reconnects = s.reconnects

namespace Session

theorem AtRest.rests {s : Session} (h : s.AtRest) : s.Rests s := ⟨h, .inl rfl, rfl⟩

theorem Rests.trans {s u v : Session} (h : s.Rests u) (k : u.Rests v) : s.Rests v := by
  refine ⟨k.rest, ?_, k.reconnects.trans h.reconnects⟩
  obtain hv | hv := k.phase
  · rw [hv]
    exact h.phase
  · exact .inr hv

/-- Only the phase changes, and to none in which a connection exists or is being made. -/
theorem AtRest.setPhase {s : Session} (h : s.AtRest) {p : Phase} (hp : p.isUnderWay = false) :
    s.Rests (s.setPhase p) := by
  by_cases hd : s.phase = .destroyed
  · rw [setPhase_of_destroyed hd]
    exact h.rests
  · have hs : s.setPhase p = { s with phase := p } := if_neg hd
    rw [hs]
    exact ⟨⟨h.connected, h.connecting, h.stopRequested⟩, .inr hp, rfl⟩

theorem AtRest.setError {s : Session} (h : s.AtRest) (text : String) :
    s.Rests (s.setError text) :=
  ⟨⟨h.connected, h.connecting, h.stopRequested⟩, .inl rfl, rfl⟩

theorem AtRest.fail {s : Session} (h : s.AtRest) (text : String) : s.Rests (s.fail text) :=
  Rests.trans (u := (s.setError text).clearFlags) ⟨⟨rfl, rfl, h.stopRequested⟩, .inl rfl, rfl⟩
    (AtRest.setPhase (s := (s.setError text).clearFlags) ⟨rfl, rfl, h.stopRequested⟩ rfl)

theorem AtRest.remember {s : Session} (h : s.AtRest) (e : Event) : s.Rests (s.remember e) := by
  unfold Session.remember
  split
  · exact h.rests
  · exact ⟨⟨h.connected, h.connecting, h.stopRequested⟩, .inl rfl, rfl⟩

theorem AtRest.ignores {s : Session} (h : s.AtRest) {e : Event} (hk : revives e.kind)
    (hf : e.fatal = false) : s.ignores e := by
  simp [Session.ignores, hk, hf, h.stopRequested]

/-- Whatever is followed at rest does not bring the session back. -/
theorem AtRest.follow {s : Session} (h : s.AtRest) {e : Event} (he : e.Plain)
    (hi : s.ignores e = false) : s.Rests (s.follow e) := by
  -- An event of a kind that revives gets here only if it is fatal; it is ignored otherwise.
  have hr : revives e.kind → e.fatal := by
    intro hk
    by_contra hf
    rw [h.ignores hk (by simpa using hf)] at hi
    cases hi
  unfold Session.follow
  split
  case h_1 hk =>
    rw [he (.inl hk)] at hr
    exact absurd (hr (by rw [hk]; rfl)) (by decide)
  case h_2 =>
    show s.Rests (if s.clearFlags.phase.isSettled then s.clearFlags
      else { s.clearFlags with phase := .idle })
    split
    · exact ⟨⟨rfl, rfl, h.stopRequested⟩, .inl rfl, rfl⟩
    · exact ⟨⟨rfl, rfl, h.stopRequested⟩, .inr rfl, rfl⟩
  case h_3 hk =>
    rw [he (.inr hk)] at hr
    exact absurd (hr (by rw [hk]; rfl)) (by decide)
  case h_4 => exact h.fail _
  case h_5 hk =>
    rw [if_pos (hr (by rw [hk]; rfl))]
    exact h.fail _
  case h_6 | h_7 =>
    dsimp only
    split
    · exact h.fail _
    · exact h.setError _
  case h_8 => exact h.rests

theorem AtRest.hear {s : Session} (h : s.AtRest) {e : Event} (he : e.Plain) :
    s.Rests (s.hear e) := by
  cases hd : s.destroying with
  | true =>
    rw [hear_of_destroying hd]
    exact h.rests
  | false =>
    have hr := h.remember e
    rw [hear_of_not_destroying hd]
    split
    · exact hr
    · next hi => exact hr.trans (hr.rest.follow he (by simpa using hi))

theorem AtRest.exit {s : Session} (h : s.AtRest) (v : Verdict) : s.Rests (s.exit v) := by
  refine ⟨⟨rfl, rfl, h.stopRequested⟩, ?_, rfl⟩
  show s.phase.afterReturn v = s.phase ∨ (s.phase.afterReturn v).isUnderWay = false
  cases v with
  | ok =>
    by_cases hp : s.phase.isSettled
    · exact .inl (if_pos hp)
    · exact .inr (by simp [Phase.afterReturn, hp, Phase.isUnderWay])
  | error e =>
    by_cases hp : s.phase.isSettled
    · exact .inl (if_pos hp)
    · exact .inr (by simp [Phase.afterReturn, hp, Phase.isUnderWay])

theorem AtRest.storeSettings {s : Session} (h : s.AtRest) (x : Settings) :
    s.Rests (s.storeSettings x) := by
  rw [storeSettings_eq]
  exact ⟨⟨h.connected, h.connecting, h.stopRequested⟩, .inl rfl, rfl⟩

theorem AtRest.canReconnect {s : Session} (h : s.AtRest) : s.canReconnect = false := by
  simp [Session.canReconnect, h.connected, h.connecting]

theorem AtRest.reconnect {s : Session} (h : s.AtRest) (answer : Except Failure Unit) :
    s.reconnect answer = (.ok false, s) := by
  simp [Session.reconnect, h.canReconnect]

theorem AtRest.refused {s u : Session} (h : s.AtRest) {profile : String} {f : Fault}
    (hb : s.begin? profile = .error (f, u)) : s.Rests u := by
  obtain rfl | rfl := begin?_eq_error hb
  · exact h.rests
  · exact h.setError _

/-- A stop brings a session to rest, whatever it did before. -/
theorem atRest_beginStop (s : Session) : s.beginStop.AtRest := by
  refine ⟨rfl, rfl, ?_⟩
  cases h : s.isActive <;> simp [beginStop, h, clearFlags]

theorem AtRest.beginStop {s : Session} (h : s.AtRest) : s.Rests s.beginStop := by
  have hu : ({ s with stopRequested := true } : Session).AtRest := ⟨h.connected, h.connecting, rfl⟩
  have hp := hu.setPhase (p := .disconnecting) rfl
  have hr := atRest_beginStop s
  unfold Session.beginStop at hr ⊢
  cases ha : s.isActive
  · rw [ha] at hr
    exact ⟨hr, .inl rfl, rfl⟩
  · rw [ha] at hr
    exact ⟨hr, hp.phase, hp.reconnects⟩

theorem AtRest.endStop {s : Session} (h : s.AtRest) (active left : Bool) :
    s.Rests (s.endStop active left) := by
  have hs : s.Rests (if left then { s with worker := .running } else s) := by
    cases left
    · exact h.rests
    · exact ⟨⟨h.connected, h.connecting, h.stopRequested⟩, .inl rfl, rfl⟩
  cases active
  · exact hs
  · exact hs.trans (hs.rest.setPhase rfl)

end Session

namespace Moment

/-- No attempt passes its checks, and the engine flags its events as their kinds allow. -/
def Quiet (_ : Moment) : Move → Prop
  | .event e => e.Plain
  | .admitted => False
  | _ => True

/-- A stop was requested at the first moment, and has returned at the second: after its wait, or at
once if it came from inside a callback. -/
inductive StopReturned (k m : Moment) : Prop
  | waited {a b : Moment} (hs : k.Step .stop a) (hr : Run Quiet a b) (hm : b.Step .stopped m)
  | inside (hs : k.Step .stopInside m)

/-- **Nothing but an admitted attempt ends a rest.** -/
theorem Step.rests {m n : Moment} {x : Move} (h : m.Step x n) (hx : Quiet m x)
    (hm : m.session.AtRest) (ha : m.call.isAttempt = false) :
    m.session.Rests n.session ∧ n.call.isAttempt = false := by
  have hp := h.alike
  cases h with
  | line | protection | answered | owner | elsewhere | pause | resume | ask =>
    have hp := hp rfl
    exact ⟨hp.session ▸ hm.rests, hp.call ▸ ha⟩
  | event e => exact ⟨report_keeps (C := m.session.Rests) hm.rests (hm.hear hx), ha⟩
  | notice x => exact ⟨tell_keeps (C := m.session.Rests) hm.rests hm.storeSettings x, ha⟩
  | returned v hr => exact ⟨finish_keeps (C := m.session.Rests) hm.rests (hm.exit v), ha⟩
  | refused hf hb => exact ⟨hm.refused hb, ha⟩
  | admitted => exact hx.elim
  | evaluated r hc | declined e hc | started hc | unstarted text hc =>
    rw [hc] at ha
    cases ha
  | restart hf answer =>
    refine ⟨?_, ha⟩
    show m.session.Rests (m.session.reconnect answer).2
    rw [hm.reconnect]
    exact hm.rests
  | stop hf | releaseStop hc =>
    refine ⟨?_, rfl⟩
    rw [session_beginStop]
    exact hm.beginStop
  | @stopped active working release hc =>
    refine ⟨hm.endStop _ _, ?_⟩
    cases release <;> rfl
  | stopInside hr hg =>
    refine ⟨?_, ha⟩
    rw [session_stopInside]
    exact hm.beginStop.trans (hm.beginStop.rest.endStop _ _)
  | release hf | abandon hf =>
    unfold Moment.beginRelease
    split
    · exact ⟨hm.rests, ha⟩
    · exact ⟨⟨⟨hm.connected, hm.connecting, hm.stopRequested⟩, .inl rfl, rfl⟩, rfl⟩
  | released hc =>
    have hu : ({ m.session with released := true } : Session).AtRest :=
      ⟨hm.connected, hm.connecting, hm.stopRequested⟩
    have hp := hu.setPhase (p := .destroyed) rfl
    exact ⟨⟨hp.rest, hp.phase, hp.reconnects⟩, rfl⟩

theorem Run.rests {m n : Moment} (h : Run Quiet m n) (hm : m.session.AtRest)
    (ha : m.call.isAttempt = false) :
    n.session.AtRest ∧ n.session.reconnects = m.session.reconnects ∧ n.call.isAttempt = false :=
  h.keeps (I := fun a => a.session.AtRest ∧ a.session.reconnects = m.session.reconnects ∧
      a.call.isAttempt = false)
    (fun hp hx ⟨hr, hn, hc⟩ =>
      have ⟨hs, hc⟩ := hx.rests hp hr hc
      ⟨hs.rest, hs.reconnects.trans hn, hc⟩)
    ⟨hm, rfl, ha⟩

/-- An attempt that is in progress has no worker yet, so nobody stops it from inside a callback. -/
theorem Sound.isAttempt_of_running {m : Moment} (h : m.Sound) (hg : m.tunnel.gone = false)
    (hr : 0 < m.running) : m.call.isAttempt = false := by
  have hs := h.slot hg
  cases hc : m.call with
  | evaluating | authenticating =>
    rw [hc] at hs
    exact absurd hs.1 (Nat.ne_of_gt hr)
  | _ => rfl

/-- A session is at rest when its stop returns. -/
theorem StopReturned.atRest {k m : Moment} (h : k.StopReturned m) (hk : k.Sound) :
    m.session.AtRest ∧ m.call.isAttempt = false := by
  cases h with
  | waited hs hr hm =>
    cases hs with
    | stop hf =>
      have hb : (k.beginStop false).session.AtRest := by
        rw [session_beginStop]
        exact Session.atRest_beginStop _
      obtain ⟨hr, -, hc⟩ := hr.rests hb rfl
      obtain ⟨hm, hc⟩ := hm.rests trivial hr hc
      exact ⟨hm.rest, hc⟩
  | inside hs =>
    cases hs with
    | stopInside hr hg =>
      refine ⟨?_, hk.isAttempt_of_running hg hr⟩
      rw [session_stopInside]
      exact ((Session.atRest_beginStop _).endStop _ _).rest

/-- **No revival after a stop.** A session stays at rest from the return of a stop until an attempt
passes its checks, whatever a worker that was left behind does. -/
theorem StopReturned.no_revival {k m n : Moment} (hk : k.Reachable Anyhow)
    (hm : k.StopReturned m) (hn : Run Quiet m n) :
    (n.tunnel.session.connected = false ∧ n.tunnel.session.connecting = false) ∧
    (∀ x p, Quiet n x → n.Step x p → p.tunnel.session.phase ≠ n.tunnel.session.phase →
      p.tunnel.session.phase.isUnderWay = false) ∧
    ((∀ answer, n.tunnel.restart answer = (.ok false, n.tunnel)) ∧
      n.tunnel.reconnect = (.ok false, n.tunnel) ∧
      n.tunnel.session.reconnects = m.tunnel.session.reconnects) ∧
    (∀ e, Session.revives e.kind → e.fatal = false → n.tunnel.isLive →
      (n.tunnel.report e).session = n.tunnel.session.remember e ∧
      (n.tunnel.session.prefs.history ≠ 0 →
        (n.tunnel.report e).session.events.getLast? = some e)) := by
  obtain ⟨hr, hc⟩ := hm.atRest hk.sound
  obtain ⟨hr, hcount, hc⟩ := hn.rests hr hc
  have hrestart (answer : Except Failure Unit) :
      n.tunnel.restart answer = (.ok false, n.tunnel) := by
    have hs : n.tunnel.session.reconnect answer = (.ok false, n.tunnel.session) :=
      hr.reconnect answer
    have hc : n.tunnel.session.canReconnect = false := hr.canReconnect
    simp [Tunnel.restart, Tunnel.mustRestart, hs, hc]
  refine ⟨⟨hr.connected, hr.connecting⟩, ?_, ⟨hrestart, ?_, hcount⟩, ?_⟩
  · intro x p hx hp hne
    exact (hp.rests hx hr hc).1.phase.resolve_left hne
  · have hc : n.tunnel.session.canReconnect = false := hr.canReconnect
    rw [Tunnel.reconnect, Tunnel.mustRestart, hc]
    exact hrestart (.ok ())
  · intro e hk hf hl
    have hg : n.tunnel.gone = false ∧ n.tunnel.session.destroying = false := by
      simpa [Tunnel.isLive] using hl
    have hrest := hr.remember e
    -- The event is remembered first, and ignored after that.
    have hh : (n.tunnel.report e).session = n.tunnel.session.remember e := by
      rw [Tunnel.session_report, hg.1]
      show n.tunnel.session.hear e = _
      have hi : (n.tunnel.session.remember e).ignores e := hrest.rest.ignores hk hf
      simp [Session.hear, hg.2, hi]
    refine ⟨hh, fun h0 => ?_⟩
    rw [hh]
    simp [Session.remember, h0]

/-- A worker does not return in time, and reports a connection after the stop. -/
theorem StopReturned.no_revival_of_wedged : ∃ k m n : Moment, k.Reachable Anyhow ∧
    k.session.connected ∧ k.StopReturned m ∧ Run Quiet m n ∧ 0 < n.running ∧
    n.session.events = [⟨.connected, "", false, false⟩, ⟨.connected, "again", false, false⟩] ∧
    n.session.connected = false ∧ n.session.connecting = false := by
  obtain ⟨k, a, m, hk, hks, hstop, hstopped, hf, hrun, hs⟩ := exists_wedged (P := Anyhow)
    (fun _ => ⟨trivial, fun _ => trivial, trivial⟩) (e := ⟨.connected, "", false, false⟩) rfl rfl
    fun _ _ => trivial
  have hm : k.StopReturned m := .waited hstop .refl hstopped
  have hn : Run Quiet m (m.map (·.report ⟨.connected, "again", false, false⟩)) :=
    .step (.event _) (fun _ => rfl) .refl
  have hrest := no_revival hk hm hn
  refine ⟨k, m, _, hk, by rw [hks]; rfl, hm, hn, by rw [map, hrun]; decide, ?_, hrest.1⟩
  show (m.tunnel.report _).session.events = _
  rw [Tunnel.session_report, hf.2]
  show (m.session.hear _).events = _
  rw [hs]
  rfl

end Moment

end TunnelRelay
