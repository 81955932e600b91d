import TunnelRelay.Proofs.Life.Besides
import TunnelRelay.Proofs.Life.Failure
import TunnelRelay.Proofs.Life.Rest

/-!
# What a stop leaves behind

A stop of an active session leaves it idle. A session that is not active keeps its phase, so a
phase that an event led to before any attempt outlasts the stop. A stop of a session at rest whose
worker is gone changes nothing.

## Main definitions

- `Moment.CanStop`, `Moment.Stops` — who can stop a session, and a stop from its request to its
  own return
- `Moment.Waiting` — the invariant of the wait

## Main statements

- `Moment.Step.waiting` — what can happen during the wait
- `Moment.Reachable.stop_settles_iff` — which sessions a stop settles, and what a second one does
-/

namespace TunnelRelay

open Engine (Event)

namespace Session

/-- What is heard at rest leads to no phase but those of a session that is over. -/
theorem AtRest.phase_hear {s : Session} (h : s.AtRest) {e : Event} (he : e.Plain) :
    (s.hear e).phase = s.phase ∨ (s.hear e).phase = .idle ∨ (s.hear e).phase = .failed := by
  by_cases hp : s.phase = .destroyed
  · exact .inl (((hear_sameStanding s e).phase.2 hp).trans hp.symm)
  cases hd : s.destroying with
  | true =>
    rw [hear_of_destroying hd]
    exact .inl rfl
  | false =>
    rw [hear_of_not_destroying hd]
    cases hi : (s.remember e).ignores e with
    | true =>
      rw [if_pos rfl]
      exact .inl (phase_remember s e)
    | false =>
      -- An event of a kind that revives gets here only if it is fatal; it is ignored otherwise.
      have hr : revives e.kind → e.fatal := by
        intro hk
        by_contra hf
        rw [(h.remember e).rest.ignores hk (by simpa using hf)] at hi
        cases hi
      rw [if_neg Bool.false_ne_true, phase_follow (by rwa [phase_remember]), phase_remember]
      unfold Phase.afterEvent
      cases hk : e.kind with
      | connected =>
        rw [he (.inl hk)] at hr
        exact absurd (hr (by rw [hk]; rfl)) (by decide)
      | reconnecting =>
        rw [he (.inr hk)] at hr
        exact absurd (hr (by rw [hk]; rfl)) (by decide)
      | disconnected =>
        dsimp only
        split
        · exact .inl rfl
        · exact .inr (.inl rfl)
      | authFailed => exact .inr (.inr rfl)
      | authPending =>
        rw [if_pos (hr (by rw [hk]; rfl))]
        exact .inr (.inr rfl)
      | transportError | compressError =>
        dsimp only
        split
        · exact .inr (.inr rfl)
        · exact .inl rfl
      | _ => exact .inl rfl

theorem AtRest.isActive_eq {s : Session} (h : s.AtRest) : s.isActive = s.workerRunning := by
  simp [isActive, h.connected, h.connecting]

/-- At rest, a stop that finds no worker takes the place of one away, and nothing else. -/
theorem AtRest.beginStop_eq {s : Session} (h : s.AtRest) (hw : s.workerRunning = false) :
    s.beginStop = { s with worker := .absent } := by
  unfold Session.beginStop
  rw [h.isActive_eq, hw]
  ext <;> simp [clearFlags, h.connected, h.connecting, h.stopRequested]

theorem phase_endStop {s : Session} (hp : s.phase ≠ .destroyed) (active left : Bool) :
    (s.endStop active left).phase = if active then .idle else s.phase := by
  cases active <;> cases left <;> simp [endStop, setPhase, hp]

theorem phase_beginStop {s : Session} (ha : s.isActive = false) :
    s.beginStop.phase = s.phase := by
  simp [beginStop, ha, clearFlags]

end Session

namespace Tunnel

/-- At rest, the request of a stop that finds no worker takes the place of one away. -/
theorem beginStop_of_atRest {t : Tunnel} (hr : t.session.AtRest)
    (hw : t.session.workerRunning = false) :
    t.beginStop = { t with session := { t.session with worker := .absent } } := by
  have ha : t.session.isActive = false := hr.isActive_eq.trans hw
  simp [beginStop, mustStop, ha, mapSession, hr.beginStop_eq hw]

theorem settle_of_not_busy {t : Tunnel} (h : t.engine.isBusy = false) : t.settle = t := by
  cases he : t.engine with
  | scripted e => simp only [settle, he]
  | loopback l k =>
    refine settle_of_not_up he fun name hk => ?_
    rw [he, hk] at h
    cases h

/-- The same for a stop as it is called: nothing happens to an engine without a connection. -/
theorem disconnect_of_atRest {t : Tunnel} (hr : t.session.AtRest)
    (hw : t.session.workerRunning = false) (he : t.engine.isBusy = false) :
    t.disconnect = { t with session := { t.session with worker := .absent } } := by
  have ha : t.session.isActive = false := hr.isActive_eq.trans hw
  have hm : t.mustStop = false := by simp [mustStop, ha]
  have hs := settle_of_not_busy (t := t.beginStop) (by rwa [engine_beginStop])
  simp only [disconnect, hm, ha, hw, hs, Bool.false_and, Bool.false_eq_true, if_false]
  rw [beginStop_of_atRest hr hw]
  rfl

end Tunnel

namespace Moment

/-- Somebody can stop the session: its holder, or a callback on its worker. -/
def CanStop (m : Moment) : Prop := m.tunnel.gone = false ∧ (m.call = .none ∨ 0 < m.running)

/-- The stop in progress does not return, and the engine flags its events as their kinds allow. -/
def Waits (_ : Moment) : Move → Prop
  | .event e => e.Plain
  | .stopped => False
  | _ => True

/-- A stop that is requested at the first moment returns at the second: after its wait, or at once
if it comes from inside a callback. -/
inductive Stops (k m : Moment) : Prop
  | waited {a b : Moment} (hs : k.Step .stop a) (hr : Run Waits a b) (hm : b.Step .stopped m)
  | inside (hs : k.Step .stopInside m)

/-- The stop that was requested at the first moment still waits at the second. -/
structure Waiting (k m : Moment) : Prop where
  call : m.call = .stopping k.session.isActive k.session.workerRunning false
  gone : m.tunnel.gone = false
  sound : m.Sound
  rest : m.session.AtRest
  destroying : m.session.destroying = false
  phase : k.session.isActive = false → m.session.phase = k.session.phase ∨
    m.session.phase = .idle ∨ m.session.phase = .failed

theorem waiting_beginStop {k : Moment} (hs : k.Sound) (hf : k.Free)
    (hd : k.session.destroying = false) : k.Waiting (k.beginStop false) where
  call := rfl
  gone := (Tunnel.gone_beginStop k.tunnel).trans hf.2
  sound := (Step.stop hf).sound hs
  rest := by
    rw [session_beginStop]
    exact Session.atRest_beginStop _
  destroying := by
    rw [session_beginStop, (Session.beginStop_sameRelease _).destroying]
    exact hd
  phase ha := by
    rw [session_beginStop]
    exact .inl (Session.phase_beginStop ha)

/-- A stop of a session that is not active has no worker to wait for. -/
theorem Waiting.running_eq_zero {k m : Moment} (h : k.Waiting m)
    (ha : k.session.isActive = false) : m.running = 0 := by
  have hs := h.sound.slot h.gone
  have hw : k.session.workerRunning = false := by
    simp only [Session.isActive, Bool.or_eq_false_iff] at ha
    exact ha.2
  rw [h.call, hw] at hs
  exact Nat.le_zero.1 hs.2

/-- **Whatever happens during the wait leaves the session at rest.** If it was not active, its
phase stays, or tells that the session is over. -/
theorem Step.waiting {k m n : Moment} {x : Move} (h : m.Step x n) (hx : Waits m x)
    (hm : k.Waiting m) : k.Waiting n := by
  have hq : Quiet m x := by
    cases x with
    | admitted =>
      cases h with
      | admitted hf => cases hm.call.symm.trans hf.1
    | event e => exact hx
    | _ => trivial
  have hrest := (h.rests hq hm.rest (by rw [hm.call]; rfl)).1.rest
  have hsound := h.sound hm.sound
  have hrelease := h.sameRelease
  have halike := h.alike
  -- What is left to show is that the call and its holder stay, and what becomes of the phase.
  have waits (hr : x.isRelease = false) (hc : n.call = m.call)
      (hg : n.tunnel.gone = m.tunnel.gone)
      (hp : k.session.isActive = false → n.session.phase = m.session.phase ∨
        n.session.phase = .idle ∨ n.session.phase = .failed) : k.Waiting n := by
    refine ⟨hc.trans hm.call, hg.trans hm.gone, hsound, hrest,
      (hrelease hr).destroying.trans hm.destroying, fun ha => ?_⟩
    obtain hn | hn := hp ha
    · rw [hn]
      exact hm.phase ha
    · exact .inr hn
  have busy (hr : 0 < m.running) (ha : k.session.isActive = false) : False := by
    rw [hm.running_eq_zero ha] at hr
    cases hr
  cases h with
  | line | protection | answered | owner | elsewhere | pause | resume | ask =>
    have ha := halike rfl
    exact waits rfl ha.call ha.gone fun _ => .inl (by rw [ha.session])
  | event e =>
    refine waits rfl rfl (Tunnel.gone_report ..) fun _ => ?_
    rw [session_report hm.gone]
    exact hm.rest.phase_hear hx
  | notice x =>
    refine waits rfl rfl (Tunnel.gone_tell ..) fun _ => .inl ?_
    exact tell_keeps (C := fun s => s.phase = m.session.phase) rfl
      (fun s => by rw [Session.storeSettings_eq]) x
  | returned v hr => exact waits rfl rfl (Tunnel.gone_finish ..) fun ha => (busy hr ha).elim
  | stopInside hr hg => exact waits rfl rfl (Tunnel.gone_stopInside _) fun ha => (busy hr ha).elim
  | stopped => exact hx.elim
  | refused hf | admitted hf | restart hf | stop hf | release hf | abandon hf =>
    cases hm.call.symm.trans hf.1
  | evaluated _ hc | declined _ hc | started hc | unstarted _ hc | releaseStop hc | released hc =>
    cases hm.call.symm.trans hc

theorem Run.waiting {k m n : Moment} (h : Run Waits m n) (hm : k.Waiting m) : k.Waiting n :=
  h.keeps (I := fun a => k.Waiting a) (fun hp hx ha => hx.waiting hp ha) hm

/-- What a stop leaves behind when it returns. -/
theorem Stops.settled {k m : Moment} (h : k.Stops m) (hk : k.Sound)
    (hd : k.session.destroying = false) :
    (m.session.AtRest ∧ m.call.isAttempt = false) ∧
    (k.session.isActive → m.session.phase = .idle) ∧
    (k.session.isActive = false → m.session.phase = k.session.phase ∨
      m.session.phase = .idle ∨ m.session.phase = .failed) := by
  cases h with
  | @waited a b hs hr hm =>
    cases hs with
    | stop hf =>
      have hb := hr.waiting (waiting_beginStop hk hf hd)
      cases hm with
      | stopped hc =>
        cases hb.call.symm.trans hc
        have hp : (b.endStop k.session.isActive k.session.workerRunning false).session.phase =
            if k.session.isActive then .idle else b.session.phase :=
          Session.phase_endStop (hb.sound.phase_ne hb.destroying) _ _
        refine ⟨⟨(hb.rest.endStop _ _).rest, rfl⟩, fun ha => hp.trans (if_pos ha), fun ha => ?_⟩
        rw [hp, if_neg (by simp [ha])]
        exact hb.phase ha
  | inside hs =>
    cases hs with
    | stopInside hr hg =>
      have hb := Session.beginStop_sameRelease k.session
      have hp : (k.map .stopInside).session.phase =
          if k.session.isActive then .idle else k.session.beginStop.phase := by
        rw [session_stopInside]
        exact Session.phase_endStop (fun hp => hk.phase_ne hd (hb.phase.1 hp)) _ _
      refine ⟨⟨?_, hk.isAttempt_of_running hg hr⟩, fun ha => hp.trans (if_pos ha),
        fun ha => .inl ?_⟩
      · rw [session_stopInside]
        exact ((Session.atRest_beginStop _).endStop _ _).rest
      · rw [hp, if_neg (by simp [ha]), Session.phase_beginStop ha]

/-- Some stop returns, and at once. It leaves the phase of a session that is not active alone. -/
theorem CanStop.exists_stops {k : Moment} (h : k.CanStop) (hd : k.session.phase ≠ .destroyed) :
    ∃ m, k.Stops m ∧ (k.session.isActive = false → m.session.phase = k.session.phase) := by
  have hb : k.session.beginStop.phase ≠ .destroyed := fun hp =>
    hd ((Session.beginStop_sameRelease _).phase.1 hp)
  obtain ⟨hg, hc | hr⟩ := h
  · refine ⟨_, .waited (.stop ⟨hc, hg⟩) .refl (.stopped rfl), fun ha => ?_⟩
    show ((k.beginStop false).session.endStop _ _).phase = _
    rw [session_beginStop, Session.phase_endStop hb, ha, if_neg Bool.false_ne_true,
      Session.phase_beginStop ha]
  · refine ⟨_, .inside (.stopInside hr hg), fun ha => ?_⟩
    rw [session_stopInside, Session.phase_endStop hb, ha, if_neg Bool.false_ne_true,
      Session.phase_beginStop ha]

/-- At rest, a stop that finds no worker forgets that there was one. -/
theorem stop_again {n a p : Moment} (hr : n.session.AtRest)
    (hw : n.session.workerRunning = false) (ha : n.Step .stop a) (hp : a.Step .stopped p) :
    p = n.put { n.session with worker := .absent } := by
  cases ha with
  | stop hf =>
    cases hp with
    | stopped hc =>
      cases hc
      have hactive : n.session.isActive = false := hr.isActive_eq.trans hw
      have hstop := Tunnel.beginStop_of_atRest (t := n.tunnel) hr hw
      obtain ⟨tunnel, call, running⟩ := n
      cases hf.1
      simp only [Moment.endStop, Moment.beginStop, map, put, hstop, hactive, hw, Bool.false_and]
      rfl

/-- **A stop settles a session if and only if it is active, or its phase tells that it is over
already.** When the stop returns, there is neither an attempt nor a connection. From then on until
an attempt passes its checks, another stop changes nothing once the worker is gone, apart from the
place of that worker: the engine is not called. -/
theorem Reachable.stop_settles_iff {k : Moment} (h : k.Reachable Anyhow)
    (hd : k.session.destroying = false) (hk : k.CanStop) :
    ((∀ m, k.Stops m → m.session.phase = .idle ∨ m.session.phase = .failed) ↔
      k.session.isActive ∨ k.session.phase = .idle ∨ k.session.phase = .failed) ∧
    ∀ m, k.Stops m → (m.session.connected = false ∧ m.session.connecting = false) ∧
      ∀ n, Run Quiet m n → n.session.workerRunning = false →
        (∀ a p, n.Step .stop a → a.Step .stopped p →
          p = n.put { n.session with worker := .absent }) ∧
        (n.tunnel.engine.isBusy = false →
          n.tunnel.disconnect = (n.put { n.session with worker := .absent }).tunnel) := by
  refine ⟨⟨fun hall => ?_, fun hsettled m hm => ?_⟩, fun m hm => ?_⟩
  · obtain ⟨m, hm, hphase⟩ := hk.exists_stops (h.sound.phase_ne hd)
    cases ha : k.session.isActive with
    | true => exact .inl rfl
    | false =>
      rw [← hphase ha]
      exact .inr (hall m hm)
  · obtain ⟨-, hactive, hinactive⟩ := hm.settled h.sound hd
    cases ha : k.session.isActive with
    | true => exact .inl (hactive ha)
    | false =>
      obtain hp | hp := hinactive ha
      · rw [hp]
        exact hsettled.resolve_left (by simp [ha])
      · exact hp
  · obtain ⟨⟨hrest, hcall⟩, -⟩ := hm.settled h.sound hd
    refine ⟨⟨hrest.connected, hrest.connecting⟩, fun n hn hw => ?_⟩
    have hr := (hn.rests hrest hcall).1
    exact ⟨fun a p => stop_again hr hw, Tunnel.disconnect_of_atRest hr hw⟩

/-- A connection is stopped, its worker returns, and a late connection is ignored. Another stop
then only takes the place of the worker away. -/
theorem Reachable.stop_settles_iff_of_return : ∃ k m n a p : Moment, k.Reachable Anyhow ∧
    k.session.destroying = false ∧ k.CanStop ∧ k.session.connected ∧ k.Stops m ∧
    (m.session.phase = .idle ∨ m.session.phase = .failed) ∧ Run Quiet m n ∧
    n.session.workerRunning = false ∧ n.Step .stop a ∧ a.Step .stopped p ∧
    p = n.put { n.session with worker := .absent } := by
  obtain ⟨k, hk, hf, hrun, hs⟩ := exists_connected_anyhow
  let a : Moment := k.beginStop false
  let b : Moment := { a.map (·.finish (.ok ())) with running := a.running - 1 }
  let m : Moment := b.endStop k.session.isActive k.session.workerRunning false
  let n : Moment := m.map (·.report ⟨.connected, "again", false, false⟩)
  have hga : a.tunnel.gone = false := (Tunnel.gone_beginStop _).trans hf.2
  have hgb : b.tunnel.gone = false := (Tunnel.gone_finish _ _).trans hga
  have hb : a.Step (.returned (.ok ())) b :=
    .returned _ (by rw [show a.running = 1 from hrun]; decide)
  have hm : k.Stops m := .waited (.stop hf) (.step hb trivial .refl) (.stopped rfl)
  have hn : Run Quiet m n := .step (.event _) (fun _ => rfl) .refl
  have hns : n.session = (((connectedSession ⟨.connected, "", false, false⟩).beginStop.exit
      (.ok ())).endStop true false).hear ⟨.connected, "again", false, false⟩ := by
    have hbs : b.session = k.session.beginStop.exit (.ok ()) := by
      rw [← session_beginStop k false]
      exact session_finish hga _
    have hms : m.session = b.session.endStop k.session.isActive
        (k.session.workerRunning && decide (0 < k.running - 1)) := rfl
    rw [session_report (m := m) hgb, hms, hbs, hrun, hs]
    rfl
  have hw : n.session.workerRunning = false := by
    rw [hns]
    rfl
  have hd : k.session.destroying = false := congrArg Session.destroying hs
  have hc : k.CanStop := ⟨hf.2, .inl hf.1⟩
  obtain ⟨hphase, hall⟩ := hk.stop_settles_iff hd hc
  have hactive : k.session.isActive := by
    rw [hs]
    rfl
  have hfree : n.Free := ⟨rfl, (Tunnel.gone_report _ _).trans hgb⟩
  exact ⟨k, m, n, _, _, hk, hd, hc, by rw [hs]; rfl, hm, hphase.2 (.inl hactive) m hm, hn, hw,
    .stop hfree, .stopped rfl, ((hall m hm).2 n hn hw).1 _ _ (.stop hfree) (.stopped rfl)⟩

/-- A stop can leave a session in the middle of a try that nobody makes: it hears of one before any
attempt, and the stop finds nothing to stop. -/
theorem not_settled_by_stop : ¬∀ k m : Moment, k.Reachable Anyhow →
    k.session.destroying = false → k.Stops m →
    (m.session.connected = false ∧ m.session.connecting = false) ∧
    (m.session.phase = .idle ∨ m.session.phase = .failed) := by
  intro h
  let k : Moment := fresh.map (·.report ⟨.reconnecting, "", false, false⟩)
  have hk : k.Reachable Anyhow := reachable_fresh.run (.step (.event _) trivial .refl)
  have hm : k.Stops ((k.beginStop false).endStop false false false) :=
    .waited (.stop ⟨rfl, rfl⟩) .refl (.stopped rfl)
  obtain hp | hp := (h k _ hk rfl hm).2
  · cases hp
  · cases hp

end Moment

end TunnelRelay
