import TunnelRelay.Proofs.Life.Soundness

/-!
# Sessions that failed

An error that ends a session leaves it failed. Neither the worker's return nor an end of the
connection nor another error changes that, but a session follows a late connection, a new try and
a question of the server as if it had not failed.

## Main definitions

- `Session.Phase.afterEvent` — the phase that an event leads to
- `Engine.Event.isFinal` — the events that end a session
- `Session.Failed`, `Session.isRaisedBy` — a failure, and the events that lead out of it
- `Moment.Unasked`, `Moment.Raised` — runs without requests, and the steps that end a failure
- `Move.isReport` — what an engine does on its own

## Main statements

- `Session.phase_follow` — what an event makes of the phase
- `Moment.Step.failed_iff` — which steps end a failure
- `Moment.Reachable.failed_until_raised` — a failure lasts until an event leads out of it
-/

namespace TunnelRelay

open Engine (Event EventKind Failure Verdict)

/-- The event ends a session. A refusal of the credentials always does. -/
def Engine.Event.isFinal (e : Event) : Bool :=
  match e.kind with
  | .authFailed => true
  | .authPending | .transportError | .compressError => e.fatal
  | _ => false

namespace Session

/-- The phase that an event leads to, if it is followed. -/
def Phase.afterEvent (p : Phase) (isConnected : Bool) (e : Event) : Phase :=
  match e.kind with
  | .connected => connected
  | .disconnected => if p.isSettled then p else idle
  | .reconnecting => reconnecting
  | .authFailed => failed
  | .authPending => if e.fatal then failed else if isConnected then p else authenticating
  | .transportError | .compressError => if e.fatal then failed else p
  | _ => p

theorem phase_fail {s : Session} (hd : s.phase ≠ .destroyed) (text : String) :
    (s.fail text).phase = .failed :=
  phase_setPhase (s := (s.setError text).clearFlags) hd .failed

theorem phase_follow {s : Session} (hd : s.phase ≠ .destroyed) (e : Event) :
    (s.follow e).phase = s.phase.afterEvent s.connected e := by
  unfold follow Phase.afterEvent
  cases e.kind with
  | connected =>
    exact phase_setPhase (s := { s with connected := true, connecting := false }) hd .connected
  | disconnected =>
    show (if s.clearFlags.phase.isSettled then s.clearFlags
      else { s.clearFlags with phase := .idle }).phase = _
    show _ = if s.clearFlags.phase.isSettled then s.phase else .idle
    split <;> rfl
  | reconnecting => exact phase_setPhase hd .reconnecting
  | authFailed => exact phase_fail hd _
  | authPending =>
    dsimp only
    split
    · exact phase_fail hd _
    · split
      · rfl
      · exact phase_setPhase hd .authenticating
  | transportError | compressError =>
    dsimp only
    split
    · exact phase_fail hd _
    · rfl
  | _ => rfl

/-- Only a connection raises the flag of one, and an end of any kind takes it away. -/
theorem connected_follow (s : Session) (e : Event) : (s.follow e).connected =
    (e.kind = .connected ∨ s.connected ∧ e.isFinal = false ∧ e.kind ≠ .disconnected : Bool) := by
  have hfail (text : String) : (s.fail text).connected = false := connected_setPhase _ _
  obtain ⟨kind, info, error, fatal⟩ := e
  cases kind with
  | connected => simp [follow]
  | disconnected =>
    simp only [follow]
    split <;> simp [clearFlags]
  | authPending =>
    cases fatal <;> cases hc : s.connected <;> simp [follow, Event.isFinal, hfail, hc]
  | transportError | compressError => cases fatal <;> simp [follow, Event.isFinal, hfail, setError]
  | _ => simp [follow, Event.isFinal, hfail]

/-- An error has ended the session, and there is no connection. -/
structure Failed (s : Session) : Prop where
  phase : s.phase = .failed
  connected : s.connected = false

/-- The event leads out of a failure: a connection, a new try, or a question of the server that
can still be answered, unless it is ignored. -/
def isRaisedBy (s : Session) (e : Event) : Bool :=
  revives e.kind && !e.isFinal && !s.ignores e

theorem ignores_remember (s : Session) (e d : Event) : (s.remember e).ignores d = s.ignores d := by
  rw [remember_eq]
  rfl

/-- No event that ends a session is ignored. -/
theorem ignores_of_isFinal (s : Session) {e : Event} (he : e.isFinal) : s.ignores e = false := by
  unfold Event.isFinal at he
  unfold ignores revives
  cases hk : e.kind <;> simp_all

theorem Phase.afterEvent_of_isFinal {e : Event} (he : e.isFinal) (p : Phase) (isConnected : Bool) :
    p.afterEvent isConnected e = failed := by
  unfold Event.isFinal at he
  unfold afterEvent
  cases hk : e.kind <;> simp_all

theorem Phase.afterEvent_failed_iff (e : Event) :
    failed.afterEvent false e = failed ↔ (revives e.kind && !e.isFinal) = false := by
  unfold afterEvent revives Event.isFinal
  cases e.kind <;> cases e.fatal <;> simp [isSettled]

theorem failed_hear_of_isFinal {s : Session} (hd : s.destroying = false)
    (hp : s.phase ≠ .destroyed) {e : Event} (he : e.isFinal) : (s.hear e).Failed := by
  have hr : (s.remember e).phase ≠ .destroyed := by rwa [phase_remember]
  rw [hear_of_not_destroying hd, if_neg (by simp [ignores_of_isFinal _ he])]
  refine ⟨?_, ?_⟩
  · rw [phase_follow hr, Phase.afterEvent_of_isFinal he]
  · have hk : e.kind ≠ .connected := by
      intro hk
      rw [Event.isFinal, hk] at he
      cases he
    simp [connected_follow, he, hk]

/-- A failed session stays failed if and only if the event does not lead out of the failure. -/
theorem Failed.hear_iff {s : Session} (h : s.Failed) (hd : s.destroying = false) (e : Event) :
    (s.hear e).Failed ↔ s.isRaisedBy e = false := by
  have hr : (s.remember e).Failed := by
    rw [remember_eq]
    exact ⟨h.phase, h.connected⟩
  have hphase : ((s.remember e).follow e).phase = Phase.failed.afterEvent false e := by
    rw [phase_follow (by rw [hr.phase]; decide), hr.phase, hr.connected]
  rw [hear_of_not_destroying hd, ignores_remember, isRaisedBy]
  cases hi : s.ignores e with
  | true => simpa using hr
  | false =>
    simp only [Bool.false_eq_true, if_false, Bool.not_false, Bool.and_true]
    rw [← Phase.afterEvent_failed_iff, ← hphase]
    refine ⟨fun hf => hf.phase, fun hf => ⟨hf, ?_⟩⟩
    have hk : e.kind ≠ .connected := by
      intro hk
      rw [hphase, Phase.afterEvent, hk] at hf
      cases hf
    simp [connected_follow, hr.connected, hk]

theorem Failed.exit {s : Session} (h : s.Failed) (v : Verdict) : (s.exit v).Failed := by
  refine ⟨?_, rfl⟩
  show s.phase.afterReturn v = .failed
  rw [h.phase]
  cases v <;> rfl

theorem Failed.storeSettings {s : Session} (h : s.Failed) (x : Settings) :
    (s.storeSettings x).Failed := by
  rw [storeSettings_eq]
  exact ⟨h.phase, h.connected⟩

theorem Failed.reconnect {s : Session} (h : s.Failed) (answer : Except Failure Unit) :
    (s.reconnect answer).2.Failed := by
  rw [reconnect_eq]
  exact ⟨h.phase, h.connected⟩

theorem Failed.refused {s u : Session} (h : s.Failed) {profile : String} {f : Fault}
    (hb : s.begin? profile = .error (f, u)) : u.Failed := by
  obtain rfl | rfl := begin?_eq_error hb
  · exact h
  · exact ⟨h.phase, h.connected⟩

end Session

/-- The engine reports an event, or its worker returns. -/
def Move.isReport : Move → Bool
  | event _ | returned _ => true
  | _ => false

namespace Moment

/-- No attempt, no stop and no release begins or goes on. -/
def Unasked (_ : Moment) : Move → Prop
  | .admitted | .evaluated _ | .declined _ | .started | .unstarted _ | .stop | .stopped
  | .stopInside | .release | .abandon | .releaseStop | .released => False
  | _ => True

/-- The session hears an event that leads out of a failure. -/
def Raised (m : Moment) : Move → Prop
  | .event e => m.tunnel.isLive ∧ m.session.isRaisedBy e
  | _ => False

/-- **Nothing but such an event ends a failure**, as long as the application asks for nothing. -/
theorem Step.failed_iff {m n : Moment} {x : Move} (h : m.Step x n) (hx : Unasked m x)
    (hm : m.session.Failed) : n.session.Failed ↔ ¬m.Raised x := by
  have ha := h.alike
  have stays (hn : n.session.Failed) (hr : ¬m.Raised x) : n.session.Failed ↔ ¬m.Raised x :=
    iff_of_true hn hr
  cases h with
  | line | protection | answered | owner | elsewhere | pause | resume | ask =>
    exact stays ((ha rfl).session ▸ hm) id
  | event e =>
    cases hl : m.tunnel.isLive with
    | true =>
      have hd : m.session.destroying = false := Tunnel.destroying_of_isLive hl
      rw [session_report (Tunnel.gone_of_isLive hl), hm.hear_iff hd]
      simp [Raised, hl]
    | false =>
      have hn : (m.map (·.report e)).session = m.session :=
        Tunnel.session_report_of_not_live hl e
      exact stays (hn ▸ hm) (by simp [Raised, hl])
  | notice x => exact stays (tell_keeps (C := Session.Failed) hm hm.storeSettings x) id
  | returned v hr => exact stays (finish_keeps (C := Session.Failed) hm (hm.exit v)) id
  | refused hf hb => exact stays (hm.refused hb) id
  | restart hf answer => exact stays (hm.reconnect answer) id
  | admitted | evaluated | declined | started | unstarted | stop | stopped | stopInside | release
  | abandon | releaseStop | released => exact hx.elim

theorem Run.failed {m n : Moment} (h : Run (fun a x => Unasked a x ∧ ¬a.Raised x) m n)
    (hm : m.session.Failed) : n.session.Failed :=
  h.keeps (I := fun a => a.session.Failed) (fun hp hx ha => (hx.failed_iff hp.1 ha).2 hp.2) hm

/-- **A failure lasts until an event leads out of it.** An event that ends a session leaves it
failed. As long as the application asks for no attempt, no stop and no release, and none goes on,
the session stays so whatever happens, up to the first event that tells of a connection, of a new
try or of a question that can still be answered, and that is not ignored because of an earlier
stop; and every such event does lead out of the failure. -/
theorem Reachable.failed_until_raised {m n : Moment} (h : m.Reachable Anyhow)
    (hl : m.tunnel.isLive) {e : Event} (he : e.isFinal)
    (hn : Run (fun a x => Unasked a x ∧ ¬a.Raised x) (m.map (·.report e)) n) :
    (n.session.phase = .failed ∧ n.session.connected = false) ∧
    ∀ x p, Unasked n x → n.Step x p →
      ((p.session.phase = .failed ∧ p.session.connected = false) ↔ ¬n.Raised x) := by
  have hd : m.session.destroying = false := Tunnel.destroying_of_isLive hl
  have hfailed : (m.map (·.report e)).session.Failed := by
    rw [session_report (Tunnel.gone_of_isLive hl)]
    exact Session.failed_hear_of_isFinal hd (h.sound.phase_ne hd) he
  have hnf := hn.failed hfailed
  refine ⟨⟨hnf.phase, hnf.connected⟩, fun x p hx hs => ?_⟩
  rw [← hs.failed_iff hx hnf]
  exact ⟨fun hf => ⟨hf.1, hf.2⟩, fun hf => ⟨hf.phase, hf.connected⟩⟩

/-- The credentials are refused while the session is connected, and its worker returns. A late
question of the server leads out of the failure. -/
theorem Reachable.failed_until_raised_of_question : ∃ m n p : Moment, m.Reachable Anyhow ∧
    m.tunnel.isLive ∧
    Run (fun a x => Unasked a x ∧ ¬a.Raised x)
      (m.map (·.report ⟨.authFailed, "bad password", true, true⟩)) n ∧
    n.running = 0 ∧ n.session.phase = .failed ∧
    n.Step (.event ⟨.authPending, "code", false, false⟩) p ∧
    ¬(p.session.phase = .failed ∧ p.session.connected = false) := by
  obtain ⟨m, hm, hf, hrun, hs⟩ := exists_connected_anyhow
  have hl : m.tunnel.isLive := isLive_of_connectedSession hf hs
  let a : Moment := m.map (·.report ⟨.authFailed, "bad password", true, true⟩)
  let n : Moment :=
    { a.map (·.finish (.error ⟨"AUTH_FAILED", true⟩)) with running := a.running - 1 }
  have hn : Run (fun a x => Unasked a x ∧ ¬a.Raised x) a n :=
    .step (.returned _ (by rw [show a.running = 1 from hrun]; decide)) ⟨trivial, id⟩ .refl
  obtain ⟨⟨hphase, -⟩, hnext⟩ :=
    hm.failed_until_raised hl (e := ⟨.authFailed, "bad password", true, true⟩) rfl hn
  have hns : n.session = ((connectedSession ⟨.connected, "", false, false⟩).hear
      ⟨.authFailed, "bad password", true, true⟩).exit (.error ⟨"AUTH_FAILED", true⟩) := by
    rw [← hs, ← session_report hf.2]
    exact session_finish ((Tunnel.gone_report _ _).trans hf.2) _
  refine ⟨m, n, _, hm, hl, hn, ?_, hphase, .event _, ?_⟩
  · show m.running - 1 = 0
    rw [hrun]
  · rw [hnext (.event ⟨.authPending, "code", false, false⟩) _ trivial (.event _), not_not]
    refine ⟨?_, ?_⟩
    · have hd : n.tunnel.session.destroying = false := congrArg Session.destroying hns
      have hg : n.tunnel.gone = false :=
        (Tunnel.gone_finish _ _).trans ((Tunnel.gone_report _ _).trans hf.2)
      simp [Tunnel.isLive, hg, hd]
    · rw [hns]
      rfl

/-- What an engine does on its own can end a failure: a connection that is reported after the
credentials were refused is followed. -/
theorem not_failed_for_good : ¬∀ (m n : Moment) (e : Event), m.Reachable Anyhow →
    m.call = .none → m.tunnel.isLive → e.isFinal →
    Run (fun _ x => x.isReport) (m.map (·.report e)) n →
    n.session.phase = .failed ∧ n.session.connected = false := by
  intro h
  obtain ⟨m, hm, hf, -, hs⟩ := exists_connected_anyhow
  have hl : m.tunnel.isLive := isLive_of_connectedSession hf hs
  let e : Event := ⟨.authFailed, "bad password", true, true⟩
  let d : Event := ⟨.connected, "10.8.0.2", false, false⟩
  have hn := h m ((m.map (·.report e)).map (·.report d)) e hm hf.1 hl rfl
    (.step (.event d) rfl .refl)
  have hns : ((m.map (·.report e)).map (·.report d)).session =
      ((connectedSession ⟨.connected, "", false, false⟩).hear e).hear d := by
    rw [session_report ((Tunnel.gone_report _ _).trans hf.2), session_report hf.2, hs]
  rw [hns] at hn
  exact absurd hn.1 (by decide)

end Moment

end TunnelRelay
