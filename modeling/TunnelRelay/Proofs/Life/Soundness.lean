import Mathlib.Tactic.ByContra
import TunnelRelay.Proofs.Life.Steps

/-!
# How calls, workers and releases go together

What the session knows about its worker agrees with the connections that are under way, and a
release goes through its stages once. This holds in every run, whatever the engine reports.

## Main definitions

- `Session.SameRelease`, `Session.SameStanding` — changes that leave the release, or the worker
  as well, alone
- `Moment.SlotAgrees` — the session's worker and the connections under way
- `Moment.Guarded`, `Moment.Slotted` — the invariant of the release, and the one of the worker
- `Moment.Sound` — both

## Main statements

- `Moment.Step.guarded`, `Moment.Step.slotted`, `Moment.Step.sound` — the invariants are kept
- `Moment.Reachable.sound` — they hold in every run
-/

namespace TunnelRelay

open Engine (Config Credentials Event Failure ProfileInfo Verdict)

/-- The two sessions agree on the stages of the release. -/
structure Session.SameRelease (s u : Session) : Prop where
  destroying : u.destroying = s.destroying
  released : u.released = s.released
  phase : u.phase = .destroyed ↔ s.phase = .destroyed

/-- The two sessions agree on the worker, too. -/
structure Session.SameStanding (s u : Session) : Prop extends s.SameRelease u where
  worker : u.worker = s.worker

namespace Session

theorem SameRelease.trans {s u v : Session} (h : s.SameRelease u) (k : u.SameRelease v) :
    s.SameRelease v :=
  ⟨k.destroying.trans h.destroying, k.released.trans h.released, k.phase.trans h.phase⟩

theorem SameStanding.refl (s : Session) : s.SameStanding s := ⟨⟨rfl, rfl, Iff.rfl⟩, rfl⟩

theorem SameStanding.trans {s u v : Session} (h : s.SameStanding u) (k : u.SameStanding v) :
    s.SameStanding v :=
  ⟨h.toSameRelease.trans k.toSameRelease, k.worker.trans h.worker⟩

theorem setPhase_sameStanding (s : Session) {p : Phase} (hp : p ≠ .destroyed) :
    s.SameStanding (s.setPhase p) := by
  unfold setPhase
  split
  · exact .refl s
  · next h => exact ⟨⟨rfl, rfl, iff_of_false hp h⟩, rfl⟩

theorem fail_sameStanding (s : Session) (text : String) : s.SameStanding (s.fail text) :=
  SameStanding.trans (u := (s.setError text).clearFlags) ⟨⟨rfl, rfl, Iff.rfl⟩, rfl⟩
    (setPhase_sameStanding _ (by decide))

theorem remember_sameStanding (s : Session) (e : Event) : s.SameStanding (s.remember e) := by
  unfold remember
  split <;> exact ⟨⟨rfl, rfl, Iff.rfl⟩, rfl⟩

theorem follow_sameStanding (s : Session) (e : Event) : s.SameStanding (s.follow e) := by
  unfold follow
  split
  · exact SameStanding.trans (u := { s with connected := true, connecting := false })
      ⟨⟨rfl, rfl, Iff.rfl⟩, rfl⟩ (setPhase_sameStanding _ (by decide))
  -- A session that was destroyed is settled, so its phase stays.
  · by_cases h : s.clearFlags.phase.isSettled
    · simp only [h, if_true]
      exact ⟨⟨rfl, rfl, Iff.rfl⟩, rfl⟩
    · have hd : s.phase ≠ .destroyed := by
        rintro hd
        exact h (by rw [clearFlags, hd]; rfl)
      simp only [h, if_false, Bool.false_eq_true]
      exact ⟨⟨rfl, rfl, iff_of_false Phase.noConfusion hd⟩, rfl⟩
  · exact setPhase_sameStanding s (by decide)
  · exact fail_sameStanding s _
  · split
    · exact fail_sameStanding s _
    · split
      · exact .refl s
      · exact setPhase_sameStanding s (by decide)
  · split
    · exact fail_sameStanding s _
    · exact ⟨⟨rfl, rfl, Iff.rfl⟩, rfl⟩
  · split
    · exact fail_sameStanding s _
    · exact ⟨⟨rfl, rfl, Iff.rfl⟩, rfl⟩
  · exact .refl s

theorem hear_sameStanding (s : Session) (e : Event) : s.SameStanding (s.hear e) := by
  unfold hear
  split
  · exact .refl s
  · show s.SameStanding
      (if (s.remember e).ignores e then s.remember e else (s.remember e).follow e)
    split
    · exact remember_sameStanding s e
    · exact (remember_sameStanding s e).trans (follow_sameStanding _ e)

theorem storeSettings_sameStanding (s : Session) (x : Settings) :
    s.SameStanding (s.storeSettings x) := by
  rw [storeSettings_eq]
  exact ⟨⟨rfl, rfl, Iff.rfl⟩, rfl⟩

theorem reconnect_sameStanding (s : Session) (r : Except Failure Unit) :
    s.SameStanding (s.reconnect r).2 := by
  rw [reconnect_eq]
  exact ⟨⟨rfl, rfl, Iff.rfl⟩, rfl⟩

theorem abort_sameStanding (s : Session) (f : Fault) : s.SameStanding (s.abort f) := by
  have h : s.SameStanding { s with connecting := false } := ⟨⟨rfl, rfl, Iff.rfl⟩, rfl⟩
  cases f
  all_goals exact (h.trans (setPhase_sameStanding _ (by decide))).trans ⟨⟨rfl, rfl, Iff.rfl⟩, rfl⟩

theorem begin?_sameStanding {s u : Session} {profile : String}
    (h : s.begin? profile = .ok u) : s.SameStanding u := by
  obtain ⟨-, -, -, -, rfl⟩ := begin?_eq_ok h
  exact SameStanding.trans
    (u := { s with connecting := true, stopRequested := false, lastError := none })
    ⟨⟨rfl, rfl, Iff.rfl⟩, rfl⟩ (setPhase_sameStanding _ (by decide))

theorem refused_sameStanding {s u : Session} {profile : String} {f : Fault}
    (h : s.begin? profile = .error (f, u)) : s.SameStanding u := by
  obtain rfl | rfl := begin?_eq_error h
  · exact .refl _
  · exact ⟨⟨rfl, rfl, Iff.rfl⟩, rfl⟩

/-- A stage of an attempt that leaves the worker and the release alone, however it ends. -/
def KeepsStanding (s : Session) (x : Except (Fault × Session) Session) : Prop :=
  match x with
  | .ok u => s.SameStanding u
  | .error (_, u) => s.SameStanding u

theorem engage_keepsStanding (s : Session) : s.KeepsStanding s.engage := by
  cases h : s.released
  · rw [engage_of_held h]
    exact .refl s
  · simp only [engage, h, if_true]
    exact abort_sameStanding s _

theorem evaluated_keepsStanding (s : Session) (k : Credentials) (r : Except Failure ProfileInfo) :
    s.KeepsStanding (s.evaluated k r) := by
  cases r with
  | error e => exact abort_sameStanding s _
  | ok i =>
    have h : s.SameStanding (s.setPhase .authenticating) := setPhase_sameStanding s (by decide)
    simp only [evaluated]
    split
    · exact h.trans (abort_sameStanding _ _)
    · exact h

theorem startWorker_sameRelease (s : Session) : s.SameRelease s.startWorker :=
  have h := setPhase_sameStanding s (p := .connecting) (by decide)
  ⟨h.destroying, h.released, h.phase⟩

theorem refuseWorker_sameRelease (s : Session) (text : String) :
    s.SameRelease (s.refuseWorker text) :=
  have h := setPhase_sameStanding s (p := .connecting) (by decide)
  SameRelease.trans (u := { s.setPhase .connecting with worker := .absent })
    ⟨h.destroying, h.released, h.phase⟩ (abort_sameStanding _ _).toSameRelease

theorem worker_refuseWorker (s : Session) (text : String) :
    (s.refuseWorker text).worker = .absent := (abort_sameStanding _ _).worker

theorem beginStop_sameRelease (s : Session) : s.SameRelease s.beginStop := by
  unfold beginStop
  cases s.isActive
  · exact ⟨rfl, rfl, Iff.rfl⟩
  · exact SameRelease.trans (u := { s with stopRequested := true }.setPhase .disconnecting)
      (SameRelease.trans (u := { s with stopRequested := true }) ⟨rfl, rfl, Iff.rfl⟩
        (setPhase_sameStanding _ (by decide)).toSameRelease)
      ⟨rfl, rfl, Iff.rfl⟩

theorem endStop_sameRelease (s : Session) (active left : Bool) :
    s.SameRelease (s.endStop active left) := by
  have h : s.SameRelease (if left then { s with worker := .running } else s) := by
    cases left
    · exact ⟨rfl, rfl, Iff.rfl⟩
    · exact ⟨rfl, rfl, Iff.rfl⟩
  cases active
  · exact h
  · exact h.trans (setPhase_sameStanding _ (by decide)).toSameRelease

theorem worker_endStop (s : Session) (active left : Bool) :
    (s.endStop active left).worker = if left then .running else s.worker := by
  cases active <;> cases left <;> simp [endStop]

theorem Phase.afterReturn_eq_destroyed_iff (p : Phase) (v : Verdict) :
    p.afterReturn v = .destroyed ↔ p = .destroyed := by
  cases v <;> cases p <;> simp [afterReturn, isSettled]

theorem exit_sameRelease (s : Session) (v : Verdict) : s.SameRelease (s.exit v) :=
  ⟨rfl, rfl, Phase.afterReturn_eq_destroyed_iff s.phase v⟩

end Session

namespace Moment

/-- An attempt is in progress. -/
def Call.isAttempt : Call → Bool
  | evaluating _ _ | authenticating _ => true
  | _ => false

/-- A release is in progress. -/
def Call.isRelease : Call → Bool
  | releasing | clearing | stopping _ _ true => true
  | _ => false

/-- The session's worker and the number of connections under way. During an attempt there is
none. A stop takes the worker out of the session, and there is at most the one it waits for. -/
def SlotAgrees (c : Call) (w : Session.Worker) (running : Nat) : Prop :=
  match c with
  | .evaluating _ _ | .authenticating _ => running = 0 ∧ w ≠ .running
  | .stopping _ working _ => w = .absent ∧ running ≤ if working then 1 else 0
  | _ => running = if w = .running then 1 else 0

/-- How the call and the release go together. -/
structure Guarded (m : Moment) : Prop where
  attempt : m.call.isAttempt → m.session.destroying = false
  release : m.call.isRelease → m.session.destroying ∧ m.session.released = false
  destroying : m.session.destroying → m.session.released ∨ m.call.isRelease
  released : m.session.released → m.session.destroying
  phase : m.session.phase = .destroyed ↔ m.session.released

/-- The session knows its worker, as long as somebody holds it. -/
def Slotted (m : Moment) : Prop :=
  m.tunnel.gone = false → SlotAgrees m.call m.session.worker m.running

/-- How the call, the worker and the release go together. -/
structure Sound (m : Moment) : Prop extends m.Guarded where
  slot : m.Slotted

/-- A session that is not being released was not destroyed. -/
theorem Guarded.phase_ne {m : Moment} (h : m.Guarded) (hd : m.session.destroying = false) :
    m.session.phase ≠ .destroyed := by
  intro hp
  rw [h.released (h.phase.1 hp)] at hd
  cases hd

theorem Guarded.of_sameRelease {m n : Moment} (h : m.Guarded)
    (hs : m.session.SameRelease n.session) (hc : n.call.isRelease = m.call.isRelease)
    (attempt : n.call.isAttempt → m.session.destroying = false) : n.Guarded where
  attempt := by
    rw [hs.destroying]
    exact attempt
  release := by
    rw [hc, hs.destroying, hs.released]
    exact h.release
  destroying := by
    rw [hc, hs.destroying, hs.released]
    exact h.destroying
  released := by
    rw [hs.destroying, hs.released]
    exact h.released
  phase := by
    rw [hs.released, hs.phase]
    exact h.phase

theorem sound_of_create {id : String} {prefs : Preferences} {e : Engine}
    {a : Tunnel.Application} {t : Tunnel} (h : Tunnel.create id prefs e a = .ok t) :
    ({ tunnel := t } : Moment).Sound := by
  have hs : ({ tunnel := t } : Moment).session = { id, prefs } := (Tunnel.create_eq_ok h).1
  refine ⟨⟨nofun, nofun, ?_, ?_, ?_⟩, fun _ => ?_⟩
  · rw [hs]
    exact nofun
  · rw [hs]
    exact nofun
  · rw [hs]
    exact iff_of_false Session.Phase.noConfusion Bool.false_ne_true
  · rw [hs]
    rfl

theorem slotAgrees_none_of_attempt {c : Call} {w : Session.Worker} {n : Nat} (hc : c.isAttempt)
    (h : SlotAgrees c w n) : SlotAgrees .none w n := by
  cases c with
  | evaluating | authenticating =>
    show n = if w = .running then 1 else 0
    rw [if_neg h.2]
    exact h.1
  | _ => cases hc

theorem slotAgrees_ended {c : Call} {w : Session.Worker} {n : Nat} (hn : 0 < n)
    (h : SlotAgrees c w n) : SlotAgrees c w.ended (n - 1) := by
  cases c with
  | evaluating | authenticating => exact absurd h.1 (Nat.ne_of_gt hn)
  | stopping active working release =>
    obtain ⟨rfl, hle⟩ := h
    exact ⟨rfl, Nat.le_trans (Nat.sub_le n 1) hle⟩
  | _ =>
    have hw : n = if w = .running then 1 else 0 := h
    show n - 1 = if w.ended = .running then 1 else 0
    cases w <;> simp_all [Session.Worker.ended]

theorem slotAgrees_stopInside {c : Call} {w : Session.Worker} {n : Nat} (hn : 0 < n)
    (h : SlotAgrees c w n) :
    SlotAgrees c (if decide (w = .running) then .running else .absent) n := by
  cases c with
  | evaluating | authenticating => exact absurd h.1 (Nat.ne_of_gt hn)
  | stopping active working release =>
    -- The stop that waits has taken the worker out of the session already.
    obtain ⟨rfl, hle⟩ := h
    exact ⟨rfl, hle⟩
  | _ =>
    have hw : n = if w = .running then 1 else 0 := h
    show n = if _ = Session.Worker.running then 1 else 0
    cases w <;> simp_all

theorem Guarded.beginRelease {m : Moment} (h : m.Guarded) : m.beginRelease.Guarded := by
  unfold Moment.beginRelease
  split
  · exact h
  · next hd =>
    have hr : m.session.released = false := by
      by_contra hr
      exact hd (h.released (by simpa using hr))
    exact
      { attempt := nofun
        release := fun _ => ⟨rfl, hr⟩
        destroying := fun _ => .inr rfl
        released := fun _ => rfl
        phase := h.phase }

theorem Guarded.endRelease {m : Moment} (h : m.Guarded) (hc : m.call = .clearing) :
    ({ m.map (·.mapSession .endRelease) with call := .none } : Moment).Guarded where
  attempt := nofun
  release := nofun
  destroying := fun _ => .inl (by simp [session, map, Session.endRelease])
  released := fun _ => by
    simpa [session, map, Session.endRelease] using (h.release (by rw [hc]; rfl)).1
  phase := iff_of_true (Session.phase_endRelease _)
    (by simp [session, map, Session.endRelease])

/-- What the session only notes leaves the worker and the release alone. -/
theorem Step.sameStanding {m n : Moment} {x : Move} (h : m.Step x n) (hx : x.isBrief) :
    m.session.SameStanding n.session ∧ n.call = m.call ∧ n.running = m.running ∧
      n.tunnel.gone = m.tunnel.gone := by
  have ha := h.alike
  cases h with
  | line | protection | answered | owner | elsewhere | pause | resume | ask =>
    have ha := ha rfl
    exact ⟨ha.session ▸ .refl _, ha.call, ha.running, ha.gone⟩
  | event e =>
    exact ⟨report_keeps (C := m.session.SameStanding) (.refl _) (Session.hear_sameStanding _ e),
      rfl, rfl, Tunnel.gone_report _ e⟩
  | notice x =>
    exact ⟨tell_keeps (C := m.session.SameStanding) (.refl _)
      (Session.storeSettings_sameStanding _) x, rfl, rfl, Tunnel.gone_tell ..⟩
  | refused hf hb => exact ⟨Session.refused_sameStanding hb, rfl, rfl, rfl⟩
  | restart hf answer =>
    exact ⟨Session.reconnect_sameStanding _ answer, rfl, rfl, Tunnel.gone_restart ..⟩
  | _ => cases hx

theorem goOn_sameStanding {m : Moment} {s : Session} (hs : s.SameStanding m.session)
    {x : Except (Fault × Session) Session} (hx : m.session.KeepsStanding x) (next : Call) :
    s.SameStanding (m.goOn x next).session := by
  cases x with
  | error y => exact hs.trans hx
  | ok u => exact hs.trans hx

/-- Only the beginning and the end of a release change its stage. -/
theorem Step.sameRelease {m n : Moment} {x : Move} (h : m.Step x n) (hx : x.isRelease = false) :
    m.session.SameRelease n.session := by
  have brief := h.sameStanding
  cases h with
  | line | protection | answered | owner | elsewhere | pause | resume | ask | event | notice
  | refused | restart => exact (brief rfl).1.toSameRelease
  | returned v hr =>
    exact finish_keeps (C := m.session.SameRelease) ⟨rfl, rfl, Iff.rfl⟩
      (Session.exit_sameRelease _ v)
  | @admitted hf profile s k hb =>
    exact (goOn_sameStanding (m := m.put s) (Session.begin?_sameStanding hb)
      (Session.engage_keepsStanding s) _).toSameRelease
  | @evaluated c k r hc =>
    exact (goOn_sameStanding (m := m.map (·.note (.evaluate c r))) (.refl _)
      (Session.evaluated_keepsStanding m.session k r) _).toSameRelease
  | declined e hc => exact (Session.abort_sameStanding m.session _).toSameRelease
  | started hc => exact Session.startWorker_sameRelease _
  | unstarted text hc => exact Session.refuseWorker_sameRelease _ text
  | stop hf | releaseStop hc =>
    rw [session_beginStop]
    exact Session.beginStop_sameRelease _
  | stopped hc => exact Session.endStop_sameRelease _ _ _
  | stopInside hr hg =>
    rw [session_stopInside]
    exact (Session.beginStop_sameRelease _).trans (Session.endStop_sameRelease _ _ _)
  | release | abandon | released => cases hx

/-- A stage of an attempt belongs to no release. -/
theorem isRelease_goOn (m : Moment) (x : Except (Fault × Session) Session) {next : Call}
    (hn : next.isRelease = false) : (m.goOn x next).call.isRelease = false := by
  cases x with
  | error y => rfl
  | ok u => exact hn

/-- **Every step keeps a moment guarded**, whatever becomes of the worker. -/
theorem Step.guarded {m n : Moment} {x : Move} (h : m.Step x n) (hm : m.Guarded) : n.Guarded := by
  have same := h.sameRelease
  cases h with
  | line | protection | answered | owner | elsewhere | pause | resume | ask | event | notice
  | refused | restart | returned | stopInside => exact hm.of_sameRelease (same rfl) rfl hm.attempt
  | admitted hf k hb =>
    refine hm.of_sameRelease (same rfl) ?_ fun _ => (Session.begin?_eq_ok hb).1
    rw [isRelease_goOn _ _ rfl, hf.1]
    rfl
  | evaluated r hc =>
    refine hm.of_sameRelease (same rfl) ?_ fun _ => hm.attempt (by rw [hc]; rfl)
    rw [isRelease_goOn _ _ rfl, hc]
    rfl
  | declined e hc | started hc | unstarted text hc =>
    exact hm.of_sameRelease (same rfl) (by rw [hc]; rfl) nofun
  | stop hf => exact hm.of_sameRelease (same rfl) (by rw [hf.1]; rfl) nofun
  | releaseStop hc => exact hm.of_sameRelease (same rfl) (by rw [hc]; rfl) nofun
  | @stopped active working release hc =>
    refine hm.of_sameRelease (same rfl) ?_ ?_
    · rw [hc]
      cases release <;> rfl
    · cases release <;> exact nofun
  | release hf => exact hm.beginRelease
  | abandon hf =>
    have hgone : (m.map fun t => { t with gone := true }).Guarded :=
      hm.of_sameRelease ⟨rfl, rfl, Iff.rfl⟩ rfl hm.attempt
    exact hgone.beginRelease
  | released hc => exact hm.endRelease hc

theorem Slotted.of_same {m n : Moment} (h : m.Slotted) (hc : n.call = m.call)
    (hr : n.running = m.running) (hg : n.tunnel.gone = m.tunnel.gone)
    (hw : n.session.worker = m.session.worker) : n.Slotted := by
  intro hn
  rw [hc, hr, hw]
  exact h (hg ▸ hn)

/-- The worker that is known is the one that runs, when no call is in progress. -/
theorem Slotted.of_free {m : Moment} (h : m.Slotted) (hf : m.Free) :
    m.running = if m.session.worker = .running then 1 else 0 := by
  have := h hf.2
  rwa [hf.1] at this

theorem Slotted.finish {m : Moment} (h : m.Slotted) (v : Verdict) (hr : 0 < m.running) :
    ({ m.map (·.finish v) with running := m.running - 1 } : Moment).Slotted := by
  intro hg
  have hg : m.tunnel.gone = false := (Tunnel.gone_finish m.tunnel v).symm.trans hg
  show SlotAgrees m.call (m.tunnel.finish v).session.worker (m.running - 1)
  rw [Tunnel.session_finish, hg]
  exact slotAgrees_ended hr (h hg)

/-- A stage of an attempt leaves the worker alone, whether the attempt ends there or not. -/
theorem slotted_goOn {m : Moment} {x : Except (Fault × Session) Session}
    (hx : m.session.KeepsStanding x) {next : Call}
    (hw : m.tunnel.gone = false → SlotAgrees .none m.session.worker m.running)
    (hs : m.tunnel.gone = false → SlotAgrees next m.session.worker m.running) :
    (m.goOn x next).Slotted := by
  intro hg
  cases x with
  | error y =>
    have hy : m.session.SameStanding y.2 := hx
    show SlotAgrees .none y.2.worker m.running
    rw [hy.worker]
    exact hw hg
  | ok u =>
    have hu : m.session.SameStanding u := hx
    show SlotAgrees next u.worker m.running
    rw [hu.worker]
    exact hs hg

/-- An attempt begins without a worker, and without a connection that is under way. -/
theorem Slotted.admit {m : Moment} (h : m.Slotted) (hf : m.Free) {profile : String} {s : Session}
    (hb : m.session.begin? profile = .ok s) (c : Config) (k : Credentials) :
    (m.goOn s.engage (.evaluating c k)).Slotted := by
  obtain ⟨-, hw, -⟩ := Session.begin?_eq_ok hb
  have hs : s.worker ≠ .running := by
    rw [(Session.begin?_sameStanding hb).worker]
    exact hw
  have hrun := h.of_free hf
  rw [if_neg hw] at hrun
  have hslot : SlotAgrees .none s.worker m.running := by
    show m.running = if s.worker = .running then 1 else 0
    rw [if_neg hs]
    exact hrun
  exact slotted_goOn (m := m.put s) (Session.engage_keepsStanding s) (fun _ => hslot)
    fun _ => ⟨hrun, hs⟩

theorem Step.slotted_of_attempt {m n : Moment} {x : Move} (h : m.Step x n) (hx : x.isAttempt)
    (hm : m.Slotted) : n.Slotted := by
  cases h with
  | admitted hf k hb => exact hm.admit hf hb _ k
  | @evaluated c k r hc =>
    have ha : m.call.isAttempt := by rw [hc]; rfl
    refine slotted_goOn (m := m.map (·.note (.evaluate c r)))
      (Session.evaluated_keepsStanding _ k r)
      (fun hg => slotAgrees_none_of_attempt ha (hm hg)) fun hg => ?_
    have := hm hg
    rw [hc] at this
    exact this
  | @declined k e hc =>
    have ha : m.call.isAttempt := by rw [hc]; rfl
    exact slotted_goOn (m := m.map (·.note (.authenticate k)))
      (x := m.session.authenticated (.error e)) (Session.abort_sameStanding m.session _)
      (fun hg => slotAgrees_none_of_attempt ha (hm hg))
      (fun hg => slotAgrees_none_of_attempt ha (hm hg))
  | started hc =>
    intro hg
    have := hm hg
    rw [hc] at this
    show m.running + 1 = 1
    rw [this.1]
  | unstarted text hc =>
    intro hg
    have := hm hg
    rw [hc] at this
    show m.running = if (m.session.refuseWorker text).worker = .running then 1 else 0
    rw [Session.worker_refuseWorker]
    exact this.1
  | _ => cases hx

theorem slotted_beginStop {m : Moment} (release : Bool) (hw : m.tunnel.gone = false →
    m.running = if m.session.worker = .running then 1 else 0) : (m.beginStop release).Slotted := by
  intro hg
  have hg' : m.tunnel.gone = false := by simpa [Moment.beginStop, map] using hg
  rw [session_beginStop]
  refine ⟨rfl, ?_⟩
  show m.running ≤ if m.session.workerRunning then 1 else 0
  simp [hw hg', Session.workerRunning]

theorem Slotted.endStop {m : Moment} (h : m.Slotted) {active working release : Bool}
    (hc : m.call = .stopping active working release) :
    (m.endStop active working release).Slotted := by
  intro hg
  have hs := h hg
  rw [hc] at hs
  obtain ⟨ha, hle⟩ := hs
  have hrun : m.running =
      if (m.endStop active working release).session.worker = .running then 1 else 0 := by
    show m.running = if (m.session.endStop active _).worker = .running then 1 else 0
    rw [Session.worker_endStop, ha]
    -- A stop that found no worker has none to know again.
    cases working <;> simp at hle ⊢ <;> grind
  cases release <;> exact hrun

theorem Step.slotted_of_stop {m n : Moment} {x : Move} (h : m.Step x n) (hx : x.isStop)
    (hm : m.Slotted) : n.Slotted := by
  cases h with
  | stop hf => exact slotted_beginStop _ fun _ => hm.of_free hf
  | releaseStop hc =>
    refine slotted_beginStop _ fun hg => ?_
    have := hm hg
    rw [hc] at this
    exact this
  | stopped hc => exact hm.endStop hc
  | stopInside hr hg =>
    intro _
    show SlotAgrees m.call (m.map (·.stopInside)).session.worker m.running
    rw [session_stopInside, Session.worker_endStop]
    exact slotAgrees_stopInside hr (hm hg)
  | _ => cases hx

theorem Slotted.beginRelease {m : Moment} (h : m.Slotted) (hf : m.call = .none) :
    m.beginRelease.Slotted := by
  unfold Moment.beginRelease
  split
  · exact h
  · intro hg
    have := h hg
    rw [hf] at this
    exact this

theorem Step.slotted_of_release {m n : Moment} {x : Move} (h : m.Step x n) (hx : x.isRelease)
    (hm : m.Slotted) : n.Slotted := by
  cases h with
  | release hf => exact hm.beginRelease hf.1
  | abandon hf =>
    have hgone : (m.map fun t => { t with gone := true }).Slotted := fun hg =>
      absurd hg.symm Bool.false_ne_true
    exact hgone.beginRelease hf.1
  | released hc =>
    intro hg
    have := hm hg
    rw [hc] at this
    show m.running = if m.session.endRelease.worker = .running then 1 else 0
    rw [Session.endRelease, Session.worker_setPhase]
    exact this
  | _ => cases hx

/-- **Every step keeps the session's knowledge of its worker right.** -/
theorem Step.slotted {m n : Moment} {x : Move} (h : m.Step x n) (hm : m.Slotted) :
    n.Slotted := by
  cases x with
  | admitted | evaluated | declined | started | unstarted => exact h.slotted_of_attempt rfl hm
  | stop | stopped | stopInside | releaseStop => exact h.slotted_of_stop rfl hm
  | release | abandon | released => exact h.slotted_of_release rfl hm
  | returned v =>
    cases h with
    | returned _ hr => exact hm.finish v hr
  | _ =>
    obtain ⟨hs, hc, hr, hg⟩ := h.sameStanding rfl
    exact hm.of_same hc hr hg hs.worker

/-- **Every step keeps a moment sound**, whatever the engine reports and answers. -/
theorem Step.sound {m n : Moment} {x : Move} (h : m.Step x n) (hm : m.Sound) : n.Sound :=
  ⟨h.guarded hm.toGuarded, h.slotted hm.slot⟩

theorem Reachable.sound {P : Moment → Move → Prop} {m : Moment} (h : m.Reachable P) : m.Sound :=
  h.keeps sound_of_create fun _ hx ha => hx.sound ha

end Moment

end TunnelRelay
