import TunnelRelay.Proofs.Life.Agreement
import TunnelRelay.Proofs.Life.Besides

/-!
# What engines and devices do is a run

The steps of a moment are what can happen to a tunnel. While an engine connects, obeys or stops,
nothing else happens: one tunnel becomes another in a run, during the same call.

## Main definitions

- `Moment.Lenient` — disciplines that restrict nothing but the events of engines
- `Tunnel.during` — the moment of a tunnel in a call
- `Tunnel.Passes` — a run from one tunnel to another

## Main statements

- `Tunnel.Passes.settle`, `Tunnel.Passes.stopEngine` — commands and stops, as engines obey them
-/

namespace TunnelRelay

open Engine (Command Event Link Loopback Verdict)
open Moment (Call Run)
open Tun (Notice)

/-- An engine reports an event. -/
def Move.isEvent : Move → Bool
  | event _ => true
  | _ => false

/-- A discipline that lets engines report the events of `E`, except in an attempt, and restricts
nothing else. -/
structure Moment.Lenient (E : Event → Prop) (P : Moment → Move → Prop) : Prop where
  other : ∀ m (x : Move), x.isEvent = false → P m x
  event : ∀ (m : Moment) {e}, m.call.isAttempt = false → E e → P m (.event e)
  plain : ∀ {e : Event}, e.Plain → E e

theorem Moment.lenient_anyhow : Lenient (fun _ => True) Anyhow :=
  ⟨fun _ _ _ => trivial, fun _ _ _ _ => trivial, fun _ => trivial⟩

theorem Moment.lenient_sane : Lenient Event.Plain Sane := by
  refine ⟨fun m x hx => ?_, fun m e hm he => ⟨he, by simp [hm]⟩, id⟩
  cases x with
  | event e => cases hx
  | _ => trivial

/-- How many connections of an engine are under way. -/
def Engine.connections (e : Engine) : Nat := if e.isBusy then 1 else 0

namespace Tunnel

/-- The moment of a tunnel in a call. -/
def during (t : Tunnel) (c : Call) : Moment := ⟨t, c, t.engine.connections⟩

/-- What is neither the session nor written down changes in a step. -/
theorem elsewhere_step {t u : Tunnel} {c : Call} {n : Nat} (hs : u.session = t.session)
    (ha : u.acts = t.acts) (hg : u.gone = t.gone) :
    (⟨t, c, n⟩ : Moment).Step .elsewhere ⟨u, c, n⟩ := by
  obtain ⟨session, engine, application, bay, own, relay, gone, acts⟩ := u
  cases hs
  cases ha
  cases hg
  exact .elsewhere engine application bay own relay

/-- A run from one tunnel to another in the same call, with the same holders. -/
structure Passes (P : Moment → Move → Prop) (c : Call) (t u : Tunnel) : Prop where
  run : Run P (t.during c) (u.during c)
  gone : u.gone = t.gone

variable {E : Event → Prop} {P : Moment → Move → Prop} {c : Call} {t u v : Tunnel}

namespace Passes

theorem refl (t : Tunnel) : Passes P c t t := ⟨.refl, rfl⟩

theorem trans (h : Passes P c t u) (k : Passes P c u v) : Passes P c t v :=
  ⟨h.run.trans k.run, k.gone.trans h.gone⟩

/-- One step of the tunnel, with the engine busy as it was. -/
theorem of_step {f : Tunnel → Tunnel} {x : Move} (hP : Moment.Lenient E P)
    (hs : (t.during c).Step x ((t.during c).map f)) (hx : x.isEvent = false)
    (hb : (f t).engine = t.engine) (hg : (f t).gone = t.gone) : Passes P c t (f t) := by
  refine ⟨.step hs (hP.other _ _ hx) ?_, hg⟩
  have he : (t.during c).map f = (f t).during c := by
    rw [during, during, hb]
    rfl
  rw [he]
  exact .refl

theorem report (hP : Moment.Lenient E P) (hc : c.isAttempt = false) (t : Tunnel) {e : Event}
    (he : E e) : Passes P c t (t.report e) := by
  refine ⟨.step (.event e) (hP.event _ hc he) ?_, gone_report t e⟩
  have hm : (t.during c).map (·.report e) = (t.report e).during c := by
    rw [during, during, (report_besides t e).engine]
    rfl
  rw [hm]
  exact .refl

theorem line (hP : Moment.Lenient E P) (t : Tunnel) (text : String) :
    Passes P c t (t.note (.line text)) := of_step hP (.line text) rfl rfl rfl

theorem protect (hP : Moment.Lenient E P) (t : Tunnel) (x : Socket) (remote : String) (ipv6 : Bool) :
    Passes P c t (t.protect x remote ipv6).2 :=
  of_step hP (.protection x remote ipv6) rfl (protect_besides t x remote ipv6).engine
    (gone_protect ..)

theorem tell (hP : Moment.Lenient E P) (t : Tunnel) (x : Notice) : Passes P c t (t.tell x).2 :=
  of_step hP (.notice x) rfl (tell_besides t x).engine (gone_tell t x)

/-- The engine, the devices and the application change, and no connection begins or ends. -/
theorem elsewhere (hP : Moment.Lenient E P) (hs : u.session = t.session) (ha : u.acts = t.acts)
    (hg : u.gone = t.gone) (hb : u.engine.isBusy = t.engine.isBusy) : Passes P c t u := by
  have hstep := elsewhere_step (c := c) (n := t.engine.connections) hs ha hg
  refine ⟨.step hstep (hP.other _ _ rfl) ?_, hg⟩
  have hu : u.during c = ⟨u, c, t.engine.connections⟩ := by
    simp only [during, Engine.connections, hb]
  rw [hu]
  exact .refl

theorem tearDown (hP : Moment.Lenient E P) (t : Tunnel) : Passes P c t t.tearDown := by
  unfold Tunnel.tearDown
  split
  · exact elsewhere hP rfl rfl rfl rfl
  · exact .refl t

/-- The connection of an engine ends, and its worker returns. -/
theorem finish (hP : Moment.Lenient E P) (hb : t.engine.isBusy) {e : Engine}
    (he : e.isBusy = false) (v : Verdict) : Passes P c t ({ t with engine := e }.finish v) := by
  let w : Tunnel := { t with engine := e }
  have hrun : t.during c = ⟨t, c, 1⟩ := by simp only [during, Engine.connections, hb, if_true]
  have hchange : (⟨t, c, 1⟩ : Moment).Step .elsewhere ⟨w, c, 1⟩ := elsewhere_step rfl rfl rfl
  -- The connection counts as under way until its worker has returned.
  have hreturn : (⟨w, c, 1⟩ : Moment).Step (.returned v) ⟨w.finish v, c, 0⟩ :=
    .returned v Nat.one_pos
  have hend : (w.finish v).during c = ⟨w.finish v, c, 0⟩ := by
    have hw : (w.finish v).engine.isBusy = false := by
      rw [engine_finish]
      exact he
    simp only [during, Engine.connections, hw, if_false, Bool.false_eq_true]
  refine ⟨?_, gone_finish w v⟩
  rw [hrun, hend]
  exact .step hchange (hP.other _ _ rfl) (.step hreturn (hP.other _ _ rfl) .refl)

/-- An engine goes on, and its connection ends if there is a verdict. -/
theorem finishIf (hP : Moment.Lenient E P) {x : Option Verdict × Engine}
    (hn : x.1 = none → x.2.isBusy = t.engine.isBusy)
    (hv : ∀ v, x.1 = some v → t.engine.isBusy ∧ x.2.isBusy = false) :
    Passes P c t ({ t with engine := x.2 }.finishIf x.1) := by
  obtain ⟨v, e⟩ := x
  cases v with
  | none => exact elsewhere hP rfl rfl rfl (hn rfl)
  | some v => exact finish hP (hv v rfl).1 (hv v rfl).2 v

/-- A connection that is up obeys a command. -/
theorem openTransport (hP : Moment.Lenient E P) (t : Tunnel) (remote : String) :
    Passes P c t (Loopback.openTransport host remote t) := by
  have hp := protect (c := c) hP t .transport remote false
  unfold Loopback.openTransport
  split
  · next h =>
    have h : t.protect .transport remote false = _ := h
    rw [h] at hp
    exact hp
  · next h =>
    have h : t.protect .transport remote false = _ := h
    rw [h] at hp
    exact hp.trans (line hP _ _)

theorem obey (hP : Moment.Lenient E P) (hc : c.isAttempt = false) (t : Tunnel)
    (remote name : String) (x : Command) :
    Passes P c t (Loopback.obey host remote name x t) := by
  cases x with
  | stop => exact .refl t
  | reconnect =>
    exact ((report hP hc t (hP.plain fun _ => rfl)).trans (openTransport hP _ remote)).trans
      (report hP hc _ (hP.plain fun _ => rfl))
  | pause reason => exact report hP hc t (hP.plain fun _ => rfl)
  | resume => exact report hP hc t (hP.plain fun _ => rfl)

theorem foldl_obey (hP : Moment.Lenient E P) (hc : c.isAttempt = false) (remote name : String)
    (xs : List Command) (t : Tunnel) :
    Passes P c t (xs.foldl (fun u x => Loopback.obey host remote name x u) t) := by
  induction xs generalizing t with
  | nil => exact .refl t
  | cons x xs ih => exact (obey hP hc t remote name x).trans (ih _)

/-- A connection that is up obeys the commands that wait. -/
theorem settle (hP : Moment.Lenient E P) (hc : c.isAttempt = false) (t : Tunnel) :
    Passes P c t t.settle := by
  cases he : t.engine with
  | scripted e =>
    have hs : t.settle = t := by simp only [Tunnel.settle, he]
    rw [hs]
    exact .refl t
  | loopback l k =>
    cases k with
    | down | opening =>
      rw [settle_of_not_up he fun _ => Link.noConfusion]
      exact .refl t
    | up name =>
      -- What is queued after the first stop is left to the next connection.
      obtain ⟨now, rest, hq⟩ : ∃ now rest, Loopback.splitAtStop l.queue = (now, rest) :=
        ⟨_, _, rfl⟩
      let w := now.foldl (fun u x => Loopback.obey host (l.remote.getD "") name x u) t
      have hw : Passes P c t w := foldl_obey hP hc _ _ now t
      have hwe : w.engine = .loopback l (.up name) := (foldl_obey_besides _ _ now t).engine.trans he
      cases rest with
      | none =>
        have hs : t.settle = { w with engine := .loopback { l with queue := [] } (.up name) } := by
          simp only [Tunnel.settle, he, Loopback.serve, hq]
          rfl
        rw [hs]
        refine hw.trans (elsewhere hP rfl rfl rfl ?_)
        rw [hwe]
        rfl
      | some rest =>
        let v := w.tearDown.report ⟨.disconnected, "", false, false⟩
        have hv : Passes P c t v :=
          (hw.trans (tearDown hP w)).trans (report hP hc _ (hP.plain fun h => by simp at h))
        have hb : v.engine.isBusy := by
          rw [(report_besides w.tearDown _).engine, engine_tearDown, hwe]
          rfl
        have hs : t.settle =
            { v with engine := .loopback { l with queue := rest } .down }.finish (.ok ()) := by
          simp only [Tunnel.settle, he, Loopback.serve, hq]
          rfl
        rw [hs]
        exact hv.trans (finish hP hb rfl _)

/-- An engine takes its part in a stop. -/
theorem stopEngine (hP : Moment.Lenient E P) (t : Tunnel) : Passes P c t t.stopEngine := by
  refine finishIf (x := t.engine.stop) hP ?_ ?_
  · cases t.engine with
    | loopback l k => exact fun _ => rfl
    | scripted e => exact e.stop_answers.1
  · cases t.engine with
    | loopback l k => exact fun v h => nomatch h
    | scripted e => exact e.stop_answers.2

end Passes

end Tunnel

end TunnelRelay
