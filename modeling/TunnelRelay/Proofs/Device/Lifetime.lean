import Mathlib.Tactic.ByContra
import TunnelRelay.Proofs.Device.Course

/-!
# The lifetime of a device

A device is created, then it may run, then it is stopped; it never goes back. While it runs, and at
no other time, it holds an open pipe. It can be halted at any moment, also by those whom it calls
while it starts.

## Main definitions

- `Tun.Device.Coherent` — how the stage, the halt and the pipe go together
- `Tun.Device.SameLife`, `Tun.Device.Advances` — what passes packets on, and what goes forward

## Main statements

- `Tun.Device.Coherent.perform` — every operation
- `Tun.Device.Coherent.start_of_canStart` — a start that is not refused at once
- `Tun.lifecycle` — all operations, from the device as it is built
-/

namespace TunnelRelay.Tun

open Packet (IoFault Pipe)

/-- The place of a stage in a life. -/
def Stage.rank : Stage → Nat
  | created => 0
  | started => 1
  | stopped => 2

namespace Device

variable {σ : Type} {w : Surroundings σ} {d e f : Device}

/-- How the stage, the halt and the pipe of a device go together. -/
structure Coherent (d : Device) : Prop where
  created : d.stage = .created → d.pipe = none
  started : d.stage = .started → ∃ p, d.pipe = some p ∧ p.isOpen
  stopped : d.stage = .stopped → d.halted ∧ ∀ p, d.pipe = some p → p.isOpen = false

/-- The two devices differ in what passes their pipes at most. -/
structure SameLife (d e : Device) : Prop where
  stage : e.stage = d.stage
  halted : e.halted = d.halted
  pipe : e.pipe.map (·.isOpen) = d.pipe.map (·.isOpen)

/-- The life of the device goes on, and a halt is never taken back. -/
structure Advances (d e : Device) : Prop where
  rank : d.stage.rank ≤ e.stage.rank
  halted : d.halted → e.halted

theorem SameLife.refl (d : Device) : d.SameLife d := ⟨rfl, rfl, rfl⟩

theorem SameLife.advances (h : d.SameLife e) : d.Advances e :=
  ⟨Nat.le_of_eq (congrArg Stage.rank h.stage.symm), fun hd => h.halted.trans hd⟩

theorem Advances.refl (d : Device) : d.Advances d := ⟨Nat.le_refl _, fun h => h⟩

theorem Advances.trans (h : d.Advances e) (k : e.Advances f) : d.Advances f :=
  ⟨Nat.le_trans h.rank k.rank, k.halted ∘ h.halted⟩

theorem sameLife_of_pipe {p q : Pipe} (hp : d.pipe = some p) (hq : q.isOpen = p.isOpen)
    (a b : Traffic) : d.SameLife { d with pipe := some q, inbound := a, outbound := b } :=
  ⟨rfl, rfl, by rw [hp]; exact congrArg some hq⟩

theorem Coherent.of_sameLife (hd : d.Coherent) (h : d.SameLife e) : e.Coherent := by
  have hpipe := h.pipe
  refine ⟨fun hs => ?_, fun hs => ?_, fun hs => ?_⟩
  · rw [hd.created (h.stage ▸ hs)] at hpipe
    simpa using hpipe
  · obtain ⟨p, hp, hopen⟩ := hd.started (h.stage ▸ hs)
    rw [hp] at hpipe
    obtain ⟨q, hq, hqp⟩ := Option.map_eq_some_iff.1 hpipe
    exact ⟨q, hq, hqp.trans hopen⟩
  · obtain ⟨hhalted, hclosed⟩ := hd.stopped (h.stage ▸ hs)
    refine ⟨h.halted.trans hhalted, fun q hq => ?_⟩
    rw [hq] at hpipe
    obtain ⟨p, hp, hpq⟩ := Option.map_eq_some_iff.1 hpipe.symm
    exact hpq.symm.trans (hclosed p hp)

theorem Coherent.started_iff (hd : d.Coherent) :
    d.stage = .started ↔ ∃ p, d.openPipe = some p := by
  constructor
  · intro hs
    obtain ⟨p, hp, hopen⟩ := hd.started hs
    exact ⟨p, openPipe_eq_some_iff.2 ⟨hp, hopen⟩⟩
  · rintro ⟨p, hp⟩
    obtain ⟨hp, hopen⟩ := openPipe_eq_some_iff.1 hp
    cases hs : d.stage with
    | started => rfl
    | created =>
      rw [hd.created hs] at hp
      cases hp
    | stopped =>
      rw [(hd.stopped hs).2 p hp] at hopen
      cases hopen

theorem Coherent.not_started_of_no_pipe (hd : d.Coherent) (hp : d.pipe = none) :
    d.stage ≠ .started := by
  intro hs
  obtain ⟨p, hsome, -⟩ := hd.started hs
  rw [hp] at hsome
  cases hsome

/-! ### Halts -/

theorem coherent_stop (hd : d.Coherent) : d.stop.Coherent := by
  by_cases h : d.stage = .stopped
  · rw [stop, if_pos h]
    exact hd
  · refine ⟨by simp, by simp, fun _ => ?_⟩
    rw [stop, if_neg h]
    refine ⟨rfl, fun p hp => ?_⟩
    obtain ⟨q, -, rfl⟩ := Option.map_eq_some_iff.1 hp
    rw [Pipe.isOpen_release, Pipe.isOpen_close]

theorem stop_advances (d : Device) : d.Advances d.stop := by
  refine ⟨?_, fun h => ?_⟩
  · rw [stage_stop]
    cases d.stage <;> decide
  · rw [stop]
    split
    · exact h
    · rfl

theorem coherent_disconnect (hd : d.Coherent) : d.disconnect.Coherent :=
  ⟨hd.created, hd.started, fun hs => ⟨rfl, (hd.stopped hs).2⟩⟩

theorem disconnect_advances (d : Device) : d.Advances d.disconnect := ⟨Nat.le_refl _, fun _ => rfl⟩

theorem Coherent.halt (hd : d.Coherent) (h : Option Halt) : (d.halt h).Coherent := by
  cases h with
  | none => exact hd
  | some h =>
    cases h with
    | stop => exact coherent_stop hd
    | disconnect => exact coherent_disconnect hd

theorem halt_advances (d : Device) (h : Option Halt) : d.Advances (d.halt h) := by
  cases h with
  | none => exact .refl d
  | some h =>
    cases h with
    | stop => exact stop_advances d
    | disconnect => exact disconnect_advances d

theorem halted_stop (hd : d.Coherent) : d.stop.halted = true := by
  by_cases h : d.stage = .stopped
  · rw [stop, if_pos h]
    exact (hd.stopped h).1
  · rw [stop, if_neg h]

theorem halted_halt (hd : d.Coherent) (h : Option Halt) :
    (d.halt h).halted = (d.halted || h.isSome) := by
  cases h with
  | none => simp [Device.halt]
  | some h =>
    cases h with
    | stop => simp [Device.halt, halted_stop hd]
    | disconnect => simp [Device.halt, disconnect]

theorem pipe_halt_of_none (hd : d.pipe = none) (h : Option Halt) : (d.halt h).pipe = none := by
  cases h with
  | none => exact hd
  | some h =>
    cases h with
    | stop =>
      show d.stop.pipe = none
      rw [stop]
      split
      · exact hd
      · rw [hd]
        rfl
    | disconnect => exact hd

/-- Several halts one after the other, as calls answer them. -/
theorem Coherent.foldl_halt (hd : d.Coherent) (hp : d.pipe = none) (hs : List (Option Halt)) :
    (hs.foldl Device.halt d).Coherent ∧ d.Advances (hs.foldl Device.halt d) ∧
      (hs.foldl Device.halt d).pipe = none ∧
      (hs.foldl Device.halt d).halted = (d.halted || hs.any Option.isSome) := by
  induction hs generalizing d with
  | nil => exact ⟨hd, .refl d, hp, by simp⟩
  | cons h hs ih =>
    obtain ⟨hcoherent, hadvances, hpipe, hhalted⟩ := ih (hd.halt h) (pipe_halt_of_none hp h)
    refine ⟨hcoherent, (halt_advances d h).trans hadvances, hpipe, ?_⟩
    rw [List.foldl_cons, hhalted, halted_halt hd, List.any_cons, Bool.or_assoc]

theorem foldl_halt_of_none {hs : List (Option Halt)} (hn : ¬hs.any Option.isSome) :
    hs.foldl Device.halt d = d := by
  induction hs with
  | nil => rfl
  | cons h hs ih =>
    cases h with
    | none => exact ih (by simpa using hn)
    | some h => simp at hn

/-! ### Packets -/

theorem deliver_sameLife (d : Device) (p : Packet) : d.SameLife (d.deliver p).2 := by
  rw [deliver]
  split
  · exact .refl d
  · split
    · exact .refl d
    · next q hq =>
      obtain ⟨hq, -⟩ := openPipe_eq_some_iff.1 hq
      have hopen := Pipe.isOpen_send q .engine p
      split
      · next hs =>
        rw [hs] at hopen
        exact sameLife_of_pipe hq hopen _ _
      · next hs =>
        rw [hs] at hopen
        exact sameLife_of_pipe hq hopen _ _

theorem appSend_sameLife {p : Packet} {r : Except IoFault Nat} (h : d.appSend p = .ok (r, e)) :
    d.SameLife e := by
  cases ha : d.appEnd with
  | error f =>
    rw [appSend, ha] at h
    cases h
  | ok q =>
    rw [appSend_of_appEnd ha] at h
    cases h
    obtain ⟨hq, -⟩ := openPipe_eq_some_iff.1 (appEnd_eq_ok_iff.1 ha)
    exact sameLife_of_pipe hq (Pipe.isOpen_send q .app p) _ _

theorem appReceive_sameLife {room : Nat} {r : Except IoFault Packet}
    (h : d.appReceive room = .ok (r, e)) : d.SameLife e := by
  cases ha : d.appEnd with
  | error f =>
    rw [appReceive, ha] at h
    cases h
  | ok q =>
    rw [appReceive_of_appEnd ha] at h
    cases h
    obtain ⟨hq, -⟩ := openPipe_eq_some_iff.1 (appEnd_eq_ok_iff.1 ha)
    exact sameLife_of_pipe hq (Pipe.isOpen_receive q .app room) _ _

theorem poll_sameLife (intake : Frame → σ → Bool × σ) (d : Device) (s : σ) :
    d.SameLife (poll intake (d, s)).1 := by
  rw [poll]
  dsimp only
  split
  · exact .refl d
  · next q hq =>
    have hopen := Pipe.isOpen_receive q .engine readRoom
    split
    · next hr =>
      rw [hr] at hopen
      split <;> exact sameLife_of_pipe hq hopen _ _
    · next hr =>
      rw [hr] at hopen
      exact sameLife_of_pipe hq hopen _ _
    · next hr =>
      rw [hr] at hopen
      exact sameLife_of_pipe hq hopen _ _

/-! ### Starts -/

theorem Coherent.withSettings (hd : d.Coherent) (s : Settings) :
    ({ d with settings := s } : Device).Coherent := ⟨hd.created, hd.started, hd.stopped⟩

theorem coherent_running (d : Device) : d.running.Coherent where
  created := nofun
  started _ := ⟨_, rfl, rfl⟩
  stopped := nofun

theorem Advances.of_settings {s : Settings} (h : ({ d with settings := s } : Device).Advances e) :
    d.Advances e := ⟨h.rank, h.halted⟩

/-- A device that was halted while it made its calls has no pipe, and it keeps it that way. -/
theorem CanStart.foldl_halt (h : d.CanStart) (hd : d.Coherent) (s : Settings)
    (hs : List (Option Halt)) :
    let e := hs.foldl Device.halt { d with settings := s }
    e.Coherent ∧ d.Advances e ∧ e.pipe = none ∧ e.halted = hs.any Option.isSome := by
  obtain ⟨hcoherent, hadvances, hpipe, hhalted⟩ :=
    (hd.withSettings s).foldl_halt (hd.created h.1) hs
  refine ⟨hcoherent, hadvances.of_settings, hpipe, hhalted.trans ?_⟩
  show (d.halted || _) = _
  rw [h.2, Bool.false_or]

theorem CanStart.running_advances (h : d.CanStart) (e : Device) : d.Advances e.running := by
  refine ⟨?_, fun hd => ?_⟩
  · rw [h.1]
    exact Nat.zero_le _
  · rw [h.2] at hd
    cases hd

theorem Coherent.ring {x : Device × σ} (hx : x.1.Coherent) (call : Call → σ → Option Halt × σ)
    (c : Call) : (ring call x c).1.Coherent ∧ x.1.Advances (ring call x c).1 :=
  ⟨hx.halt _, halt_advances _ _⟩

theorem Coherent.foldl_ring {x : Device × σ} (hx : x.1.Coherent)
    (call : Call → σ → Option Halt × σ) (cs : List Call) :
    (cs.foldl (Device.ring call) x).1.Coherent ∧
      x.1.Advances (cs.foldl (Device.ring call) x).1 := by
  induction cs generalizing x with
  | nil => exact ⟨hx, .refl x.1⟩
  | cons c cs ih =>
    obtain ⟨hc, ha⟩ := hx.ring call c
    obtain ⟨hcoherent, hadvances⟩ := ih hc
    exact ⟨hcoherent, ha.trans hadvances⟩

theorem Coherent.start (hd : d.Coherent) (call : Call → σ → Option Halt × σ)
    (ds : List Directive) (s : σ) :
    (d.start call ds s).2.1.Coherent ∧ d.Advances (d.start call ds s).2.1 := by
  by_cases hc : d.CanStart
  · have hsettings := hd.withSettings (Settings.ofDirectives ds)
    obtain ⟨hcoherent, hadvances⟩ := hsettings.foldl_ring (x := (_, s)) call (startCalls ds)
    rw [start_of_canStart hc]
    split
    · exact ⟨hcoherent, hadvances.of_settings⟩
    · exact ⟨(coherent_running _).halt _, (CanStart.running_advances hc _).trans
        (halt_advances _ _)⟩
  · rw [start_of_not_canStart hc]
    exact ⟨hd, .refl d⟩

theorem Coherent.launch (hd : d.Coherent) (call : Call → σ → Option Halt × σ)
    (ds : List Directive) (s : σ) :
    (d.launch call ds s).1.Coherent ∧ d.Advances (d.launch call ds s).1 := by
  obtain ⟨hcoherent, hadvances⟩ := hd.start call ds s
  obtain h | ⟨c, h⟩ := launch_cases call d ds s
  · rw [h]
    exact ⟨hcoherent, hadvances⟩
  · obtain ⟨hc, ha⟩ := hcoherent.ring (x := (d.start call ds s).2) call c
    rw [h]
    exact ⟨hc, hadvances.trans ha⟩

/-- **Every operation** keeps a device coherent, and its life goes on. -/
theorem Coherent.perform {x : Device × Chronicle σ} (hx : x.1.Coherent) (o : Operation) :
    (perform w o x).1.Coherent ∧ x.1.Advances (perform w o x).1 := by
  have traffic {e : Device} (h : x.1.SameLife e) : e.Coherent ∧ x.1.Advances e :=
    ⟨hx.of_sameLife h, h.advances⟩
  cases o with
  | start ds => exact hx.start w.watched.call ds x.2
  | launch ds => exact hx.launch w.watched.call ds x.2
  | stop => exact ⟨coherent_stop hx, stop_advances x.1⟩
  | disconnect => exact ⟨coherent_disconnect hx, disconnect_advances x.1⟩
  | deliver p => exact traffic (deliver_sameLife x.1 p)
  | send p =>
    rw [Tun.perform]
    split
    · exact ⟨hx, .refl x.1⟩
    · next hr => exact traffic (appSend_sameLife hr)
  | read room =>
    rw [Tun.perform]
    split
    · exact ⟨hx, .refl x.1⟩
    · next hr => exact traffic (appReceive_sameLife hr)
  | turn =>
    rw [Tun.perform]
    split
    · exact traffic (poll_sameLife w.watched.intake x.1 x.2)
    · exact ⟨hx, .refl x.1⟩

theorem Coherent.after (os : List Operation) {x : Device × Chronicle σ} (hx : x.1.Coherent) :
    (after w os x).1.Coherent ∧ x.1.Advances (after w os x).1 := by
  refine after_keeps (I := fun y => y.1.Coherent ∧ x.1.Advances y.1) (fun o y hy => ?_) os
    ⟨hx, .refl x.1⟩
  obtain ⟨hcoherent, hadvances⟩ := hy.1.perform (w := w) o
  exact ⟨hcoherent, hy.2.trans hadvances⟩

theorem coherent_fresh (id : String) (blocking : Bool) (s : σ) :
    (fresh id blocking s).1.Coherent := ⟨fun _ => rfl, nofun, nofun⟩

/-! ### Lifetimes -/

/-- A start that succeeds leaves the device at a later stage, even if the owner halts it at once. -/
theorem canStart_of_start_eq_ok {x : Device × Chronicle σ} {ds : List Directive}
    (h : (x.1.start w.watched.call ds x.2).1 = .ok ()) :
    x.1.CanStart ∧ (x.1.start w.watched.call ds x.2).2.1.stage ≠ .created := by
  obtain ⟨-, hr⟩ | ⟨hs, -, hc, e, -, -, ⟨-, hr⟩ | ⟨-, hr⟩⟩ := start_cases w ds x
  · rw [hr] at h
    cases h
  · rw [hr] at h
    cases h
  · rw [hr]
    refine ⟨hc, fun hcreated => ?_⟩
    have hrank := (halt_advances e.1.running (w.watched.call .connected e.2).1).rank
    have hstage : (Device.halt e.1.running (w.watched.call .connected e.2).1).stage = .created :=
      hcreated
    rw [hstage] at hrank
    exact Nat.not_succ_le_zero 0 hrank

/-- A device that has started does not start again. -/
theorem canStart_of_succeeds {x : Device × Chronicle σ} {o : Operation} (ho : o.Succeeds w x) :
    x.1.CanStart ∧ ¬(Tun.perform w o x).1.CanStart := by
  cases o with
  | start ds =>
    obtain ⟨hc, hn⟩ := canStart_of_start_eq_ok ho
    exact ⟨hc, fun h => hn h.1⟩
  | launch ds =>
    obtain ⟨hc, hn⟩ := canStart_of_start_eq_ok ho
    refine ⟨hc, fun h => hn ?_⟩
    have hlaunch : x.1.launch w.watched.call ds x.2 = (x.1.start w.watched.call ds x.2).2 :=
      launch_of_ok (Prod.ext ho rfl)
    rw [← hlaunch]
    exact h.1
  | _ => cases ho

theorem Advances.not_canStart (h : d.Advances e) (hd : ¬d.CanStart) : ¬e.CanStart := by
  intro he
  have hrank := h.rank
  rw [he.1] at hrank
  refine hd ⟨?_, ?_⟩
  · cases hs : d.stage with
    | created => rfl
    | started | stopped =>
      rw [hs] at hrank
      exact absurd hrank (Nat.not_succ_le_zero _)
  · cases hh : d.halted with
    | false => rfl
    | true =>
      have := h.halted hh
      rw [he.2] at this
      cases this

theorem poll_of_no_pipe (h : d.pipe = none) (intake : Frame → σ → Bool × σ) (s : σ) :
    poll intake (d, s) = (d, s) := by simp only [poll, h]

/-- A start that fails because the device was halted meanwhile. There is no pipe, and the outbound
loop does not turn. -/
structure StartHalted (w : Surroundings σ) (ds : List Directive) (x e : Device × Chronicle σ) :
    Prop where
  start : x.1.start w.watched.call ds x.2 = (.error .pipeClosed, e)
  launch : x.1.launch w.watched.call ds x.2 =
    ring w.watched.call e (.failed Fault.pipeClosed.message)
  halted : e.1.halted = true
  pipe : e.1.pipe = none
  stage : e.1.stage ≠ .started
  idle : ∀ {τ : Type} (intake : Frame → τ → Bool × τ) (u : τ), poll intake (e.1, u) = (e.1, u)

/-- A start that succeeds. The owner is told, and may halt the device at once. -/
structure StartCompleted (w : Surroundings σ) (ds : List Directive) (x e : Device × Chronicle σ) :
    Prop where
  start : x.1.start w.watched.call ds x.2 =
    (.ok (), ring w.watched.call (e.1.running, e.2) .connected)
  launch : x.1.launch w.watched.call ds x.2 =
    ring w.watched.call (e.1.running, e.2) .connected
  device : e.1 = { x.1 with settings := Settings.ofDirectives ds }

/-- How a start goes on that is not refused at once, with the answers to its calls. A halt in any
of them does not keep the others from being made, but the device does not run. -/
theorem Coherent.start_of_canStart {x : Device × Chronicle σ} (hx : x.1.Coherent)
    (hc : x.1.CanStart) (w : Surroundings σ) (ds : List Directive) :
    ∃ (hs : List (Option Halt)) (e : Device × Chronicle σ), hs.length = (startCalls ds).length ∧
      e.2.entries = x.2.entries ++ List.zipWith .called (startCalls ds) hs ∧
      if hs.any Option.isSome then StartHalted w ds x e else StartCompleted w ds x e := by
  obtain ⟨hn, -⟩ | ⟨hs, hlength, -, e, he, hentries, hr⟩ := start_cases w ds x
  · exact absurd hc hn
  · refine ⟨hs, e, hlength, hentries, ?_⟩
    obtain ⟨hcoherent, -, hpipe, hhalted⟩ :=
      CanStart.foldl_halt hc hx (Settings.ofDirectives ds) hs
    rw [← he] at hcoherent hpipe hhalted
    obtain ⟨hh, hr⟩ | ⟨hh, hr⟩ := hr
    · rw [if_pos (hhalted.symm.trans hh)]
      exact ⟨hr, launch_of_error hr, hh, hpipe, hcoherent.not_started_of_no_pipe hpipe,
        poll_of_no_pipe hpipe⟩
    · have hnone : ¬hs.any Option.isSome := by
        rw [← hhalted, hh]
        exact Bool.false_ne_true
      rw [if_neg hnone]
      exact ⟨hr, launch_of_ok hr, he.trans (foldl_halt_of_none hnone)⟩

end Device

open Device in
/-- The life of a device from the moment it is built, whatever is done with it and however it is
halted by those whom it calls. Its stage never goes back, and it starts at most once. It is started
exactly while it holds an open pipe, and then its application's end can be had. A start that is
refused at once makes no call and changes nothing; the owner who asked for it is told. Any other
start makes all its calls in order; if one of them was answered with a halt it fails and leaves no
pipe, else the device runs. -/
theorem lifecycle (w : Surroundings σ) (id : String) (blocking : Bool) (s : σ)
    (os : List Operation) :
    let x := after w os (fresh id blocking s)
    (∀ o, x.1.stage.rank ≤ (perform w o x).1.stage.rank) ∧
    (∀ (o q : Operation) (ps : List Operation), o.Succeeds w x →
      ¬q.Succeeds w (after w (o :: ps) x)) ∧
    (x.1.stage = .started ↔ ∃ p, x.1.openPipe = some p) ∧
    (x.1.stage = .started ↔ x.1.descriptor = .ok ()) ∧
    (x.1.stage = .started ↔ ∃ p, x.1.appEnd = .ok p) ∧
    (x.1.stage ≠ .created ∨ x.1.halted → ∀ ds,
      x.1.start w.watched.call ds x.2 = (.error x.1.startFault, x) ∧
      x.1.launch w.watched.call ds x.2 = ring w.watched.call x (.failed x.1.startFault.message)) ∧
    (x.1.stage = .created → x.1.halted = false → ∀ ds,
      ∃ (hs : List (Option Halt)) (e : Device × Chronicle σ), hs.length = (startCalls ds).length ∧
        e.2.entries = x.2.entries ++ List.zipWith .called (startCalls ds) hs ∧
        if hs.any Option.isSome then StartHalted w ds x e else StartCompleted w ds x e) := by
  intro x
  have hx : x.1.Coherent := ((coherent_fresh id blocking s).after os).1
  have happ (hs : x.1.stage = .started) : ∃ p, x.1.appEnd = .ok p := by
    obtain ⟨p, hp⟩ := hx.started_iff.1 hs
    exact ⟨p, appEnd_eq_ok_iff.2 hp⟩
  refine ⟨fun o => (hx.perform o).2.rank, fun o q ps ho hq => ?_, hx.started_iff, ?_, ?_, ?_, ?_⟩
  · -- After the first success the device cannot start any more, and so it stays.
    have hn := (canStart_of_succeeds ho).2
    have hafter := (hx.perform (w := w) o).1.after (w := w) ps
    exact hafter.2.not_canStart hn (canStart_of_succeeds hq).1
  · constructor
    · intro hs
      obtain ⟨p, hp⟩ := happ hs
      rw [descriptor, if_neg (by simp [hs]), hp]
      rfl
    · intro hd
      by_contra hs
      rw [descriptor, if_pos hs] at hd
      cases hd
  · refine ⟨happ, fun ⟨p, hp⟩ => ?_⟩
    exact hx.started_iff.2 ⟨p, appEnd_eq_ok_iff.1 hp⟩
  · intro h ds
    have hn : ¬x.1.CanStart := by
      rintro ⟨hs, hh⟩
      rcases h with h | h
      · exact h hs
      · rw [hh] at h
        cases h
    have hr : x.1.start w.watched.call ds x.2 = (.error x.1.startFault, x) :=
      start_of_not_canStart hn ds x.2
    exact ⟨hr, launch_of_error hr⟩
  · intro hs hh ds
    exact hx.start_of_canStart ⟨hs, hh⟩ w ds

/-- The observer stops a device when it learns the address. The settings are announced to the end,
and the device does not run. -/
theorem lifecycle_of_stop_at_address :
    let w : Surroundings Unit := {
      call := fun c _ => (match c with | .notice (.address _) => some .stop | _ => none, ())
      intake := fun _ _ => (true, ()) }
    let ds : List Directive := [⟨["ifconfig", "10.8.0.2", "255.255.255.0"]⟩, ⟨["tun-mtu", "1400"]⟩]
    let x := after w [.deliver [0x45]] (fresh "office" true ())
    ∃ e, Device.StartHalted w ds x e ∧ e.1.stage = .stopped ∧ e.2.entries.length = 4 := by
  intro w ds x
  obtain ⟨-, -, -, -, -, -, hstart⟩ := lifecycle w "office" true () [.deliver [0x45]]
  obtain ⟨hs, e, -, -, hr⟩ := hstart rfl rfl ds
  have hrun : x.1.start w.watched.call ds x.2 =
      (.error .pipeClosed, (x.1.start w.watched.call ds x.2).2) := by rfl
  by_cases hany : hs.any Option.isSome
  · rw [if_pos hany] at hr
    have he : (x.1.start w.watched.call ds x.2).2 = e := congrArg Prod.snd hr.start
    subst he
    exact ⟨_, hr, rfl, rfl⟩
  · rw [if_neg hany] at hr
    have := hr.start
    rw [hrun] at this
    cases this

end TunnelRelay.Tun
