import TunnelRelay.Proofs.Device.Bays
import TunnelRelay.Proofs.Life.Besides

/-!
# The devices of a tunnel

A tunnel does to its devices what can happen to the devices of a bay, and nothing else. It stops
the current one where the application says so, gives up its engine's own one at the end of a
connection, and builds and starts one for each connection. So it hands out the application's end
of the newest device, whatever happened before.

## Main definitions

- `Tunnel.Moves` — a change whose devices go through a course
- `Tunnel.Docked` — all devices came there in a course
- `Tunnel.Driven` — what the operations make of a new tunnel

## Main statements

- `Tunnel.settle_moves`, `Tunnel.disconnect_moves`, `Tunnel.destroy_moves` — the end of a connection
- `Tunnel.Docked.launch`, `Tunnel.Docked.bringUp` — devices that start
- `Tunnel.Docked.connect` — attempts
- `Tunnel.Driven.handsOutNewest` — what is handed out, after any operations
-/

namespace TunnelRelay.Tunnel

open Engine (Command Credentials Event Link Loopback Verdict)
open Tun (Bay Device Notice)

/-- The devices at the places of `P` go through a course. The engine keeps its own device or gives
it up. -/
structure Moves (P : Nat → Prop) (t u : Tunnel) : Prop where
  course : Bay.Course P t.bay u.bay
  own : u.own = t.own ∨ u.own = none

/-- The engine's own device, if there is one, is at a place of `P`. -/
def OwnIn (P : Nat → Prop) (t : Tunnel) : Prop := ∀ n, t.own = some n → P n

variable {P Q : Nat → Prop} {t u v : Tunnel}

namespace Moves

/-- The devices stay as they are. -/
theorem of_same (hb : u.bay = t.bay) (ho : u.own = t.own) : Moves P t u :=
  ⟨hb ▸ .refl P t.bay, .inl ho⟩

theorem refl (P : Nat → Prop) (t : Tunnel) : Moves P t t := of_same rfl rfl

theorem trans (h : Moves P t u) (k : Moves P u v) : Moves P t v := by
  refine ⟨h.course.trans k.course, ?_⟩
  obtain ho | ho := k.own
  · rw [ho]
    exact h.own
  · exact .inr ho

theorem ownIn (h : Moves P t u) (ht : t.OwnIn Q) : u.OwnIn Q := by
  intro n hn
  obtain ho | ho := h.own
  · exact ht n (ho.symm.trans hn)
  · rw [ho] at hn
    cases hn

end Moves

theorem Besides.moves (h : t.Besides u) : Moves P t u := .of_same h.bay h.own

/-! ### The end of a connection -/

theorem tearDown_moves (h : t.OwnIn P) : Moves P t t.tearDown := by
  unfold tearDown
  split
  · next n hn => exact ⟨.discard (.refl P t.bay) (h n hn), .inr rfl⟩
  · exact .refl P t

theorem finish_moves (t : Tunnel) (v : Verdict) : Moves P t (t.finish v) := by
  unfold finish
  dsimp only
  split <;> exact .of_same rfl rfl

theorem finishIf_moves (t : Tunnel) (v : Option Verdict) : Moves P t (t.finishIf v) := by
  cases v with
  | none => exact .refl P t
  | some v => exact finish_moves t v

/-- A connection that was told to stop gives up its device. -/
theorem settle_moves (h : t.OwnIn P) : Moves P t t.settle := by
  cases he : t.engine with
  | scripted e =>
    simp only [settle, he]
    exact .refl P t
  | loopback l k =>
    cases k with
    | up name =>
      have hs := foldl_obey_besides (l.remote.getD "") name (Loopback.splitAtStop l.queue).1 t
      have hm : Moves P t _ := hs.moves
      simp only [settle, he, Loopback.serve]
      cases (Loopback.splitAtStop l.queue).2 with
      | none => exact hm.trans (.of_same rfl rfl)
      | some rest =>
        have hd := hm.trans (tearDown_moves (hm.ownIn h))
        show Moves P t (Tunnel.finish _ (.ok ()))
        refine Moves.trans ?_ (finish_moves _ _)
        exact (hd.trans (report_besides _ _).moves).trans (.of_same rfl rfl)
    | _ =>
      simp only [settle, he]
      exact .refl P t

theorem beginStop_moves (t : Tunnel) : Moves P t t.beginStop := by
  unfold beginStop
  dsimp only
  split <;> exact .of_same rfl rfl

theorem stopEngine_moves (t : Tunnel) : Moves P t t.stopEngine :=
  Moves.trans (u := { t with engine := t.engine.stop.2 }) (.of_same rfl rfl) (finishIf_moves _ _)

theorem disconnect_moves (h : t.OwnIn P) : Moves P t t.disconnect := by
  let w : Tunnel := if t.mustStop then t.beginStop.stopEngine else t.beginStop
  have hw : Moves P t w := by
    by_cases hm : t.mustStop
    · rw [show w = t.beginStop.stopEngine from if_pos hm]
      exact (beginStop_moves t).trans (stopEngine_moves _)
    · rw [show w = t.beginStop from if_neg hm]
      exact beginStop_moves t
  exact (hw.trans (settle_moves (hw.ownIn h))).trans (.of_same rfl rfl)

theorem destroy_moves (h : t.OwnIn P) : Moves P t t.destroy := by
  unfold destroy
  split
  · exact .refl P t
  · have hw : Moves P t (t.mapSession .beginRelease) := .of_same rfl rfl
    exact (hw.trans (disconnect_moves (hw.ownIn h))).trans (.of_same rfl rfl)

theorem abandon_moves (h : t.OwnIn P) : Moves P t t.abandon :=
  have hw : Moves P t { t with gone := true } := .of_same rfl rfl
  hw.trans (destroy_moves (hw.ownIn h))

/-! ### Commands, and scripted connections -/

theorem restart_moves (t : Tunnel) (r : Except Engine.Failure Unit) :
    Moves P t (t.restart r).2 := by
  cases h : t.mustRestart <;> simp only [restart, h] <;> exact .of_same rfl rfl

theorem reconnect_moves (h : t.OwnIn P) : Moves P t t.reconnect.2 := by
  unfold reconnect
  split
  · have hw : Moves P t { t with engine := t.engine.reconnect.2 } := .of_same rfl rfl
    have hr := hw.trans (restart_moves _ t.engine.reconnect.1)
    exact hr.trans (settle_moves (hr.ownIn h))
  · exact restart_moves t _

theorem command_moves (h : t.OwnIn P) (a : Act) (c : Command) : Moves P t (t.command a c) := by
  unfold command
  split
  · exact .refl P t
  · have hw : Moves P t { t.order a with engine := t.engine.command c } := by
      unfold order
      split <;> exact .of_same rfl rfl
    exact hw.trans (settle_moves (hw.ownIn h))

theorem proceed_moves (t : Tunnel) : Moves P t t.proceed := by
  cases he : t.engine with
  | loopback l k =>
    simp only [proceed, he]
    exact .refl P t
  | scripted e =>
    simp only [proceed, he]
    exact Moves.trans (u := { t with engine := .scripted e.proceed.2 }) (.of_same rfl rfl)
      (finishIf_moves _ _)

theorem askFirst_moves (t : Tunnel) : Moves P t t.askFirst := by
  unfold askFirst
  split
  · split
    · exact .of_same rfl rfl
    · exact (protect_besides t _ _ _).moves.trans (proceed_moves _)
  · exact .refl P t

theorem conclude_moves (t : Tunnel) (v : Verdict) : Moves P t (t.conclude v) := by
  cases he : t.engine with
  | loopback l k =>
    simp only [conclude, he]
    exact .refl P t
  | scripted e =>
    simp only [conclude, he]
    exact Moves.trans (u := { t with engine := .scripted (e.conclude v).2 }) (.of_same rfl rfl)
      (finishIf_moves _ _)

theorem openLatch_moves (h : t.OwnIn P) (othersHold : Bool) : Moves P t (t.openLatch othersHold) := by
  let w : Tunnel := { t with application := t.application.withOpenLatch }
  have hw : Moves P t w := .of_same rfl rfl
  have hu : Moves P t (if othersHold then w else w.abandon) := by
    cases othersHold with
    | true => exact hw
    | false => exact hw.trans (abandon_moves (hw.ownIn h))
  unfold openLatch
  dsimp only
  split
  · have hn := hu.trans ((note_besides _ (.protection firstRemote false true)).moves)
    exact hn.trans (proceed_moves _)
  · exact hw

/-! ### Devices that start -/

/-- While the device at place `n` starts, the application may do something to the others. -/
theorem react_moves {n : Nat} (h : t.OwnIn (· ≠ n)) (r : Option Reaction) :
    Moves (· ≠ n) t (t.react n r).2 := by
  obtain hr | ⟨m, hm, hr⟩ | hr := react_cases t n r <;> rw [hr]
  · exact .refl _ t
  · exact ⟨.stop (.refl _ t.bay) hm, .inl rfl⟩
  · exact disconnect_moves h

theorem announce_moves {n : Nat} (h : t.OwnIn (· ≠ n)) (x : Notice) :
    Moves (· ≠ n) t (t.announce n x).2 := by
  have ht : Moves (· ≠ n) t (t.tell x).2 := (tell_besides t x).moves
  obtain ha | ⟨-, ha⟩ := announce_cases t n x
  · rw [ha]
    exact ht
  · rw [ha]
    exact ht.trans (react_moves (ht.ownIn h) _)

theorem call_moves {n : Nat} (h : t.OwnIn (· ≠ n)) (c : Tun.Call) :
    Moves (· ≠ n) t (call n c t).2 := by
  cases c with
  | notice x => exact announce_moves h x
  | prepare | connected | failed => exact .of_same rfl rfl

/-- A connection is being established. -/
def IsOpening (t : Tunnel) : Prop := ∃ l, t.engine = .loopback l .opening

/-- What happens while the engine's own device starts at place `n`. -/
structure Waits (n : Nat) (t u : Tunnel) : Prop where
  opening : u.IsOpening
  own : u.own = t.own
  course : Bay.Course (· ≠ n) t.bay u.bay

theorem Besides.waits (h : t.Besides u) (ho : t.IsOpening) (n : Nat) : t.Waits n u := by
  obtain ⟨l, hl⟩ := ho
  refine ⟨⟨l, h.engine.trans hl⟩, h.own, ?_⟩
  rw [h.bay]
  exact .refl _ _

/-- While the engine's own device starts, a stop of the connection has to wait. -/
theorem react_waits (ho : t.IsOpening) (n : Nat) (r : Option Reaction) :
    t.Waits n (t.react n r).2 := by
  obtain hr | ⟨m, hm, hr⟩ | hr := react_cases t n r <;> rw [hr]
  · exact ⟨ho, rfl, .refl _ _⟩
  · exact ⟨ho, rfl, .stop (.refl _ _) hm⟩
  · obtain ⟨l, hl⟩ := ho
    obtain ⟨hopening, hbay, hown⟩ := disconnect_of_opening hl
    refine ⟨hopening, hown, ?_⟩
    rw [hbay]
    exact .refl _ _

theorem Waits.trans {n : Nat} (h : t.Waits n u) (k : u.Waits n v) : t.Waits n v :=
  ⟨k.opening, k.own.trans h.own, h.course.trans k.course⟩

theorem callOwn_waits (ho : t.IsOpening) (n : Nat) (c : Tun.Call)
    (r : Option (Except String Unit)) : t.Waits n (callOwn n c (r, t)).2.2 := by
  cases c with
  | notice x =>
    have ht : t.Waits n (t.tell x).2 := (tell_besides t x).waits ho n
    show t.Waits n (t.announce n x).2
    obtain ha | ⟨-, ha⟩ := announce_cases t n x
    · rw [ha]
      exact ht
    · rw [ha]
      exact ht.trans (react_waits ht.opening n _)
  | prepare | connected | failed => exact ⟨ho, rfl, .refl _ _⟩

/-- All devices came where they are in a course, and the engine's own one has been started. -/
structure Docked (t : Tunnel) : Prop where
  course : ∃ b : Bay, b.berths = [] ∧ Bay.Course (fun _ => True) b t.bay
  own : ∀ n, t.own = some n → ∃ d, t.bay.device? n = some d ∧ ¬d.CanStart

namespace Docked

theorem coherent (h : Docked t) : t.bay.Coherent := by
  obtain ⟨b, hb, hc⟩ := h.course
  exact (hc.keeps (Bay.coherent_of_empty hb)).coherent

theorem moves (h : Docked t) (hu : Moves (fun _ => True) t u) : Docked u := by
  obtain ⟨b, hb, hc⟩ := h.course
  refine ⟨⟨b, hb, hc.trans hu.course⟩, fun n hn => ?_⟩
  obtain ho | ho := hu.own
  · obtain ⟨d, hd, hstart⟩ := h.own n (ho.symm.trans hn)
    obtain ⟨e, he, hadvances⟩ := (hu.course.keeps h.coherent).advances n d hd
    exact ⟨e, he, hadvances.not_canStart hstart⟩
  · rw [ho] at hn
    cases hn

end Docked

theorem ownIn_true (t : Tunnel) : t.OwnIn fun _ => True := fun _ _ => trivial

/-- Somebody starts the device at a place. It may be the engine's own one, which cannot start
again. -/
theorem Docked.launch (h : Docked t) {n : Nat} {d : Device} (hd : t.bay.device? n = some d)
    (ds : List Directive) : Docked (t.launch n d ds) := by
  by_cases ho : t.own = some n
  -- The engine has started its device when it built it, so this start fails and changes nothing.
  · obtain ⟨e, he, hstart⟩ := h.own n ho
    obtain rfl : d = e := Option.some.inj (hd.symm.trans he)
    have hl : d.launch (call n) ds t = (d, t.note (.called (.failed d.startFault.message))) :=
      Device.launch_of_error (Device.start_of_not_canStart hstart ds t)
    have hb : (t.launch n d ds).bay = t.bay := by
      rw [Tunnel.launch, hl]
      exact Bay.modify_self hd
    refine h.moves (.of_same hb ?_)
    rw [Tunnel.launch, hl]
    rfl
  -- A connection that ends meanwhile gives up the engine's device, which is another one.
  · have hown : t.OwnIn (· ≠ n) := fun m hm hmn => ho (hmn ▸ hm)
    let I (u : Tunnel) : Prop := Moves (· ≠ n) t u
    have hI : ∀ k u, I u → I (call n k u).2 := fun k u hu =>
      hu.trans (call_moves (hu.ownIn hown) k)
    have hl : I (d.launch (call n) ds t).2 := Device.launch_keeps hI ds d (.refl _ t)
    have hc : Bay.Course (fun _ => True) t.bay (t.launch n d ds).bay := by
      refine .start (.refl _ t.bay) trivial hd Tunnel.bay I (s := t) rfl
        (.refl _ t) hI (fun k u hu => ?_) ds (.inr rfl)
      exact (call_moves (hu.ownIn hown) k).course.mono fun m hm => ⟨trivial, hm⟩
    exact h.moves ⟨hc, hl.own⟩

/-- The engine's own device is built and started. -/
theorem Docked.bringUp (h : Docked t) (ho : t.IsOpening) (ds : List Directive) :
    Docked (Tunnel.bringUp ds t).2 := by
  let n := t.bay.built
  let w : Tunnel := { t with bay := t.bay.build, own := some n }
  obtain ⟨d, r, u, hd⟩ : ∃ d r u, t.bay.fresh.launch (callOwn n) ds (none, w) = (d, r, u) :=
    ⟨_, _, _, rfl⟩
  -- No call ends the connection while it is opening, so nobody gives up the device at `n`.
  let I (x : Option (Except String Unit) × Tunnel) : Prop := w.Waits n x.2
  have hI : ∀ k x, I x → I (callOwn n k x).2 := fun k x hx =>
    hx.trans (callOwn_waits hx.opening n k x.1)
  have hw : I (none, w) := ⟨ho, rfl, .refl _ _⟩
  have hu : w.Waits n u := by
    have hl : I (t.bay.fresh.launch (callOwn n) ds (none, w)).2 :=
      Device.launch_keeps hI ds t.bay.fresh hw
    rwa [hd] at hl
  have hc : Bay.Course (fun _ => True) t.bay (u.bay.modify n fun _ => d) := by
    have hs : Bay.Course (fun _ => True) t.bay _ :=
      .start (.build (.refl _ t.bay)) trivial (Bay.device?_build t.bay) (fun x => x.2.bay) I
        rfl hw hI
        (fun k x hx => (callOwn_waits hx.opening n k x.1).course.mono fun m hm => ⟨trivial, hm⟩)
        ds (.inr rfl)
    rwa [hd] at hs
  have hstart : ¬d.CanStart := by
    have hl := Device.launch_not_canStart (callOwn n) t.bay.fresh ds (none, w)
    rwa [hd] at hl
  rw [bringUp_of_launch hd]
  obtain ⟨b, hb, hcourse⟩ := h.course
  refine ⟨⟨b, hb, hcourse.trans hc⟩, fun m hm => ?_⟩
  obtain rfl : n = m := Option.some.inj (hu.own.symm.trans hm)
  -- The engine's own place holds what has become of the device that was built there.
  have hkeeps := hu.course.keeps ((Bay.Keeps.build (fun _ => True) h.coherent).coherent)
  obtain ⟨e, he, -⟩ := hkeeps.advances n t.bay.fresh (Bay.device?_build t.bay)
  refine ⟨d, ?_, hstart⟩
  show (u.bay.modify n fun _ => d).device? n = some d
  rw [Bay.device?_modify_self, he]
  rfl

/-! ### Attempts -/

/-- A connection is established, or it fails and gives up its device. -/
theorem Docked.establish (h : Docked t) (ho : t.IsOpening) (l : Loopback) :
    Docked (l.establish host Tunnel.bringUp t).2 := by
  have report (e : Event) {u : Tunnel} (hu : Docked u) : Docked (u.report e) :=
    hu.moves (report_besides u e).moves
  cases hr : l.remote with
  | none =>
    simp only [Loopback.establish, hr]
    exact h
  | some remote =>
    have hreach := reach_besides t remote
    have hdocked : Docked (Loopback.reach host remote t) := h.moves hreach.moves
    cases ha : l.accepts with
    | false =>
      simp only [Loopback.establish, hr, ha, Bool.false_eq_true, if_false]
      exact report _ hdocked
    | true =>
      have hn := hreach.trans (negotiate_besides _ l)
      have hopening : (l.negotiate host (Loopback.reach host remote t)).IsOpening := by
        obtain ⟨k, hk⟩ := ho
        exact ⟨k, hn.engine.trans hk⟩
      have hb := (h.moves hn.moves).bringUp hopening
        (Directive.ofPushReply l.options.pushReply.toList)
      simp only [Loopback.establish, hr, ha, if_true]
      split
      · next hu =>
        rw [hu] at hb
        exact report _ hb
      · next v hu =>
        rw [hu] at hb
        exact report _ (hb.moves (tearDown_moves (ownIn_true v)))

/-- A connection on the worker, as far as it goes. -/
theorem Docked.run (h : Docked t) : Docked t.run := by
  cases he : t.engine with
  | scripted e =>
    let w : Tunnel := { t.note .run with engine := .scripted e.start }
    have hr : t.run = w.askFirst := by
      simp only [Tunnel.run, show (t.note .run).engine = .scripted e from he]
      rfl
    have hw : Moves (fun _ => True) t w := .of_same rfl rfl
    rw [hr]
    exact h.moves (hw.trans (askFirst_moves w))
  | loopback l k =>
    let w : Tunnel := { t.note .run with engine := .loopback l .opening }
    have hw : Docked w := h.moves (.of_same rfl rfl)
    have hn : (t.note .run).engine = .loopback l k := he
    have hb := hw.establish ⟨l, rfl⟩ l
    obtain ⟨r, u, hu⟩ : ∃ r u, l.establish host Tunnel.bringUp w = (r, u) := ⟨_, _, rfl⟩
    rw [hu] at hb
    have hu : l.establish host Tunnel.bringUp
      { t.note .run with engine := .loopback l .opening } = (r, u) := hu
    cases r with
    | ok device =>
      let v : Tunnel := { u with engine := u.engine.withLink (.up device) }
      have hv : Moves (fun _ => True) u v := .of_same rfl rfl
      simp only [Tunnel.run, hn, hu]
      exact hb.moves (hv.trans (settle_moves (ownIn_true v)))
    | error e =>
      simp only [Tunnel.run, hn, hu]
      exact hb.moves (Moves.trans (u := { u with engine := u.engine.withLink .down })
        (.of_same rfl rfl) (finish_moves _ _))

theorem Docked.connect (h : Docked t) (profile username password : String) :
    Docked (t.connect profile username password).2 := by
  let a := t.session.connect (answers t.engine) profile username password
  have hfold (rs : List Session.Request) {u : Tunnel} (hu : Docked u) :
      Docked (rs.foldl carryOut u) := by
    induction rs generalizing u with
    | nil => exact hu
    | cons r rs ih =>
      cases r with
      | evaluate c => exact ih (hu.moves (.of_same rfl rfl))
      | authenticate k => exact ih (hu.moves (.of_same rfl rfl))
      | run => exact ih hu.run
  exact hfold a.requests (u := { t with session := a.session }) (h.moves (.of_same rfl rfl))

/-! ### All operations -/

/-- What is made of a new tunnel by the application, the engine and those who deal with its
devices, one operation after the other. -/
inductive Driven : Tunnel → Prop
  | create {id : String} {prefs : Preferences} {engine : Engine} {application : Application}
      {t : Tunnel} (h : create id prefs engine application = .ok t) : Driven t
  | connect {t : Tunnel} (h : Driven t) (profile username password : String) :
      Driven (t.connect profile username password).2
  | disconnect {t : Tunnel} (h : Driven t) : Driven t.disconnect
  | reconnect {t : Tunnel} (h : Driven t) : Driven t.reconnect.2
  | pause {t : Tunnel} (h : Driven t) (reason : String) : Driven (t.pause reason)
  | resume {t : Tunnel} (h : Driven t) : Driven t.resume
  | ask {t : Tunnel} (h : Driven t) (x : Socket) : Driven (t.ask x).2
  | destroy {t : Tunnel} (h : Driven t) : Driven t.destroy
  | abandon {t : Tunnel} (h : Driven t) : Driven t.abandon
  | report {t : Tunnel} (h : Driven t) (e : Event) : Driven (t.report e)
  | line {t : Tunnel} (h : Driven t) (text : String) : Driven (t.note (.line text))
  | protect {t : Tunnel} (h : Driven t) (x : Socket) (remote : String) (ipv6 : Bool) :
      Driven (t.protect x remote ipv6).2
  | conclude {t : Tunnel} (h : Driven t) (v : Verdict) : Driven (t.conclude v)
  | openLatch {t : Tunnel} (h : Driven t) (othersHold : Bool) : Driven (t.openLatch othersHold)
  /-- A device starts for another owner, and tells the session and the application. -/
  | launch {t : Tunnel} (h : Driven t) {n : Nat} {d : Device} (hd : t.bay.device? n = some d)
      (ds : List Directive) : Driven (t.launch n d ds)
  /-- Devices are built, used, started and given up, and packets go through them. -/
  | devices {t : Tunnel} (h : Driven t) {b : Bay} (hb : Bay.Course (fun _ => True) t.bay b)
      (r : Engine.Relay) : Driven { t with bay := b, relay := r }
  | application {t : Tunnel} (h : Driven t) (a : Application) : Driven { t with application := a }

theorem docked_of_create {id : String} {prefs : Preferences} {e : Engine} {a : Application}
    (h : create id prefs e a = .ok t) : Docked t := by
  unfold Tunnel.create at h
  split at h
  · cases h
  · split at h
    · cases h
    · cases h
      exact ⟨⟨_, rfl, .refl _ _⟩, nofun⟩

/-- **Every operation leaves the devices docked.** -/
theorem Driven.docked (h : Driven t) : Docked t := by
  induction h with
  | create h => exact docked_of_create h
  | connect _ profile username password ih => exact ih.connect profile username password
  | disconnect _ ih => exact ih.moves (disconnect_moves (ownIn_true _))
  | reconnect _ ih => exact ih.moves (reconnect_moves (ownIn_true _))
  | pause _ reason ih => exact ih.moves (command_moves (ownIn_true _) _ _)
  | resume _ ih => exact ih.moves (command_moves (ownIn_true _) _ _)
  | ask _ x ih => exact ih.moves (ask_besides _ x).moves
  | destroy _ ih => exact ih.moves (destroy_moves (ownIn_true _))
  | abandon _ ih => exact ih.moves (abandon_moves (ownIn_true _))
  | report _ e ih => exact ih.moves (report_besides _ e).moves
  | line _ text ih => exact ih.moves (note_besides _ _).moves
  | protect _ x remote ipv6 ih => exact ih.moves (protect_besides _ x remote ipv6).moves
  | conclude _ v ih => exact ih.moves (conclude_moves _ v)
  | openLatch _ othersHold ih => exact ih.moves (openLatch_moves (ownIn_true _) othersHold)
  | launch _ hd ds ih => exact ih.launch hd ds
  | devices _ hb r ih => exact ih.moves ⟨hb, .inl rfl⟩
  | application _ a ih => exact ih.moves (.of_same rfl rfl)

/-- **Whatever was done, a tunnel hands out the end of its newest device.** -/
theorem Driven.handsOutNewest (h : Driven t) : t.bay.HandsOutNewest :=
  h.docked.coherent.handsOutNewest

end TunnelRelay.Tunnel
