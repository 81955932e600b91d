import TunnelRelay.Proofs.Life.Soundness

/-!
# What leaves devices and packets alone

What a connection reports, the sockets that it wants protected, and the commands that keep it
reach the session and are written down. The engine, the devices and the packets on their way stay
as they are.

## Main definitions

- `Tunnel.SameFreight` — tunnels with the same devices and packets
- `Tunnel.Besides` — a change of the session and of what was written down

## Main statements

- `Tunnel.report_besides`, `Tunnel.protect_besides`, `Tunnel.tell_besides` — what engines and
  devices call
- `Tunnel.settle_of_no_stop` — what a connection does that is not stopped
-/

namespace TunnelRelay.Tunnel

open Engine (Command Event Link Loopback)
open Tun (Notice)

/-- The tunnels agree on their devices and packets, and their sessions on worker and release. -/
structure SameFreight (t u : Tunnel) : Prop where
  bay : u.bay = t.bay
  own : u.own = t.own
  relay : u.relay = t.relay
  gone : u.gone = t.gone
  session : t.session.SameStanding u.session

/-- The tunnels differ in their sessions and in what was written down, at most. -/
structure Besides (t u : Tunnel) : Prop extends t.SameFreight u where
  engine : u.engine = t.engine
  application : u.application = t.application

theorem SameFreight.trans {t u v : Tunnel} (h : t.SameFreight u) (k : u.SameFreight v) :
    t.SameFreight v where
  bay := k.bay.trans h.bay
  own := k.own.trans h.own
  relay := k.relay.trans h.relay
  gone := k.gone.trans h.gone
  session := h.session.trans k.session

namespace Besides

theorem refl (t : Tunnel) : t.Besides t := ⟨⟨rfl, rfl, rfl, rfl, .refl _⟩, rfl, rfl⟩

theorem trans {t u v : Tunnel} (h : t.Besides u) (k : u.Besides v) : t.Besides v :=
  ⟨h.toSameFreight.trans k.toSameFreight, k.engine.trans h.engine,
    k.application.trans h.application⟩

/-- Only the session has changed. -/
theorem of_session {t : Tunnel} {s : Session} (h : t.session.SameStanding s) :
    t.Besides { t with session := s } := ⟨⟨rfl, rfl, rfl, rfl, h⟩, rfl, rfl⟩

end Besides

theorem note_besides (t : Tunnel) (a : Act) : t.Besides (t.note a) :=
  ⟨⟨rfl, rfl, rfl, rfl, .refl _⟩, rfl, rfl⟩

theorem report_besides (t : Tunnel) (e : Event) : t.Besides (t.report e) := by
  cases h : t.gone
  · have hr : t.report e = (t.note (.event e)).mapSession (·.hear e) := by simp [report, h]
    rw [hr]
    exact (note_besides t _).trans (.of_session (Session.hear_sameStanding _ e))
  · rw [report_of_gone h]
    exact note_besides t _

theorem ask_besides (t : Tunnel) (x : Socket) : t.Besides (t.ask x).2 := by
  unfold ask
  split
  · exact .refl t
  · split
    · exact .refl t
    · exact note_besides t _
    · exact note_besides t _

theorem protect_besides (t : Tunnel) (x : Socket) (remote : String) (ipv6 : Bool) :
    t.Besides (t.protect x remote ipv6).2 := by
  cases h : t.isLive
  · rw [protect_of_not_live h]
    exact note_besides t _
  · rw [protect_of_live h]
    exact (ask_besides t x).trans (note_besides _ _)

theorem tell_besides (t : Tunnel) (x : Notice) : t.Besides (t.tell x).2 := by
  have hs : t.Besides (t.store x) := by
    cases x with
    | complete s => exact .of_session (Session.storeSettings_sameStanding _ s)
    | _ => exact .refl t
  cases h : t.isLive
  · rw [tell_of_not_live h]
    exact .refl t
  · cases k : (t.store x).application.observes
    · simpa [tell, h, k] using hs
    · have hn := hs.trans (note_besides _ (.called (.notice x)))
      simpa [tell, h, k] using hn

/-! ### Connections that are up -/

theorem openTransport_besides (t : Tunnel) (remote : String) :
    t.Besides (Loopback.openTransport host remote t) := by
  have hp := protect_besides t .transport remote false
  unfold Loopback.openTransport
  split
  · next h =>
    have h : t.protect .transport remote false = _ := h
    rw [h] at hp
    exact hp
  · next h =>
    have h : t.protect .transport remote false = _ := h
    rw [h] at hp
    exact hp.trans (note_besides _ _)

theorem reach_besides (t : Tunnel) (remote : String) :
    t.Besides (Loopback.reach host remote t) :=
  ((report_besides t _).trans (report_besides _ _)).trans (openTransport_besides _ remote)

theorem negotiate_besides (t : Tunnel) (l : Loopback) : t.Besides (l.negotiate host t) :=
  ((report_besides t _).trans (report_besides _ _)).trans (report_besides _ _)

theorem obey_besides (t : Tunnel) (remote name : String) (c : Command) :
    t.Besides (Loopback.obey host remote name c t) := by
  cases c with
  | stop => exact .refl t
  | reconnect =>
    exact ((report_besides t _).trans (openTransport_besides _ remote)).trans (report_besides _ _)
  | pause reason => exact report_besides t _
  | resume => exact report_besides t _

theorem foldl_obey_besides (remote name : String) (cs : List Command) (t : Tunnel) :
    t.Besides (cs.foldl (fun u c => Loopback.obey host remote name c u) t) := by
  induction cs generalizing t with
  | nil => exact .refl t
  | cons c cs ih => exact (obey_besides t remote name c).trans (ih _)

theorem splitAtStop_of_no_stop {cs : List Command} (h : Command.stop ∉ cs) :
    Loopback.splitAtStop cs = (cs, none) := by
  induction cs with
  | nil => rfl
  | cons c cs ih =>
    have hc : Command.stop ≠ c := fun hs => h (hs ▸ List.mem_cons_self)
    have hcs := ih fun hm => h (List.mem_cons_of_mem _ hm)
    cases c with
    | stop => exact absurd rfl hc
    | _ => simp [Loopback.splitAtStop, hcs]

theorem settle_of_not_up {t : Tunnel} {l : Loopback} {k : Link} (he : t.engine = .loopback l k)
    (hk : ∀ name, k ≠ .up name) : t.settle = t := by
  cases k with
  | up name => exact absurd rfl (hk name)
  | _ => simp only [settle, he]

/-- A stop while the connection is being established waits in the queue. -/
theorem disconnect_of_opening {t : Tunnel} {l : Loopback} (he : t.engine = .loopback l .opening) :
    (∃ k, t.disconnect.engine = .loopback k .opening) ∧ t.disconnect.bay = t.bay ∧
      t.disconnect.own = t.own := by
  have hb : t.beginStop.engine = .loopback l .opening := (engine_beginStop t).trans he
  have hown : t.beginStop.own = t.own := by
    cases h : t.mustStop <;> simp [beginStop, h, mapSession, note]
  have hup (name : String) : Link.opening ≠ .up name := Link.noConfusion
  by_cases hm : t.mustStop
  · have hs := settle_of_not_up (t := t.beginStop.stopEngine)
      (congrArg Tunnel.engine (stopEngine_of_loopback hb)) hup
    simp only [disconnect, hm, if_true, hs]
    rw [stopEngine_of_loopback hb]
    exact ⟨⟨l.push .stop, rfl⟩, bay_beginStop t, hown⟩
  · simp only [disconnect, hm, if_false, settle_of_not_up hb hup, Bool.false_eq_true]
    exact ⟨⟨l, hb⟩, bay_beginStop t, hown⟩

/-- A connection that is up obeys its commands. Without a stop among them it stays up. -/
theorem settle_of_no_stop {t : Tunnel} {l : Loopback} {name : String}
    (he : t.engine = .loopback l (.up name)) (hq : Command.stop ∉ l.queue) :
    ∃ u, t.Besides u ∧
      t.settle = { u with engine := .loopback { l with queue := [] } (.up name) } := by
  refine ⟨_, foldl_obey_besides (l.remote.getD "") name l.queue t, ?_⟩
  simp only [settle, he, Loopback.serve, splitAtStop_of_no_stop hq]

/-- The application stays as it is, whatever its connection does. -/
@[simp] theorem application_settle (t : Tunnel) : t.settle.application = t.application := by
  cases he : t.engine with
  | scripted e => simp only [settle, he]
  | loopback l k =>
    cases k with
    | up name =>
      have hb := foldl_obey_besides (l.remote.getD "") name (Loopback.splitAtStop l.queue).1 t
      simp only [settle, he, Loopback.serve]
      cases (Loopback.splitAtStop l.queue).2 with
      | none => exact hb.application
      | some rest =>
        rw [application_finish]
        exact (report_besides _ _).application.trans
          ((application_tearDown _).trans hb.application)
    | _ => rw [settle_of_not_up he nofun]

@[simp] theorem application_disconnect (t : Tunnel) :
    t.disconnect.application = t.application := by
  unfold disconnect
  dsimp only
  split <;> simp

end TunnelRelay.Tunnel
