import TunnelRelay.Engine.Loopback
import TunnelRelay.Tun.Device

/-!
# Running devices

A device that runs holds two queues of packets: those on their way out, which the application has
sent, and those on their way in, which it has not read yet. Each operation on the device is an
operation on these queues.

## Main definitions

- `Packet.Relayable` — the packets that pass a device
- `Tun.Device.Carries` — a device that is started, with its queues
- `Tun.Device.Runs` — the same, and nobody told it to disconnect
- `Engine.Relay.take` — one more packet for the engine

## Main statements

- `Tun.Device.Carries.appSend`, `Tun.Device.Carries.poll_cons` — the way out
- `Tun.Device.Carries.deliver`, `Tun.Device.Carries.appReceive` — the way in
- `Tun.Device.carries_running` — a device that has started carries nothing yet
-/

namespace TunnelRelay

open Packet (IoFault Pipe)

/-- The packet passes a device: it is not empty, and the outbound loop has room for it. -/
def Packet.Relayable (p : Packet) : Prop := 1 ≤ p.length ∧ p.length ≤ Tun.readRoom

instance (p : Packet) : Decidable p.Relayable := inferInstanceAs (Decidable (_ ∧ _))

/-- The engine has got one more packet, and will send it back. -/
def Engine.Relay.take (r : Engine.Relay) (p : Packet) : Engine.Relay where
  stats := { r.stats with packets := r.stats.packets + 1, bytes := r.stats.bytes + p.length }
  pending := r.pending ++ [p]

/-- The header that a packet gets in the engine is taken away again, and nothing else. -/
theorem Engine.Relay.pass?_ofPacket (p : Packet) :
    Engine.Relay.pass? (Frame.ofPacket p) = some p := by
  have hroom : Engine.Relay.header.length ≤ (Frame.ofPacket p).headroom := by
    rw [Frame.headroom_ofPacket]
    decide
  obtain ⟨f, hf, hpayload⟩ := Frame.exists_prepend_eq_ok hroom
  rw [Frame.payload_ofPacket] at hpayload
  have hsize : Engine.Relay.header.length ≤ f.size := by
    rw [← Frame.length_payload, hpayload, List.length_append]
    exact Nat.le_add_right _ _
  obtain ⟨g, hg, hdrop⟩ := Frame.exists_advance_eq_ok hsize
  simp only [Engine.Relay.pass?, hf, hg, hdrop, hpayload, List.drop_left]

theorem Engine.Relay.intake_ofPacket (r : Engine.Relay) (p : Packet) :
    Engine.Relay.intake true (.ofPacket p) r = (true, r.take p) := by
  simp [Engine.Relay.intake, Engine.Relay.pass?_ofPacket, Engine.Relay.take]

namespace Tun.Device

/-- The device is started. `out` is on its way from the application, and `inn` on its way to it,
the oldest first. -/
structure Carries (d : Device) (out inn : List Packet) : Prop where
  stage : d.stage = .started
  pipe : ∃ p, d.pipe = some p ∧ p.isOpen ∧ p.engine.inbox = out ∧ p.app.inbox = inn ∧
    p.engine.reset = false ∧ p.app.reset = false

variable {d : Device} {out inn : List Packet}

theorem carries_running (d : Device) : d.running.Carries [] [] :=
  ⟨rfl, _, rfl, rfl, rfl, rfl, rfl, rfl⟩

theorem Carries.openPipe (h : d.Carries out inn) : d.openPipe = d.pipe := by
  obtain ⟨p, hp, hopen, -⟩ := h.pipe
  simp [Device.openPipe, hp, hopen]

theorem Carries.waiting (h : d.Carries out inn) : d.waiting = out.length := by
  obtain ⟨p, hp, -, rfl, -⟩ := h.pipe
  rw [Device.waiting, hp]
  rfl

/-- While a device carries packets its loop does not end, whatever the oldest packet is. -/
theorem Carries.endsLoop (h : d.Carries out inn) : d.endsLoop = false := by
  obtain ⟨p, hp, hopen, rfl, -, hre, -⟩ := h.pipe
  rw [Device.endsLoop, hp]
  cases hi : p.engine.inbox with
  | nil =>
    simp only [Pipe.receive_of_empty (e := .engine) hopen hre hi]
    cases (p.side .engine).nonblocking <;> rfl
  | cons q rest =>
    have hlive := Pipe.peerClosed_of_isOpen
      (p := p.update .engine fun s => { s with inbox := rest }) hopen .engine
    simp only [Pipe.receive_of_cons (e := .engine) hre hi]
    by_cases hq : q.length ≤ readRoom
    · simp only [if_pos hq, hlive, Bool.and_false]
    · simp only [if_neg hq]

/-- A packet of the application that is not too large joins the queue, if there is room. -/
theorem Carries.appSend (h : d.Carries out inn) (q : Packet) :
    (Pipe.largestPacket < q.length ∧ d.appSend q = .ok (.error .messageTooLong, d)) ∨
      (Pipe.sendBuffer ≤ Pipe.charge out ∧ ∃ f, d.appSend q = .ok (.error f, d)) ∨
      (q.length ≤ Pipe.largestPacket ∧
        ∃ u, ({ d with pipe := some u } : Device).Carries (out ++ [q]) inn ∧
          d.appSend q = .ok (.ok q.length, { d with pipe := some u })) := by
  obtain ⟨p, hp, hopen, rfl, rfl, hre, hra⟩ := h.pipe
  have happ : d.appEnd = .ok p := appEnd_eq_ok_iff.2 (h.openPipe.trans hp)
  have hd : { d with pipe := some p } = d := by rw [← hp]
  rw [appSend_of_appEnd happ]
  obtain ⟨hq, hr⟩ | ⟨hroom, f, hr⟩ | ⟨hq, hr⟩ := Pipe.send_cases (e := .app) hopen hra q
  · rw [hr, hd]
    exact .inl ⟨hq, rfl⟩
  · rw [hr, hd]
    exact .inr (.inl ⟨hroom, f, rfl⟩)
  · rw [hr]
    refine .inr (.inr ⟨hq, p.update .engine fun s => { s with inbox := s.inbox ++ [q] }, ?_, rfl⟩)
    exact ⟨h.stage, _, rfl, hopen, rfl, rfl, hre, hra⟩

/-- A packet for the application that is not too large joins the queue, if there is room. Else it
is dropped. -/
theorem Carries.deliver (h : d.Carries out inn) (hh : d.halted = false) (q : Packet) :
    ((Pipe.largestPacket < q.length ∨ Pipe.sendBuffer ≤ Pipe.charge inn) ∧
      d.deliver q = (false, { d with inbound := d.inbound.drop })) ∨
    ∃ u, (∀ t, ({ d with pipe := some u, inbound := t } : Device).Carries out (inn ++ [q])) ∧
      d.deliver q = (true, { d with pipe := some u, inbound := d.inbound.count q.length }) := by
  obtain ⟨p, hp, hopen, rfl, rfl, hre, hra⟩ := h.pipe
  have hd (t : Traffic) : { d with pipe := some p, inbound := t } = { d with inbound := t } := by
    rw [← hp]
  rw [Device.deliver, if_neg (by simp [hh]), h.openPipe, hp]
  obtain ⟨hq, hr⟩ | ⟨hroom, f, hr⟩ | ⟨-, hr⟩ := Pipe.send_cases (e := .engine) hopen hre q
  · refine .inl ⟨.inl hq, ?_⟩
    simp only [hr, hd]
  · refine .inl ⟨.inr hroom, ?_⟩
    simp only [hr, hd]
  · refine .inr ⟨p.update .app fun s => { s with inbox := s.inbox ++ [q] }, fun t => ?_, ?_⟩
    · exact ⟨h.stage, _, rfl, hopen, rfl, rfl, hre, hra⟩
    · simp only [hr]
      rfl

/-- A read finds nothing, or it takes the oldest packet. -/
theorem Carries.appReceive (h : d.Carries out inn) (room : Nat) :
    (inn = [] ∧ ∃ f, (∀ n m, f ≠ .truncated n m) ∧ d.appReceive room = .ok (.error f, d)) ∨
      ∃ q rest u, inn = q :: rest ∧ ({ d with pipe := some u } : Device).Carries out rest ∧
        d.appReceive room = .ok (if q.length ≤ room then .ok q else .error (.truncated q.length room),
          { d with pipe := some u }) := by
  obtain ⟨p, hp, hopen, rfl, rfl, hre, hra⟩ := h.pipe
  have happ : d.appEnd = .ok p := appEnd_eq_ok_iff.2 (h.openPipe.trans hp)
  have hd : { d with pipe := some p } = d := by rw [← hp]
  rw [appReceive_of_appEnd happ]
  cases hi : p.app.inbox with
  | nil =>
    refine .inl ⟨rfl, if p.app.nonblocking then .wouldBlock else .blocks, fun n m => ?_, ?_⟩
    · split <;> nofun
    · rw [Pipe.receive_of_empty (e := .app) hopen hra hi, hd]
      rfl
  | cons q rest =>
    refine .inr ⟨q, rest, p.update .app fun s => { s with inbox := rest }, rfl, ?_, ?_⟩
    · exact ⟨h.stage, _, rfl, hopen, rfl, rfl, hre, hra⟩
    · rw [Pipe.receive_of_cons (e := .app) hra hi]

section Intake

variable {σ : Type} (intake : Frame → σ → Bool × σ) (s : σ)

theorem Carries.poll_nil (h : d.Carries [] inn) : poll intake (d, s) = (d, s) := by
  obtain ⟨p, hp, hopen, hi, rfl, hre, hra⟩ := h.pipe
  have hr := Pipe.receive_of_empty (e := .engine) hopen hre hi readRoom
  have hd : { d with pipe := some p } = d := by rw [← hp]
  cases hn : (p.side .engine).nonblocking
  · simp only [Device.poll, hp, hr, hn, Bool.false_eq_true, if_false, hd]
  · simp only [Device.poll, hp, hr, hn, if_true, hd]

/-- The outbound loop takes the oldest packet. It passes over an empty one, drops one that is too
large, and hands any other to the owner. -/
theorem Carries.poll_cons {q : Packet} (h : d.Carries (q :: out) inn) :
    ∃ u, (∀ t, ({ d with pipe := some u, outbound := t } : Device).Carries out inn) ∧
      poll intake (d, s) =
        if q = [] then ({ d with pipe := some u }, s)
        else if readRoom < q.length then
          ({ d with pipe := some u, outbound := d.outbound.drop }, s)
        else
          ({ d with
              pipe := some u
              outbound := if (intake (.ofPacket q) s).1 then d.outbound.count q.length
                else d.outbound.drop },
            (intake (.ofPacket q) s).2) := by
  obtain ⟨p, hp, hopen, hi, rfl, hre, hra⟩ := h.pipe
  have hr := Pipe.receive_of_cons (e := .engine) hre hi readRoom
  refine ⟨p.update .engine fun s => { s with inbox := out }, fun t => ?_, ?_⟩
  · exact ⟨h.stage, _, rfl, hopen, rfl, rfl, hre, hra⟩
  · by_cases hlarge : readRoom < q.length
    · have hq : q ≠ [] := by
        rintro rfl
        exact absurd hlarge (by decide)
      rw [if_neg (Nat.not_le.2 hlarge)] at hr
      simp only [Device.poll, hp, hr, if_neg hq, if_pos hlarge]
    · rw [if_pos (Nat.not_lt.1 hlarge)] at hr
      cases q with
      | nil => simp only [Device.poll, hp, hr, List.isEmpty_nil, if_true]
      | cons b bs =>
        simp only [Device.poll, hp, hr, List.isEmpty_cons, Bool.false_eq_true, if_false,
          if_neg hlarge, reduceCtorEq]

end Intake

/-- The device is started, and nobody told it to disconnect. -/
structure Runs (d : Device) (out inn : List Packet) : Prop where
  stage : d.stage = .started
  halted : d.halted = false
  pipe : ∃ p, d.pipe = some p ∧ p.isOpen ∧ p.engine.inbox = out ∧ p.app.inbox = inn ∧
    p.engine.reset = false ∧ p.app.reset = false

theorem Runs.carries (h : d.Runs out inn) : d.Carries out inn := ⟨h.stage, h.pipe⟩

theorem Carries.runs (h : d.Carries out inn) (hh : d.halted = false) : d.Runs out inn :=
  ⟨h.stage, hh, h.pipe⟩

theorem runs_running (h : d.halted = false) : d.running.Runs [] [] := (carries_running d).runs h

/-- A packet that is not too large joins the queue, if there is room. -/
theorem Runs.appSend (h : d.Runs out inn) (hroom : Pipe.charge out < Pipe.sendBuffer)
    (q : Packet) : (Pipe.largestPacket < q.length ∧ d.appSend q = .ok (.error .messageTooLong, d)) ∨
      (q.length ≤ Pipe.largestPacket ∧
        ∃ e, d.appSend q = .ok (.ok q.length, e) ∧ e.Runs (out ++ [q]) inn) := by
  obtain hlarge | ⟨hfull, -⟩ | ⟨hq, u, hu, hr⟩ := h.carries.appSend q
  · exact .inl hlarge
  · exact absurd hroom (Nat.not_lt.2 hfull)
  · exact .inr ⟨hq, _, hr, hu.runs h.halted⟩

/-- A packet for the application joins the queue, if there is room. -/
theorem Runs.deliver (h : d.Runs out inn) (hroom : Pipe.charge inn < Pipe.sendBuffer)
    {q : Packet} (hq : q.length ≤ Pipe.largestPacket) :
    ∃ e, d.deliver q = (true, e) ∧ e.Runs out (inn ++ [q]) := by
  obtain ⟨hlarge | hfull, -⟩ | ⟨u, hu, hr⟩ := h.carries.deliver h.halted q
  · exact absurd hlarge (Nat.not_lt.2 hq)
  · exact absurd hroom (Nat.not_lt.2 hfull)
  · exact ⟨_, hr, (hu _).runs h.halted⟩

/-- A read takes the oldest packet. -/
theorem Runs.appReceive (h : d.Runs out inn) (room : Nat) :
    (inn = [] ∧ ∃ f, d.appReceive room = .ok (.error f, d)) ∨
      ∃ q rest, inn = q :: rest ∧ ∃ e, e.Runs out rest ∧ d.appReceive room =
        .ok (if q.length ≤ room then .ok q else .error (.truncated q.length room), e) := by
  obtain ⟨hi, f, -, hr⟩ | ⟨q, rest, u, hi, hu, hr⟩ := h.carries.appReceive room
  · exact .inl ⟨hi, f, hr⟩
  · exact .inr ⟨q, rest, hi, _, hu.runs h.halted, hr⟩

theorem Runs.poll_nil (h : d.Runs [] inn) (r : Engine.Relay) :
    poll (Engine.Relay.intake true) (d, r) = (d, r) := h.carries.poll_nil _ r

/-- The outbound loop hands the oldest packet to the engine if it passes the device, and drops it
if not. -/
theorem Runs.poll_cons {q : Packet} (h : d.Runs (q :: out) inn) (r : Engine.Relay) :
    ∃ e, e.Runs out inn ∧
      poll (Engine.Relay.intake true) (d, r) = (e, if q.Relayable then r.take q else r) := by
  obtain ⟨u, hu, hr⟩ := h.carries.poll_cons (Engine.Relay.intake true) r
  rw [hr]
  by_cases hq : q = []
  · subst hq
    exact ⟨_, (hu d.outbound).runs h.halted, rfl⟩
  · rw [if_neg hq]
    by_cases hlarge : readRoom < q.length
    · have hrel : ¬q.Relayable := fun hq => Nat.not_le.2 hlarge hq.2
      rw [if_pos hlarge, if_neg hrel]
      exact ⟨_, (hu _).runs h.halted, rfl⟩
    · have hrel : q.Relayable := ⟨List.length_pos_iff.2 hq, Nat.le_of_not_lt hlarge⟩
      rw [if_neg hlarge, if_pos hrel, Engine.Relay.intake_ofPacket]
      exact ⟨_, (hu _).runs h.halted, rfl⟩

end Tun.Device

end TunnelRelay
