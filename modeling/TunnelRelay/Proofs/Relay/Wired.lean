import TunnelRelay.Proofs.Life.Besides
import TunnelRelay.Proofs.Relay.Running
import TunnelRelay.Tunnel.Relaying

/-!
# Wired tunnels

A tunnel is wired while the connection of its loopback engine is up and the device that the engine
brought up runs. What the connection reports, and the commands that keep it, leave the packets on
their way alone.

## Main definitions

- `Tunnel.Wired` — a tunnel that carries packets, with the queues of its device

## Main statements

- `Tunnel.Wired.reconnect`, `Tunnel.Wired.pause`, `Tunnel.Wired.resume` — the commands
- `Tunnel.Wired.write`, `Tunnel.Wired.takeOne`, `Tunnel.Wired.returnOne`, `Tunnel.Wired.receive` —
  a packet on its way
-/

namespace TunnelRelay.Tunnel

open Engine (Command Event Failure Link Loopback LoopbackOptions Relay Verdict)
open Tun (Device Notice)

/-- The connection of the loopback engine is up, no command waits for it, and its device runs.
`out` and `inn` are on their way through the device. -/
structure Wired (o : LoopbackOptions) (t : Tunnel) (out inn : List Packet) : Prop where
  engine : ∃ l name, t.engine = .loopback l (.up name) ∧ l.options = o ∧ l.queue = []
  device : ∃ n d, t.current? = some (n, d) ∧ d.Runs out inn

variable {o : LoopbackOptions} {t : Tunnel} {out inn : List Packet}

/-- A command that is no stop leaves a wired tunnel wired, and its packets on their way. -/
theorem Wired.settle_push (h : t.Wired o out inn) {c : Command} (hc : c ≠ .stop) {u : Tunnel}
    (hu : t.Besides u) : ({ u with engine := t.engine.command c }.settle).Wired o out inn ∧
      t.SameFreight { u with engine := t.engine.command c }.settle := by
  obtain ⟨l, name, he, ho, hq⟩ := h.engine
  obtain ⟨n, d, hd, hruns⟩ := h.device
  have hcommand : t.engine.command c = .loopback (l.push c) (.up name) := by rw [he]; rfl
  have hstop : Command.stop ∉ (l.push c).queue := by
    simpa [Loopback.push, hq] using Ne.symm hc
  obtain ⟨v, hv, hs⟩ := settle_of_no_stop (t := { u with engine := t.engine.command c })
    hcommand hstop
  rw [hs]
  have hbay : v.bay = t.bay := hv.bay.trans hu.bay
  refine ⟨⟨⟨_, name, rfl, ho, rfl⟩, n, d, ?_, hruns⟩, hbay, hv.own.trans hu.own,
    hv.relay.trans hu.relay, hv.gone.trans hu.gone, hu.session.trans hv.session⟩
  rw [← hd]
  exact current?_congr hbay

theorem Wired.besides (h : t.Wired o out inn) {u : Tunnel} (hu : t.Besides u) :
    u.Wired o out inn := by
  obtain ⟨l, name, he, ho, hq⟩ := h.engine
  obtain ⟨n, d, hd, hruns⟩ := h.device
  exact ⟨⟨l, name, hu.engine.trans he, ho, hq⟩, n, d, (current?_congr hu.bay).trans hd, hruns⟩

theorem restart_besides (t : Tunnel) (answer : Except Failure Unit) :
    t.Besides (t.restart answer).2 := by
  have hs := Session.reconnect_sameStanding t.session answer
  cases h : t.mustRestart <;> simp only [restart, h, if_true, if_false, Bool.false_eq_true]
  · exact .of_session hs
  · exact (note_besides t _).trans (.of_session hs)

/-- A restart of the transport that concerns the engine is a command. -/
theorem reconnect_of_loopback {l : Loopback} {k : Link} (he : t.engine = .loopback l k) :
    t.reconnect.2 = if t.mustRestart then
      ({ (t.restart (.ok ())).2 with engine := t.engine.command .reconnect } : Tunnel).settle
    else (t.restart (.ok ())).2 := by
  cases hm : t.mustRestart with
  | false => simp only [Tunnel.reconnect, hm, if_false, Bool.false_eq_true]
  | true =>
    have hr : t.engine.reconnect = (.ok (), t.engine.command .reconnect) := by rw [he]; rfl
    have hc : ({ t with engine := t.engine.command .reconnect } : Tunnel).mustRestart = true := hm
    simp only [Tunnel.reconnect, hm, if_true, hr, restart, hc]
    rfl

/-- A restart of the transport leaves the packets on their way. -/
theorem Wired.reconnect (h : t.Wired o out inn) :
    t.reconnect.2.Wired o out inn ∧ t.SameFreight t.reconnect.2 := by
  obtain ⟨l, name, he, -⟩ := h.engine
  have hu := restart_besides t (.ok ())
  rw [reconnect_of_loopback he]
  split
  · exact h.settle_push (c := .reconnect) nofun hu
  · exact ⟨h.besides hu, hu.toSameFreight⟩

theorem command_of_held (hr : t.session.released = false) (a : Act) (c : Command) :
    t.command a c = ({ t.note a with engine := t.engine.command c } : Tunnel).settle := by
  have ho : t.order a = t.note a := by simp [order, hr]
  simp only [Tunnel.command, hr, if_false, Bool.false_eq_true, ho]

theorem Wired.command (h : t.Wired o out inn) (a : Act) {c : Command} (hc : c ≠ .stop) :
    (t.command a c).Wired o out inn ∧ t.SameFreight (t.command a c) := by
  cases hr : t.session.released with
  | true =>
    have ht : t.command a c = t := by simp [Tunnel.command, hr]
    rw [ht]
    exact ⟨h, (Besides.refl t).toSameFreight⟩
  | false =>
    rw [command_of_held hr]
    exact h.settle_push hc (note_besides t a)

theorem Wired.pause (h : t.Wired o out inn) (reason : String) :
    (t.pause reason).Wired o out inn ∧ t.SameFreight (t.pause reason) := h.command _ nofun

theorem Wired.resume (h : t.Wired o out inn) :
    t.resume.Wired o out inn ∧ t.SameFreight t.resume := h.command _ nofun

/-! ### Packets on their way -/

/-- Another device in the place of the current one carries the packets from then on. -/
theorem Wired.replace (h : t.Wired o out inn) {n : Nat} {d e : Device} {as bs : List Packet}
    (hd : t.current? = some (n, d)) (he : e.Runs as bs) (r : Relay) :
    ({ t.modify n (fun _ => e) with relay := r }).Wired o as bs := by
  refine ⟨h.engine, n, e, ?_, he⟩
  rw [← current?_modify hd e]
  exact current?_congr rfl

theorem Wired.queue_engine (h : t.Wired o out inn) : t.queue .engine = out := by
  obtain ⟨n, d, hd, -, -, p, hp, -, rfl, -⟩ := h.device
  simp [Tunnel.queue, hd, hp, Packet.Pipe.side]

theorem Wired.queue_app (h : t.Wired o out inn) : t.queue .app = inn := by
  obtain ⟨n, d, hd, -, -, p, hp, -, -, rfl, -⟩ := h.device
  simp [Tunnel.queue, hd, hp, Packet.Pipe.side]

/-- The application writes a packet. It is on its way, unless it is too large for the pipe. -/
theorem Wired.write (h : t.Wired o out inn) (hroom : t.hasRoom .engine) (q : Packet) :
    ∃ u, t.write q = some (.ok (if q.length ≤ Packet.Pipe.largestPacket then .ok q.length
        else .error .messageTooLong), u) ∧ u.relay = t.relay ∧ u.session = t.session ∧
      u.Wired o (if q.length ≤ Packet.Pipe.largestPacket then out ++ [q] else out) inn := by
  obtain ⟨n, d, hd, hruns⟩ := h.device
  have hcharge : Packet.Pipe.charge out < Packet.Pipe.sendBuffer := by
    rw [← h.queue_engine]
    exact hroom
  obtain ⟨hq, hs⟩ | ⟨hq, e, hs, he⟩ := hruns.appSend hcharge q
  · refine ⟨t.modify n fun _ => d, ?_, rfl, rfl, ?_⟩
    · rw [if_neg (Nat.not_le.2 hq)]
      simp only [Tunnel.write, hd, bind, Option.bind_some, hs, pure]
    · rw [if_neg (Nat.not_le.2 hq)]
      exact h.replace hd hruns t.relay
  · refine ⟨t.modify n fun _ => e, ?_, rfl, rfl, ?_⟩
    · rw [if_pos hq]
      simp only [Tunnel.write, hd, bind, Option.bind_some, hs, pure]
    · rw [if_pos hq]
      exact h.replace hd he t.relay

/-- The application reads. If it has room for the oldest packet on the way to it, it gets it. -/
theorem Wired.receive (h : t.Wired o out inn) (room : Nat) :
    (inn = [] ∧ ∃ f u, t.receive room = some (.ok (.error f), u) ∧ u.relay = t.relay ∧
      u.Wired o out []) ∨
    ∃ q rest, inn = q :: rest ∧ ∃ u, u.relay = t.relay ∧ u.session = t.session ∧
      u.Wired o out rest ∧
      t.receive room =
        some (.ok (if q.length ≤ room then .ok q else .error (.truncated q.length room)), u) := by
  obtain ⟨n, d, hd, hruns⟩ := h.device
  obtain ⟨rfl, f, hr⟩ | ⟨q, rest, rfl, e, he, hr⟩ := hruns.appReceive room
  · refine .inl ⟨rfl, f, t.modify n fun _ => d, ?_, rfl, h.replace hd hruns t.relay⟩
    simp only [Tunnel.receive, hd, bind, Option.bind_some, hr, pure]
  · refine .inr ⟨q, rest, rfl, t.modify n fun _ => e, rfl, rfl, h.replace hd he t.relay, ?_⟩
    simp only [Tunnel.receive, hd, bind, Option.bind_some, hr, pure]

theorem Wired.echoesPackets (h : t.Wired o out inn) : t.echoesPackets = o.echo := by
  obtain ⟨l, name, he, rfl, -⟩ := h.engine
  simp only [Tunnel.echoesPackets, he]

theorem Wired.takeOne_nil (h : t.Wired o [] inn) (ho : o.echo) :
    t.takeOne.Wired o [] inn ∧ t.takeOne.relay = t.relay := by
  obtain ⟨n, d, hd, hruns⟩ := h.device
  have ht : t.takeOne = t.modify n fun _ => d := by
    simp only [Tunnel.takeOne, hd, hruns.stage, if_true, h.echoesPackets, ho,
      hruns.poll_nil t.relay]
    rfl
  rw [ht]
  exact ⟨h.replace hd hruns t.relay, rfl⟩

/-- The engine takes the oldest packet if it passes the device; otherwise the packet is gone. -/
theorem Wired.takeOne_cons {q : Packet} (h : t.Wired o (q :: out) inn) (ho : o.echo) :
    t.takeOne.Wired o out inn ∧
      t.takeOne.relay = if q.Relayable then t.relay.take q else t.relay := by
  obtain ⟨n, d, hd, hruns⟩ := h.device
  obtain ⟨e, he, hpoll⟩ := hruns.poll_cons t.relay
  have ht : t.takeOne = { t.modify n (fun _ => e) with
      relay := if q.Relayable then t.relay.take q else t.relay } := by
    simp only [Tunnel.takeOne, hd, hruns.stage, if_true, h.echoesPackets, ho, hpoll]
  rw [ht]
  exact ⟨h.replace hd he _, rfl⟩

theorem session_takeOne (t : Tunnel) : t.takeOne.session = t.session := by
  unfold takeOne
  split
  · rfl
  · split <;> rfl

theorem session_returnOne (t : Tunnel) : t.returnOne.session = t.session := by
  unfold returnOne
  split <;> rfl

theorem returnOne_of_idle (hp : t.relay.pending = []) : t.returnOne = t := by
  simp only [Tunnel.returnOne, hp]

/-- The engine sends the oldest packet back that waits for it. -/
theorem Wired.returnOne (h : t.Wired o out inn) (hroom : t.hasRoom .app) {q : Packet}
    {rest : List Packet} (hp : t.relay.pending = q :: rest)
    (hq : q.length ≤ Packet.Pipe.largestPacket) :
    t.returnOne.Wired o out (inn ++ [q]) ∧ t.returnOne.relay =
      ⟨{ t.relay.stats with echoed := t.relay.stats.echoed + 1 }, rest⟩ := by
  obtain ⟨n, d, hd, hruns⟩ := h.device
  have hcharge : Packet.Pipe.charge inn < Packet.Pipe.sendBuffer := by
    rw [← h.queue_app]
    exact hroom
  obtain ⟨e, hs, he⟩ := hruns.deliver hcharge hq
  have ht : t.returnOne = { t.modify n (fun _ => e) with
      relay := ⟨{ t.relay.stats with echoed := t.relay.stats.echoed + 1 }, rest⟩ } := by
    simp only [Tunnel.returnOne, hp, hd, sendOne, hs, if_true]
  rw [ht]
  exact ⟨h.replace hd he _, rfl⟩

end TunnelRelay.Tunnel
