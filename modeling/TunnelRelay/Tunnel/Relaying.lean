import TunnelRelay.Tunnel.Devices

/-!
# Packets through a tunnel

The application writes packets into the current device and reads packets from it. A loopback
engine gets what is written, and sends it back if it was made to.

## Main definitions

- `Tunnel.inject`, `Tunnel.receive` — a packet for the application, and its arrival
- `Tunnel.write`, `Tunnel.relayWaiting` — a packet from the application, and its way on
- `Tunnel.takeOne`, `Tunnel.returnOne` — one packet on that way, and one on the way back
- `Tunnel.echo` — a packet from the application and what comes back
-/

namespace TunnelRelay.Tunnel

open Packet (IoFault)
open Tun (Device)
open Engine (Relay)

/-- The current device and its place. -/
def current? (t : Tunnel) : Option (Nat × Device) := do
  let n ← t.bay.current?
  return (n, ← t.bay.device? n)

/-- Sends a packet to the application, if there is a device. The answer tells whether it was
sent. -/
def inject (t : Tunnel) (p : Packet) : Option (Bool × Tunnel) := do
  let (n, d) ← t.current?
  let (sent, d) := d.deliver p
  return (sent, t.modify n fun _ => d)

/-- Receives a packet at the application's end, if there is a device. -/
def receive (t : Tunnel) (room : Nat) : Option (Except Fault (Except IoFault Packet) × Tunnel) := do
  let (n, d) ← t.current?
  match d.appReceive room with
  | .error f => return (.error f, t)
  | .ok (r, d) => return (.ok r, t.modify n fun _ => d)

/-- Packets come back from the engine. -/
def echoesPackets (t : Tunnel) : Bool :=
  match t.engine with
  | .loopback l _ => l.options.echo
  | .scripted _ => false

/-- Sends a packet back, and counts it if it was sent. -/
def sendOne (x : Device × Relay) (p : Packet) : Device × Relay :=
  let (sent, d) := x.1.deliver p
  (d, if sent then { x.2 with stats.echoed := x.2.stats.echoed + 1 } else x.2)

/-- Writes a packet into the application's end, if there is a device. -/
def write (t : Tunnel) (p : Packet) : Option (Except Fault (Except IoFault Nat) × Tunnel) := do
  let (n, d) ← t.current?
  match d.appSend p with
  | .error f => return (.error f, t)
  | .ok (r, d) => return (.ok r, t.modify n fun _ => d)

/-- One turn of the outbound loop of the current device, which runs while the device is started. -/
def takeOne (t : Tunnel) : Tunnel :=
  match t.current? with
  | none => t
  | some (n, d) =>
    if d.stage = .started then
      let (d, relay) := Device.poll (Relay.intake t.echoesPackets) (d, t.relay)
      { t.modify n fun _ => d with relay }
    else t

/-- The engine sends the oldest packet back that waits for it. -/
def returnOne (t : Tunnel) : Tunnel :=
  match t.relay.pending, t.current? with
  | p :: rest, some (n, d) =>
    let (d, relay) := sendOne (d, { t.relay with pending := rest }) p
    { t.modify n fun _ => d with relay }
  | _, _ => t

/-- The packets that wait at an end of the current device, the oldest first. -/
def queue (t : Tunnel) (e : Packet.End) : List Packet :=
  (t.current?.bind fun x => x.2.pipe.map fun p => (p.side e).inbox).getD []

/-- The engine takes so many packets from the current device. -/
def takeTimes : Nat → Tunnel → Tunnel
  | 0, t => t
  | n + 1, t => takeTimes n t.takeOne

/-- The engine sends so many packets back. -/
def returnTimes : Nat → Tunnel → Tunnel
  | 0, t => t
  | n + 1, t => returnTimes n t.returnOne

/-- The engine takes the packets that wait in the current device, and sends back what it sends
back. -/
def relayWaiting (t : Tunnel) : Tunnel :=
  let u := takeTimes (t.queue .engine).length t
  returnTimes u.relay.pending.length u

/-- There is room for one more packet at an end of the current device. -/
def hasRoom (t : Tunnel) (e : Packet.End) : Prop :=
  Packet.Pipe.charge (t.queue e) < Packet.Pipe.sendBuffer

instance (t : Tunnel) (e : Packet.End) : Decidable (t.hasRoom e) :=
  inferInstanceAs (Decidable (_ < _))

/-- The result of an echo. -/
structure Echo where
  /-- The packet was sent. -/
  sent : Except IoFault Nat
  /-- What was received, if anything came back. -/
  received : Option (Except IoFault Packet)

/-- Sends a packet from the application's end, and receives what comes back. -/
def echo (t : Tunnel) (p : Packet) (room : Nat) : Option (Except Fault Echo × Tunnel) := do
  match ← t.write p with
  | (.error f, t) => return (.error f, t)
  | (.ok sent, u) =>
    let u := u.relayWaiting
    if u.relay.stats.echoed = t.relay.stats.echoed then return (.ok ⟨sent, none⟩, u)
    else
      match ← u.receive room with
      | (.error f, u) => return (.error f, u)
      | (.ok r, u) => return (.ok ⟨sent, some r⟩, u)

theorem current?_congr {t u : Tunnel} (h : u.bay = t.bay) : u.current? = t.current? := by
  simp only [current?, h]

theorem current?_eq_some_iff {t : Tunnel} {n : Nat} {d : Device} :
    t.current? = some (n, d) ↔ t.bay.current? = some n ∧ t.bay.device? n = some d := by
  constructor
  · intro h
    simp only [current?, bind, Option.bind_eq_some_iff, pure, Option.some.injEq,
      Prod.mk.injEq] at h
    obtain ⟨m, hm, e, he, rfl, rfl⟩ := h
    exact ⟨hm, he⟩
  · rintro ⟨hn, hd⟩
    simp only [current?, hn, hd, bind, pure, Option.bind_some]

theorem current?_modify {t : Tunnel} {n : Nat} {d : Device} (h : t.current? = some (n, d))
    (e : Device) : (t.modify n fun _ => e).current? = some (n, e) := by
  rw [current?_eq_some_iff] at h ⊢
  refine ⟨?_, ?_⟩
  · rw [← h.1]
    exact Tun.Bay.current?_modify t.bay n _
  · show (t.bay.modify n fun _ => e).device? n = some e
    rw [Tun.Bay.device?_modify_self, h.2]
    rfl

end TunnelRelay.Tunnel
