import TunnelRelay.Tun.Bay

/-!
# A bench for devices

On a bench, devices of one bay are tried out under names: their owner and their observer write
down what they are told, they can halt a device while it starts, and the owner of a device can be
made to panic over packets with a certain first byte.

## Main definitions

- `Tun.Bench` — the devices, the names, and the record
- `Tun.Entry` — what is written down
- `Tun.Bench.start`, `Tun.Bench.launch`, `Tun.Bench.appSend` — operations that call the owner
-/

namespace TunnelRelay.Tun

open Packet (IoFault)

/-- What the owner and the observer of a device write down. -/
inductive Entry where
  /-- A call while a device started. -/
  | call (c : Call)
  /-- A packet from the application, with the free room around it. -/
  | received (p : Packet) (headroom tailroom : Nat)
  deriving DecidableEq, Repr

/-- The owner of a device panics over packets that begin with this byte. -/
abbrev Taboo := Option UInt8

/-- Devices under names. -/
structure Bench where
  /-- The devices. -/
  bay : Bay
  /-- There is an observer. -/
  observed : Bool
  /-- How a device is halted in a call. -/
  hook : Call → Option Halt
  /-- The places of the devices by name, with their owners' taboos. -/
  named : List (String × Nat × Taboo) := []
  /-- The application's ends that are held, by name, with the devices' places. -/
  held : List (String × Nat) := []
  /-- What was written down, the latest first. -/
  record : List Entry := []

namespace Bench

/-- A name without its device. -/
def forget (b : Bench) (name : String) : Bench :=
  { b with named := b.named.filter (·.1 != name) }

/-- The device of a name is owned no more. -/
def drop (b : Bench) (name : String) : Bool × Bench :=
  match b.named.lookup name with
  | some (n, _) => (true, { b.forget name with bay := b.bay.discard n })
  | none => (false, b)

/-- Builds a device under a name. A device of that name is owned no more. -/
def build (b : Bench) (name : String) (taboo : Taboo) : Bench :=
  let n := b.bay.built
  let b := ({ b with bay := b.bay.build }.drop name).2
  { b with named := b.named ++ [(name, n, taboo)] }

/-- The device of a name. -/
def device? (b : Bench) (name : String) : Option Device :=
  (b.named.lookup name).bind fun x => b.bay.device? x.1

/-- The bench with the device of a name changed. -/
def modify (b : Bench) (name : String) (f : Device → Device) : Bench :=
  match b.named.lookup name with
  | some (n, _) => { b with bay := b.bay.modify n f }
  | none => b

/-- A call from a device that starts: it is written down, then the device may be halted. Without
an observer nothing is announced. -/
def call (b : Bench) : Call → List Entry → Option Halt × List Entry
  | .notice n, r =>
    if b.observed then (b.hook (.notice n), .call (.notice n) :: r) else (none, r)
  | c, r => (b.hook c, .call c :: r)

/-- A packet from the application: the owner writes it down, or panics. -/
def intake (taboo : Taboo) (f : Frame) (r : List Entry) : Bool × List Entry :=
  if taboo.isSome && f.payload.head? = taboo then (false, r)
  else (true, .received f.payload f.headroom f.tailroom :: r)

/-- Puts a device and the record back. -/
def put (b : Bench) (name : String) (x : Device × List Entry) : Bench :=
  { b.modify name fun _ => x.1 with record := x.2 }

/-- Starts the device of a name. -/
def start (b : Bench) (name : String) (d : Device) (ds : List Directive) :
    Except Fault Unit × Bench :=
  let (r, x) := d.start b.call ds b.record
  (r, b.put name x)

/-- Starts the device of a name for its owner. -/
def launch (b : Bench) (name : String) (d : Device) (ds : List Directive) : Bench :=
  b.put name (d.launch b.call ds b.record)

/-- The taboo of a device's owner. -/
def taboo (b : Bench) (name : String) : Taboo := (b.named.lookup name).bind (·.2)

/-- Runs the outbound loop of the device of a name. -/
def pump (b : Bench) (name : String) : Bench :=
  match b.device? name with
  | some d => b.put name (Device.pump (intake (b.taboo name)) (d, b.record))
  | none => b

/-- Sends a packet from the application's end, and runs the outbound loop. -/
def appSend (b : Bench) (name : String) (d : Device) (p : Packet) :
    Except Fault (Except IoFault Nat) × Bench :=
  match d.appSend p with
  | .error f => (.error f, b)
  | .ok (r, d) => (.ok r, (b.modify name fun _ => d).pump name)

/-- Sends packets to the application until one is dropped, at most `limit` of them. The answer
tells whether any was sent. -/
def floodFrom (p : Packet) : (limit : Nat) → (sent : Bool) → Device → Bool × Device
  | 0, sent, d => (sent, d)
  | n + 1, sent, d =>
    match d.deliver p with
    | (true, d) => floodFrom p n true d
    | (false, d) => (sent, d)

/-- Sends packets to the application until one is dropped. Each takes some of the bounded room,
so one is dropped in the end. -/
def flood (p : Packet) (d : Device) : Bool × Device :=
  floodFrom p (Packet.Pipe.sendBuffer / Packet.Pipe.packetOverhead + 2) false d

/-- Keeps the application's end of the device of a name. -/
def hold (b : Bench) (name : String) (d : Device) : Except Fault Unit × Bench :=
  match d.appEnd with
  | .error f => (.error f, b)
  | .ok _ =>
    let b := b.modify name Device.acquireApp
    let b := match b.held.lookup name with
      | some m => { b with bay := b.bay.modify m Device.releaseApp }
      | none => b
    let held := match b.named.lookup name with
      | some (n, _) => (name, n) :: b.held.filter (·.1 != name)
      | none => b.held
    (.ok (), { b with held })

/-- The place and the pipe of the end that is held under a name. -/
def heldPipe? (b : Bench) (name : String) : Option (Nat × Packet.Pipe) := do
  let n ← b.held.lookup name
  let d ← b.bay.device? n
  return (n, ← d.pipe)

/-- Sends a packet from the end that is held under a name, and runs the outbound loop. -/
def heldSend (b : Bench) (name : String) (p : Packet) : Option (Except IoFault Nat × Bench) := do
  let (n, pipe) ← b.heldPipe? name
  let (r, pipe) := pipe.send .app p
  let b := { b with bay := b.bay.modify n fun d => { d with pipe := some pipe } }
  match b.named.find? (·.2.1 = n) with
  | some (owner, _) => return (r, b.pump owner)
  | none => return (r, b)

/-- Receives a packet at the end that is held under a name. -/
def heldReceive (b : Bench) (name : String) (room : Nat) :
    Option (Except IoFault Packet × Bench) := do
  let (n, pipe) ← b.heldPipe? name
  let (r, pipe) := pipe.receive .app room
  return (r, { b with bay := b.bay.modify n fun d => { d with pipe := some pipe } })

end Bench

end TunnelRelay.Tun
