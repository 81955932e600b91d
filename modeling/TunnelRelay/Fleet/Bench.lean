import TunnelRelay.Fleet.Basic
import TunnelRelay.Tunnel.Relaying

/-!
# A bench for fleets

On a bench, tunnels are tried out under names, together with devices that their engines asked for.
A tunnel that was given up is still found by its name, as its engine is still there.

## Main definitions

- `Fleet.Bench` — a fleet with names
- `Fleet.Bench.create` — a new tunnel
- `Fleet.Bench.buildDevice`, `Fleet.Bench.dropDevice` — devices of a tunnel
-/

namespace TunnelRelay.Fleet

/-- A fleet with names. -/
structure Bench where
  /-- The tunnels. -/
  fleet : Fleet := {}
  /-- The places of the tunnels by name. -/
  named : List (String × Nat) := []
  /-- The places of devices by the names of their tunnels and their own. -/
  devices : List ((String × String) × Nat) := []

/-- The fleet with nothing written down about its tunnels. -/
def quiet (f : Fleet) : Fleet :=
  { f with members := f.members.map fun m => { m with tunnel := { m.tunnel with acts := [] } } }

namespace Bench

/-- The place and the member of a name. -/
def find? (b : Bench) (name : String) : Option (Nat × Member) := do
  let n ← b.named.lookup name
  return (n, ← b.fleet.members[n]?)

/-- The bench with another tunnel at a place. -/
def put (b : Bench) (n : Nat) (t : Tunnel) : Bench :=
  { b with fleet := b.fleet.modify n fun _ => t }

/-- A new tunnel under a name. A tunnel of that name is given up. -/
def create (b : Bench) (name : String) (t : Tunnel) : Bench :=
  let (n, fleet) := b.fleet.add t
  { fleet := (b.named.lookup name).elim fleet fleet.drop
    named := b.named.filter (·.1 != name) ++ [(name, n)]
    devices := b.devices.filter (·.1.1 != name) }

/-- The place of a device, and the device. -/
def device? (b : Bench) (t : Tunnel) (name device : String) : Option (Nat × Tun.Device) := do
  let place ← b.devices.lookup (name, device)
  return (place, ← t.bay.device? place)

/-- Builds a device of the tunnel at place `n` under a name. A device of that name is owned no
more. -/
def buildDevice (b : Bench) (n : Nat) (t : Tunnel) (name device : String) : Bench :=
  let key := (name, device)
  let (place, t) := t.build
  { b.put n ((b.devices.lookup key).elim t t.discard) with
    devices := b.devices.filter (·.1 != key) ++ [(key, place)] }

/-- The device of a name is owned no more. The answer tells whether there was one. -/
def dropDevice (b : Bench) (n : Nat) (t : Tunnel) (name device : String) : Bool × Bench :=
  let key := (name, device)
  match b.devices.lookup key with
  | none => (false, b)
  | some place =>
    (true, { b.put n (t.discard place) with devices := b.devices.filter (·.1 != key) })

end Bench

end TunnelRelay.Fleet
