import TunnelRelay.Engine.Loopback
import TunnelRelay.Tun.Bay

/-!
# A bench for the loopback engine

On a bench, a loopback engine is tried out alone: what it calls is written down, requests to
protect a socket get one answer, and the first report of a TUN can be made a failure.

## Main definitions

- `Engine.Bench` — the answers, the TUNs and the record
- `Engine.Bench.host`, `Engine.Bench.bringUp` — the bench as the host of an engine
-/

namespace TunnelRelay.Engine

/-- What a loopback engine calls. -/
inductive HostCall where
  /-- An event was reported. -/
  | event (e : Event)
  /-- A socket was to be protected. -/
  | protect (remote : String) (ipv6 : Bool)
  /-- A line was logged. -/
  | log (line : String)
  deriving DecidableEq, Repr

/-- The surroundings of a loopback engine. -/
structure Bench where
  /-- The answer to requests to protect a socket. -/
  protects : Bool := true
  /-- What a TUN reports first, if it is a failure. -/
  tunError : Option String := none
  /-- The TUNs that were built. -/
  bay : Tun.Bay
  /-- What was called, the latest first. -/
  record : List HostCall := []

namespace Bench

/-- Writes a call down. -/
def note (b : Bench) (c : HostCall) : Bench := { b with record := c :: b.record }

/-- A call of a TUN that starts. Nobody halts it. -/
def call (c : Tun.Call) (r : Option (Except String Unit)) :
    Option Tun.Halt × Option (Except String Unit) := (none, Tun.firstReport c r)

/-- Builds and starts a TUN. -/
def bringUp (ds : List Directive) (b : Bench) : Except String String × Bench :=
  let n := b.bay.built
  let (d, report) := b.bay.fresh.launch call ds (b.tunError.map .error)
  let b := { b with bay := b.bay.build.modify n fun _ => d }
  match report with
  | some (.error t) => (.error t, b)
  | _ => (.ok d.name, b)

/-- Stops the TUN that was built last. -/
def tearDown (b : Bench) : Bench := { b with bay := b.bay.discard (b.bay.built - 1) }

/-- The bench as the host of an engine. -/
def host : Host Bench where
  event e b := b.note (.event e)
  log line b := b.note (.log line)
  protect remote ipv6 b := (b.protects, b.note (.protect remote ipv6))
  tearDown := tearDown

end Bench

end TunnelRelay.Engine
