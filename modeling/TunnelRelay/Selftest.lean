import TunnelRelay.Fleet.Basic
import TunnelRelay.Tunnel.Relaying

/-!
# The self-test

The self-test connects tunnels over loopback engines, sends packets of growing size through each,
and expects every packet back as it was sent.

## Main definitions

- `Selftest.packet` — the packets
- `Selftest.prepare` — the connected tunnels
- `Selftest.echoFrom` — packets through one tunnel
- `Selftest.run` — the self-test
-/

namespace TunnelRelay.Selftest

/-- Why the self-test failed. -/
inductive Failure where
  /-- No tunnel was asked for. -/
  | noTunnel
  /-- A tunnel could not be made or refused to connect. -/
  | refused (f : Fault)
  /-- A tunnel did not connect. -/
  | notConnected (id lastError : String)
  /-- A packet did not come back as it was sent. -/
  | noEcho (id : String)
  deriving DecidableEq, Repr

/-- The text of a failure. -/
def Failure.message : Failure → String
  | noTunnel => "need at least one tunnel"
  | refused f => f.message
  | notConnected id e => id ++ " did not connect: " ++ e
  | noEcho id => id ++ " echo failed"

/-- The profile of every tunnel. -/
def profile : String := "client\ndev tun\nremote 127.0.0.1 1194 udp\nverb 3\n"

/-- The user's name and the password. -/
def user : String := "selftest"

/-- The name of the tunnel with a number. -/
def tunnelId (k : Nat) : String := "selftest-" ++ toString k

/-- Room for a packet that comes back. -/
def readRoom : Nat := 2048

/-- The packet with a number. It looks like an IPv4 packet, and each is a byte longer than the one
before. -/
def packet (n : Nat) : Packet := 0x45 :: UInt8.ofNat n :: List.replicate (18 + n) 0x45

/-- One more tunnel in the fleet, which is asked to connect. -/
def addTunnel (prefs : Preferences) (f : Fleet) (k : Nat) : Except Fault Fleet := do
  let t ← Tunnel.create (tunnelId k) prefs (.ofOptions {}) { observes := false }
  let (n, f) ← f.enlist t
  let (r, t) := t.connect profile user user
  r
  return f.modify n fun _ => t

/-- The tunnels with the numbers below a bound. -/
def prepare (prefs : Preferences) (count : Nat) : Except Fault Fleet :=
  (List.range count).foldlM (addTunnel prefs) {}

/-- Sends a packet and expects it back. An application's end that does not wait is read before
anything can come back. -/
def echo (t : Tunnel) (p : Packet) : Option Tunnel := do
  let (.ok (.ok _), t) ← t.write p | failure
  let t := if t.session.prefs.blocking then t.relayWaiting else t
  let (.ok (.ok q), t) ← t.receive readRoom | failure
  if q = p then return t else failure

/-- Sends so many packets, from the one with number `n` on. -/
def echoFrom (t : Tunnel) (n : Nat) : (left : Nat) → Option Tunnel
  | 0 => some t
  | left + 1 => (echo t (packet n)).bind (echoFrom · (n + 1) left)

/-- Tries the tunnel with a name out. -/
def verify (packets : Nat) (f : Fleet) (id : String) : Except Failure Fleet :=
  match f.place? id, f.named? id with
  | some n, some t =>
    if t.session.connected then
      match echoFrom t 0 packets with
      | some t => .ok (f.modify n fun _ => t)
      | none => .error (.noEcho id)
    else .error (.notConnected id t.session.lastErrorText)
  | _, _ => .error (.refused (.unknownTunnel id))

/-- The self-test with so many tunnels, and so many packets through each. The answer is the fleet
after its tunnels were tried out, restarted and released. -/
def run (prefs : Preferences) (tunnels packets : Nat) : Except Failure Fleet :=
  if tunnels = 0 then .error .noTunnel
  else
    match prepare prefs tunnels with
    | .error f => .error (.refused f)
    | .ok f => do
      let f ← f.directory.names.foldlM (verify packets) f
      return f.reconnectAll.2.shutdown

theorem length_packet (n : Nat) : (packet n).length = 20 + n := by
  simp [packet]
  omega

end TunnelRelay.Selftest
