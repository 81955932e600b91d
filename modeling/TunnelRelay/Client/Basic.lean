import TunnelRelay.Client.Callbacks
import TunnelRelay.Fleet.Basic
import TunnelRelay.Tunnel.Relaying

/-!
# Clients

A client makes its tunnels by name, at the first attempt to connect, and forgets them when it
disconnects. A tunnel whose attempt failed stays, so that its last error can be read.

## Main definitions

- `Client` — the tunnels of a client, and what new ones are made with
- `Client.connect`, `Client.disconnect` — a tunnel is used, and forgotten
- `Client.reconnect`, `Client.pause`, `Client.resume` — commands to a tunnel
- `Client.isConnected`, `Client.lastError` — questions about a tunnel
- `Client.echo` — a packet and what comes back
-/

namespace TunnelRelay

/-- A client and its tunnels. -/
structure Client where
  /-- The tunnels. -/
  fleet : Fleet := {}
  /-- What new tunnels are set to. -/
  prefs : Preferences := {}
  /-- What the engines of new tunnels are made with. -/
  options : Engine.LoopbackOptions := {}
  /-- The callbacks. -/
  callbacks : Client.Callbacks := {}

namespace Client

/-- A new tunnel of the client. -/
def newTunnel (c : Client) (id : String) : Except Fault Tunnel :=
  Tunnel.create id c.prefs (.ofOptions c.options) c.callbacks.application

/-- The client with a tunnel of this name, and the tunnel's place. -/
def ensure (c : Client) (id : String) : Except Fault (Nat × Client) :=
  match c.fleet.place? id with
  | some n => .ok (n, c)
  | none => do
    let (n, fleet) ← c.fleet.enlist (← c.newTunnel id)
    return (n, { c with fleet })

/-- The client with the tunnel at a place changed. -/
def modify (c : Client) (n : Nat) (g : Tunnel → Tunnel) : Client :=
  { c with fleet := c.fleet.modify n g }

/-- Connects the tunnel with a name, which is made if there is none. -/
def connect (c : Client) (id profile username password : String) : Except Fault Unit × Client :=
  match c.ensure id with
  | .error f => (.error f, c)
  | .ok (n, c) =>
    match c.fleet.tunnel? n with
    | none => (.error (.unknownTunnel id), c)
    | some t =>
      let (r, t) := t.connect profile username password
      (r, c.modify n fun _ => t)

/-- Releases the tunnel with a name and forgets it. -/
def disconnect (c : Client) (id : String) : Client := { c with fleet := c.fleet.dismiss id }

/-- The tunnel with a name is connected. -/
def isConnected (c : Client) (id : String) : Bool := (c.fleet.named? id).any (·.session.connected)

/-- What went wrong last with the tunnel with a name. -/
def lastError (c : Client) (id : String) : String :=
  ((c.fleet.named? id).map (·.session.lastErrorText)).getD Session.noError

/-- An operation on the tunnel with a name, if there is one. -/
def perform {α : Type} (c : Client) (id : String) (g : Tunnel → Except Fault α × Tunnel) :
    Except Fault α × Client :=
  match c.fleet.place? id, c.fleet.named? id with
  | some n, some t =>
    let (r, t) := g t
    (r, c.modify n fun _ => t)
  | _, _ => (.error (.unknownTunnel id), c)

/-- Asks for a restart of the transport of the tunnel with a name. -/
def reconnect (c : Client) (id : String) : Except Fault Bool × Client := c.perform id (·.reconnect)

/-- Asks for a restart of the transport of every tunnel. -/
def reconnectAll (c : Client) : Nat × Client :=
  let (n, fleet) := c.fleet.reconnectAll
  (n, { c with fleet })

/-- Asks the tunnel with a name to pause. -/
def pause (c : Client) (id reason : String) : Except Fault Unit × Client :=
  c.perform id fun t => (.ok (), t.pause reason)

/-- Asks the tunnel with a name to go on. -/
def resume (c : Client) (id : String) : Except Fault Unit × Client :=
  c.perform id fun t => (.ok (), t.resume)

/-- Sends a packet from the application's end of the tunnel with a name, and receives what comes
back, if there is a device. -/
def echo (c : Client) (id : String) (p : Packet) (room : Nat) : Option (Tunnel.Echo × Client) := do
  let n ← c.fleet.place? id
  let (r, t) ← (← c.fleet.tunnel? n).echo p room
  return (← r.toOption, c.modify n fun _ => t)

end Client

end TunnelRelay
