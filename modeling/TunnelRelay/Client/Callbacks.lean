import TunnelRelay.Client.Argument
import TunnelRelay.Tunnel.Basic

/-!
# Callbacks

A client takes part in its tunnels through callbacks, each of which may be missing.

## Main definitions

- `Client.Callbacks` — the callbacks that there are
- `Client.Callbacks.passes` — what is passed on
- `Client.Callbacks.application` — a client as the application of a tunnel
-/

namespace TunnelRelay.Client

/-- The callbacks of a client. -/
structure Callbacks where
  /-- Addresses of interfaces are passed on. -/
  address : Bool := false
  /-- Name servers are passed on. -/
  servers : Bool := false
  /-- Routes are passed on. -/
  route : Bool := false
  /-- The answer to requests to protect a socket, if they are passed on. -/
  protect : Option Bool := none
  deriving DecidableEq, Repr

namespace Callbacks

/-- There is a callback for a notice. The settings as a whole have none. -/
def has (c : Callbacks) : Tun.Notice → Bool
  | .address _ => c.address
  | .servers _ => c.servers
  | .route _ _ => c.route
  | .complete _ => false

/-- A notice about the tunnel with a name is passed on. A name that would be cut is not. -/
def passes (c : Callbacks) (id : String) (n : Tun.Notice) : Bool := c.has n && !hasNul id

/-- Requests to protect a socket are passed on. -/
def hasProtector (c : Callbacks) : Bool := c.protect.isSome

/-- The answer to a request to protect a socket. -/
def grants (c : Callbacks) : Bool := c.protect.getD false

/-- The client as the application of a tunnel. -/
def application (c : Callbacks) : Tunnel.Application where
  protector := c.protect.elim .absent .answers

end Callbacks

end TunnelRelay.Client
