import TunnelRelay.Address.Netmask
import TunnelRelay.Address.Parser
import TunnelRelay.Directive.Basic
import TunnelRelay.Text.Number

/-!
# Interface settings

The settings of one tunnel's interface, worked out from the directives that the server pushed. A
malformed directive is passed over; it never stops the tunnel.

## Main definitions

- `Settings` — addresses, servers, routes, packet size and the redirect flag
- `Settings.take` — what one directive adds
- `Settings.ofDirectives` — the settings of a list of directives
-/

namespace TunnelRelay

/-- The settings of a tunnel's interface. -/
structure Settings where
  /-- The IPv4 address of the interface. -/
  ipv4 : Option Subnet := none
  /-- The IPv6 address of the interface. -/
  ipv6 : Option Subnet := none
  /-- Name servers, without repetition, in the order in which they were first pushed. -/
  servers : List Address := []
  /-- Routes, without repetition, in the order in which they were first pushed. -/
  routes : List Subnet := []
  /-- The largest packet. -/
  mtu : Nat := 1500
  /-- All traffic is sent through the tunnel. -/
  redirect : Bool := false
  deriving DecidableEq, Repr, Inhabited

namespace Settings

open Address (V4 V6)

/-- The smallest packet size that is accepted. -/
def leastMtu : Nat := 576

/-- The prefix length that a mask argument stands for. Without a mask, and for a mask with a
hole, the address is that of a single host. -/
def maskLen? : Option String → Option Nat
  | none => some 32
  | some s => (V4.ofText? s.toList).map fun m => (Netmask.prefixLen? m).getD 32

/-- The subnet of an address argument and a mask argument. -/
def subnetV4? (d : Directive) : Option Subnet := do
  let a ← V4.ofText? (← d.word? 1).toList
  let p ← maskLen? (d.word? 2)
  return ⟨.v4 a, p⟩

/-- A text before its first slash, and what follows the slash if there is one. -/
def splitSlash : List Char → List Char × Option (List Char)
  | [] => ([], none)
  | c :: t =>
    if c = '/' then ([], some t)
    else
      let r := splitSlash t
      (c :: r.1, r.2)

/-- The subnet written as an IPv6 address with an optional prefix length. A length over 128
counts as 128; one over 255 is malformed. -/
def cidrV6? (t : List Char) : Option Subnet := do
  let (a, p) := splitSlash t
  let p ← match p with
    | none => some 128
    | some digits => Text.unsigned? 256 digits
  let a ← V6.ofText? a
  return ⟨.v6 a, min p 128⟩

/-- The subnet of the first argument. -/
def subnetV6? (d : Directive) : Option Subnet := (d.word? 1).bind (cidrV6? ·.toList)

/-- A server argument: an address, or the address of an endpoint. -/
def server? (s : String) : Option Address :=
  match Address.ofText? s.toList with
  | some a => some a
  | none => Address.ofEndpoint? s.toList

/-- The packet size of the first argument, if it is accepted. -/
def mtu? (d : Directive) : Option Nat :=
  ((d.word? 1).bind (Text.unsigned? 65536 ·.toList)).filter (leastMtu ≤ ·)

/-- The settings with one more route, unless it is there. -/
def addRoute (s : Settings) (r : Subnet) : Settings :=
  if r ∈ s.routes then s else { s with routes := s.routes ++ [r] }

/-- The settings with one more server, unless it is there. -/
def addServer (s : Settings) (a : Address) : Settings :=
  if a ∈ s.servers then s else { s with servers := s.servers ++ [a] }

/-- Route all traffic through the tunnel: IPv4 unless `!ipv4` is given, IPv6 if `ipv6` is. -/
def redirectAll (s : Settings) (flags : List String) : Settings :=
  let s := if flags.contains "!ipv4" then s else s.addRoute .allV4
  let s := if flags.contains "ipv6" then s.addRoute .allV6 else s
  { s with redirect := true }

/-- The settings after one more directive. The interface's own addresses are not taken here. -/
def take (s : Settings) (d : Directive) : Settings :=
  match d.name with
  | "route" => (subnetV4? d).elim s s.addRoute
  | "route-ipv6" => (subnetV6? d).elim s s.addRoute
  | "dhcp-option" =>
    if d.word? 1 = some "DNS" ∨ d.word? 1 = some "DNS6" then
      ((d.word? 2).bind (Address.ofText? ·.toList)).elim s s.addServer
    else s
  | "dns" =>
    if d.word? 1 = some "server" ∧ d.word? 3 = some "address" then
      ((d.words.drop 4).filterMap server?).foldl addServer s
    else s
  | "tun-mtu" => (mtu? d).elim s fun m => { s with mtu := m }
  | "redirect-gateway" => s.redirectAll d.arguments
  | _ => s

/-- The settings of a list of directives. The interface's addresses come from the first
directive of their name. -/
def ofDirectives (ds : List Directive) : Settings :=
  ds.foldl take
    { ipv4 := (Directive.first? "ifconfig" ds).bind subnetV4?
      ipv6 := (Directive.first? "ifconfig-ipv6" ds).bind subnetV6? }

/-- The addresses of the interface. -/
def addresses (s : Settings) : Option Subnet × Option Subnet := (s.ipv4, s.ipv6)

@[simp] theorem addresses_addRoute (s : Settings) (r : Subnet) :
    (s.addRoute r).addresses = s.addresses := by
  unfold addRoute
  split <;> rfl

@[simp] theorem addresses_addServer (s : Settings) (a : Address) :
    (s.addServer a).addresses = s.addresses := by
  unfold addServer
  split <;> rfl

theorem addresses_foldl_addServer (as : List Address) (s : Settings) :
    (as.foldl addServer s).addresses = s.addresses := by
  induction as generalizing s with
  | nil => rfl
  | cons a as ih => exact (ih _).trans (addresses_addServer s a)

@[simp] theorem addresses_redirectAll (s : Settings) (flags : List String) :
    (s.redirectAll flags).addresses = s.addresses := by
  have h (u : Settings) : ({ u with redirect := true } : Settings).addresses = u.addresses := rfl
  unfold redirectAll
  rw [h]
  split
  · split <;> simp
  · split <;> simp

/-- No directive changes the addresses that the interface has from the beginning. -/
theorem addresses_take (s : Settings) (d : Directive) : (s.take d).addresses = s.addresses := by
  unfold take
  split
  · cases subnetV4? d <;> simp
  · cases subnetV6? d <;> simp
  · split
    · cases (d.word? 2).bind (Address.ofText? ·.toList) <;> simp
    · rfl
  · split
    · exact addresses_foldl_addServer _ s
    · rfl
  · cases mtu? d <;> rfl
  · exact addresses_redirectAll s _
  · rfl

theorem addresses_foldl_take (ds : List Directive) (s : Settings) :
    (ds.foldl take s).addresses = s.addresses := by
  induction ds generalizing s with
  | nil => rfl
  | cons d ds ih => exact (ih _).trans (addresses_take s d)

theorem ipv4_ofDirectives (ds : List Directive) :
    (ofDirectives ds).ipv4 = (Directive.first? "ifconfig" ds).bind subnetV4? :=
  congrArg Prod.fst (addresses_foldl_take ds _)

theorem ipv6_ofDirectives (ds : List Directive) :
    (ofDirectives ds).ipv6 = (Directive.first? "ifconfig-ipv6" ds).bind subnetV6? :=
  congrArg Prod.snd (addresses_foldl_take ds _)

theorem v4_of_subnetV4? {d : Directive} {r : Subnet} (h : subnetV4? d = some r) :
    ∃ a, r.address = .v4 a := by
  simp only [subnetV4?, bind, Option.bind_eq_some_iff, pure, Option.some.injEq] at h
  obtain ⟨w, hw, a, ha, p, hp, rfl⟩ := h
  exact ⟨a, rfl⟩

theorem v6_of_cidrV6? {t : List Char} {r : Subnet} (h : cidrV6? t = some r) :
    ∃ a, r.address = .v6 a := by
  simp only [cidrV6?, bind, pure] at h
  split at h
  all_goals
    simp only [Option.bind_eq_some_iff, Option.some.injEq] at h
    obtain ⟨p, hp, a, ha, rfl⟩ := h
    exact ⟨a, rfl⟩

/-- The first address of an interface is an IPv4 one. -/
theorem v4_of_ofDirectives {ds : List Directive} {r : Subnet}
    (h : (ofDirectives ds).ipv4 = some r) : ∃ a, r.address = .v4 a := by
  rw [ipv4_ofDirectives, Option.bind_eq_some_iff] at h
  obtain ⟨d, -, hd⟩ := h
  exact v4_of_subnetV4? hd

/-- The second address of an interface is an IPv6 one. -/
theorem v6_of_ofDirectives {ds : List Directive} {r : Subnet}
    (h : (ofDirectives ds).ipv6 = some r) : ∃ a, r.address = .v6 a := by
  rw [ipv6_ofDirectives, Option.bind_eq_some_iff] at h
  obtain ⟨d, -, hd⟩ := h
  obtain ⟨w, -, hw⟩ := Option.bind_eq_some_iff.1 hd
  exact v6_of_cidrV6? hw

end Settings

end TunnelRelay
