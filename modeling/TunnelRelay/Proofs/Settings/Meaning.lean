import Mathlib.Data.List.Forall2
import TunnelRelay.Proofs.Settings.Masks
import TunnelRelay.Settings

/-!
# What pushed directives mean

The settings are worked out in one pass over the directives. Read apart, every directive has a
meaning of its own: the routes and the servers that it adds, and the packet size that it sets. The
settings put these meanings together.

## Main definitions

- `Settings.WritesV4`, `Settings.WritesV6` — the subnet that the arguments of a directive write
- `Settings.Routes`, `Settings.Servers`, `Settings.SetsMtu` — what one directive means
- `Settings.Meant` — what a list of directives means
- `Settings.Proper` — settings that an interface can have

## Main statements

- `Settings.take_eq` — what taking one directive does to the settings
- `Settings.ofDirectives_meant_and_proper` — the settings are what the directives mean, and proper
-/

namespace TunnelRelay.Settings

open Address (V4 V6)

variable {d : Directive} {ds : List Directive} {s : Settings} {r : Subnet}

/-! ### The arguments -/

/-- The prefix length that a mask argument stands for: the bits that it covers. A mask with a hole
stands for a single host, and so does no mask. -/
inductive MaskLength : Option String → Nat → Prop
  | missing : MaskLength none 32
  | covers {w : String} {m : V4} {p : Nat} : V4.ofText? w.toList = some m → Netmask.Covers m p →
      MaskLength (some w) p
  | hole {w : String} {m : V4} : V4.ofText? w.toList = some m → (∀ p, ¬Netmask.Covers m p) →
      MaskLength (some w) 32

/-- The arguments are an IPv4 address and a mask. -/
inductive WritesV4 (d : Directive) : Subnet → Prop
  | intro {w : String} {a : V4} {p : Nat} : d.word? 1 = some w → V4.ofText? w.toList = some a →
      MaskLength (d.word? 2) p → WritesV4 d ⟨.v4 a, p⟩

/-- The first argument is an IPv6 address, with or without a prefix length below 256. A length
over 128 counts as 128. -/
inductive WritesV6 (d : Directive) : Subnet → Prop
  | bare {w : String} {a : V6} : d.word? 1 = some w → '/' ∉ w.toList →
      V6.ofText? w.toList = some a → WritesV6 d ⟨.v6 a, 128⟩
  | sized {w : String} {t digits : List Char} {a : V6} {n : Nat} : d.word? 1 = some w →
      w.toList = t ++ '/' :: digits → '/' ∉ t → V6.ofText? t = some a →
      Text.unsigned? 256 digits = some n → WritesV6 d ⟨.v6 a, min n 128⟩

/-- The argument names a server, by its address or by an endpoint at this address. -/
inductive Serves (w : String) : Address → Prop
  | address {a : Address} : Address.ofText? w.toList = some a → Serves w a
  | endpoint {a : Address} : Address.ofText? w.toList = none →
      Address.ofEndpoint? w.toList = some a → Serves w a

/-- The servers among the arguments, in their order. -/
inductive ServesEach : List String → List Address → Prop
  | nil : ServesEach [] []
  | server {w : String} {a : Address} {ws : List String} {as : List Address} : Serves w a →
      ServesEach ws as → ServesEach (w :: ws) (a :: as)
  | other {w : String} {ws : List String} {as : List Address} : (∀ a, ¬Serves w a) →
      ServesEach ws as → ServesEach (w :: ws) as

/-! ### The meaning of a directive -/

/-- The routes of a tunnel that takes all traffic: IPv4 unless `!ipv4` is given, IPv6 if `ipv6`
is. -/
def gatewayRoutes (flags : List String) : List Subnet :=
  (if "!ipv4" ∈ flags then [] else [.allV4]) ++ if "ipv6" ∈ flags then [.allV6] else []

/-- The routes that a directive adds. -/
inductive Routes (d : Directive) : List Subnet → Prop
  | v4 {r : Subnet} : d.name = "route" → WritesV4 d r → Routes d [r]
  | v6 {r : Subnet} : d.name = "route-ipv6" → WritesV6 d r → Routes d [r]
  | malformedV4 : d.name = "route" → (∀ r, ¬WritesV4 d r) → Routes d []
  | malformedV6 : d.name = "route-ipv6" → (∀ r, ¬WritesV6 d r) → Routes d []
  | gateway : d.name = "redirect-gateway" → Routes d (gatewayRoutes d.arguments)
  | other : d.name ∉ ["route", "route-ipv6", "redirect-gateway"] → Routes d []

/-- The directive has one argument that should name a server. -/
def IsServerOption (d : Directive) : Prop :=
  d.name = "dhcp-option" ∧ (d.word? 1 = some "DNS" ∨ d.word? 1 = some "DNS6")

/-- The directive has a row of arguments that should name servers. -/
def IsServerRow (d : Directive) : Prop :=
  d.name = "dns" ∧ d.word? 1 = some "server" ∧ d.word? 3 = some "address"

instance : DecidablePred IsServerOption := fun _ => inferInstanceAs (Decidable (_ ∧ _))

instance : DecidablePred IsServerRow := fun _ => inferInstanceAs (Decidable (_ ∧ _))

/-- The servers that a directive adds. -/
inductive Servers (d : Directive) : List Address → Prop
  | option {w : String} {a : Address} : IsServerOption d → d.word? 2 = some w →
      Address.ofText? w.toList = some a → Servers d [a]
  | malformedOption : IsServerOption d →
      (∀ w a, d.word? 2 = some w → Address.ofText? w.toList ≠ some a) → Servers d []
  | row {as : List Address} : IsServerRow d → ServesEach (d.words.drop 4) as → Servers d as
  | other : ¬IsServerOption d → ¬IsServerRow d → Servers d []

/-- The directive sets the packet size. -/
def SetsMtu (d : Directive) (n : Nat) : Prop :=
  d.name = "tun-mtu" ∧ (576 ≤ n ∧ n ≤ 65535) ∧
    ∃ w, d.word? 1 = some w ∧ Text.unsigned? 65536 w.toList = some n

/-! ### The meaning of a list of directives -/

/-- The directive is the first of its name. -/
def IsFirst (name : String) (ds : List Directive) (d : Directive) : Prop :=
  d.name = name ∧ ∃ before after, ds = before ++ d :: after ∧ ∀ e ∈ before, e.name ≠ name

/-- The last packet size that is set. -/
def LastMtu (ds : List Directive) (n : Nat) : Prop :=
  ∃ before d after, ds = before ++ d :: after ∧ SetsMtu d n ∧ ∀ e ∈ after, ∀ k, ¬SetsMtu e k

/-- The settings are what the directives mean: every directive adds its routes and servers, unless
they are there, the last packet size holds, and the interface has the addresses of the first
directives that are meant to give some. -/
structure Meant (ds : List Directive) (s : Settings) : Prop where
  ipv4 : ∀ r, s.ipv4 = some r ↔ ∃ d, IsFirst "ifconfig" ds d ∧ WritesV4 d r
  ipv6 : ∀ r, s.ipv6 = some r ↔ ∃ d, IsFirst "ifconfig-ipv6" ds d ∧ WritesV6 d r
  servers : ∃ as, List.Forall₂ Servers ds as ∧ s.servers = as.flatten.eraseDups
  routes : ∃ rs, List.Forall₂ Routes ds rs ∧ s.routes = rs.flatten.eraseDups
  mtu : LastMtu ds s.mtu ∨ (∀ d ∈ ds, ∀ n, ¬SetsMtu d n) ∧ s.mtu = 1500
  redirect : s.redirect ↔ ∃ d ∈ ds, d.name = "redirect-gateway"

/-- Settings that an interface can have. -/
structure Proper (s : Settings) : Prop where
  ipv4 : ∀ r ∈ s.ipv4, (∃ a, r.address = .v4 a) ∧ r.prefixLen ≤ 32
  ipv6 : ∀ r ∈ s.ipv6, (∃ a, r.address = .v6 a) ∧ r.prefixLen ≤ 128
  servers : s.servers.Nodup
  routes : s.routes.Nodup
  fits : ∀ r ∈ s.routes, r.Fits
  mtu : 576 ≤ s.mtu ∧ s.mtu ≤ 65535

/-! ### Reading the arguments -/

theorem maskLen?_eq_some_iff {o : Option String} {p : Nat} :
    maskLen? o = some p ↔ MaskLength o p := by
  cases o with
  | none =>
    rw [maskLen?, Option.some.injEq]
    constructor
    · rintro rfl
      exact .missing
    · intro h
      cases h
      rfl
  | some w =>
    rw [maskLen?, Option.map_eq_some_iff]
    constructor
    · rintro ⟨m, hm, rfl⟩
      cases hp : Netmask.prefixLen? m with
      | none => exact .hole hm (Netmask.prefixLen?_eq_none_iff.1 hp)
      | some p => exact .covers hm (Netmask.prefixLen?_eq_some_iff.1 hp)
    · intro h
      cases h with
      | covers hm hp => exact ⟨_, hm, by rw [Netmask.prefixLen?_eq_some_iff.2 hp]; rfl⟩
      | hole hm hp => exact ⟨_, hm, by rw [Netmask.prefixLen?_eq_none_iff.2 hp]; rfl⟩

theorem subnetV4?_eq_some_iff : subnetV4? d = some r ↔ WritesV4 d r := by
  simp only [subnetV4?, bind, pure, Option.bind_eq_some_iff, Option.some.injEq]
  constructor
  · rintro ⟨w, hw, a, ha, p, hp, rfl⟩
    exact .intro hw ha (maskLen?_eq_some_iff.1 hp)
  · rintro ⟨hw, ha, hp⟩
    exact ⟨_, hw, _, ha, _, maskLen?_eq_some_iff.2 hp, rfl⟩

theorem splitSlash_of_not_mem {t : List Char} (h : '/' ∉ t) : splitSlash t = (t, none) := by
  induction t with
  | nil => rfl
  | cons c t ih =>
    have hc : c ≠ '/' := fun hc => h (hc ▸ List.mem_cons_self)
    rw [splitSlash, if_neg hc, ih fun hmem => h (List.mem_cons_of_mem c hmem)]

theorem splitSlash_append {t : List Char} (h : '/' ∉ t) (digits : List Char) :
    splitSlash (t ++ '/' :: digits) = (t, some digits) := by
  induction t with
  | nil => rfl
  | cons c t ih =>
    have hc : c ≠ '/' := fun hc => h (hc ▸ List.mem_cons_self)
    rw [List.cons_append, splitSlash, if_neg hc, ih fun hmem => h (List.mem_cons_of_mem c hmem)]

theorem subnetV6?_eq_some_iff : subnetV6? d = some r ↔ WritesV6 d r := by
  rw [subnetV6?, Option.bind_eq_some_iff]
  constructor
  · rintro ⟨w, hw, hr⟩
    by_cases hslash : '/' ∈ w.toList
    · obtain ⟨t, digits, hsplit, ht⟩ := List.eq_append_cons_of_mem hslash
      rw [cidrV6?, hsplit, splitSlash_append ht] at hr
      simp only [bind, pure, Option.bind_eq_some_iff, Option.some.injEq] at hr
      obtain ⟨n, hn, a, ha, rfl⟩ := hr
      exact .sized hw hsplit ht ha hn
    · rw [cidrV6?, splitSlash_of_not_mem hslash] at hr
      simp only [bind, pure, Option.bind_eq_some_iff, Option.some.injEq] at hr
      obtain ⟨n, rfl, a, ha, rfl⟩ := hr
      exact .bare hw hslash ha
  · rintro (⟨hw, hslash, ha⟩ | ⟨hw, hsplit, hslash, ha, hn⟩)
    · refine ⟨_, hw, ?_⟩
      rw [cidrV6?, splitSlash_of_not_mem hslash]
      simp only [bind, pure, Option.bind_some, ha]
      rfl
    · refine ⟨_, hw, ?_⟩
      rw [cidrV6?, hsplit, splitSlash_append hslash]
      simp only [bind, pure, Option.bind_some, hn, ha]

theorem server?_eq_some_iff {w : String} {a : Address} : server? w = some a ↔ Serves w a := by
  delta server?
  cases h : Address.ofText? w.toList with
  | none =>
    constructor
    · exact .endpoint h
    · rintro (ha | ⟨-, ha⟩)
      · rw [h] at ha
        cases ha
      · exact ha
  | some b =>
    rw [Option.some.injEq]
    constructor
    · rintro rfl
      exact .address h
    · rintro (ha | ⟨ha, -⟩)
      · exact Option.some.inj (h.symm.trans ha)
      · rw [h] at ha
        cases ha

theorem filterMap_server?_eq_iff {ws : List String} {as : List Address} :
    ws.filterMap server? = as ↔ ServesEach ws as := by
  have hother {w : String} (h : ∀ a, ¬Serves w a) : server? w = none :=
    Option.eq_none_iff_forall_ne_some.2 fun a ha => h a (server?_eq_some_iff.1 ha)
  constructor
  · rintro rfl
    induction ws with
    | nil => exact .nil
    | cons w ws ih =>
      cases h : server? w with
      | none =>
        rw [List.filterMap_cons_none h]
        exact .other (fun a ha => by rw [server?_eq_some_iff.2 ha] at h; cases h) ih
      | some a =>
        rw [List.filterMap_cons_some h]
        exact .server (server?_eq_some_iff.1 h) ih
  · intro h
    induction h with
    | nil => rfl
    | server ha _ ih => rw [List.filterMap_cons_some (server?_eq_some_iff.2 ha), ih]
    | other ha _ ih => rw [List.filterMap_cons_none (hother ha), ih]

theorem mtu?_eq_some_iff {n : Nat} : mtu? d = some n ↔ (576 ≤ n ∧ n ≤ 65535) ∧
    ∃ w, d.word? 1 = some w ∧ Text.unsigned? 65536 w.toList = some n := by
  rw [mtu?, Option.filter_eq_some_iff, Option.bind_eq_some_iff, decide_eq_true_eq, leastMtu]
  constructor
  · rintro ⟨⟨w, hw, hn⟩, hleast⟩
    exact ⟨⟨hleast, Nat.le_of_lt_succ (Text.unsigned?_lt hn)⟩, w, hw, hn⟩
  · rintro ⟨⟨hleast, -⟩, hw⟩
    exact ⟨hw, hleast⟩

/-! ### Taking one directive -/

/-- The list with one more element, unless it is there. -/
def addNew {α : Type} [DecidableEq α] (xs : List α) (x : α) : List α :=
  if x ∈ xs then xs else xs ++ [x]

/-- The routes that a directive adds, worked out. -/
def routesOf (d : Directive) : List Subnet :=
  if d.name = "route" then (subnetV4? d).toList
  else if d.name = "route-ipv6" then (subnetV6? d).toList
  else if d.name = "redirect-gateway" then gatewayRoutes d.arguments
  else []

/-- The servers that a directive adds, worked out. -/
def serversOf (d : Directive) : List Address :=
  if IsServerOption d then ((d.word? 2).bind (Address.ofText? ·.toList)).toList
  else if IsServerRow d then (d.words.drop 4).filterMap server?
  else []

/-- The packet size that a directive sets, worked out. -/
def mtuOf? (d : Directive) : Option Nat := if d.name = "tun-mtu" then mtu? d else none

theorem addRoute_eq (s : Settings) (r : Subnet) :
    s.addRoute r = { s with routes := addNew s.routes r } := by
  rw [addRoute, addNew]
  split <;> rfl

theorem addServer_eq (s : Settings) (a : Address) :
    s.addServer a = { s with servers := addNew s.servers a } := by
  rw [addServer, addNew]
  split <;> rfl

theorem foldl_addServer (as : List Address) (s : Settings) :
    as.foldl addServer s = { s with servers := as.foldl addNew s.servers } := by
  induction as generalizing s with
  | nil => rfl
  | cons a as ih =>
    rw [List.foldl_cons, List.foldl_cons, ih, addServer_eq]

theorem redirectAll_eq (s : Settings) (flags : List String) : s.redirectAll flags =
    { s with routes := (gatewayRoutes flags).foldl addNew s.routes, redirect := true } := by
  rw [redirectAll, gatewayRoutes, List.foldl_append]
  by_cases h4 : "!ipv4" ∈ flags <;> by_cases h6 : "ipv6" ∈ flags <;>
    simp [h4, h6, addRoute_eq]

theorem routesOf_of_name (h4 : d.name ≠ "route") (h6 : d.name ≠ "route-ipv6")
    (hall : d.name ≠ "redirect-gateway") : routesOf d = [] := by
  rw [routesOf, if_neg h4, if_neg h6, if_neg hall]

theorem serversOf_of_name (hoption : d.name ≠ "dhcp-option") (hrow : d.name ≠ "dns") :
    serversOf d = [] := by
  rw [serversOf, if_neg fun h => hoption h.1, if_neg fun h => hrow h.1]

theorem mtuOf?_of_name (h : d.name ≠ "tun-mtu") : mtuOf? d = none := if_neg h

/-- What taking one directive does to the settings. -/
theorem take_eq (s : Settings) (d : Directive) : s.take d =
    { s with
      servers := (serversOf d).foldl addNew s.servers
      routes := (routesOf d).foldl addNew s.routes
      mtu := (mtuOf? d).getD s.mtu
      redirect := s.redirect || decide (d.name = "redirect-gateway") } := by
  -- The names are told apart here, and nowhere else.
  unfold take
  split
  · next h =>
    cases hr : subnetV4? d <;>
      simp [serversOf_of_name, mtuOf?_of_name, routesOf, h, hr, addRoute_eq]
  · next h =>
    cases hr : subnetV6? d <;>
      simp [serversOf_of_name, mtuOf?_of_name, routesOf, h, hr, addRoute_eq]
  · next h =>
    by_cases hoption : d.word? 1 = some "DNS" ∨ d.word? 1 = some "DNS6"
    · cases ha : (d.word? 2).bind (Address.ofText? ·.toList) <;>
        simp [routesOf_of_name, mtuOf?_of_name, serversOf, IsServerOption, h, hoption, ha,
          addServer_eq]
    · simp [routesOf_of_name, mtuOf?_of_name, serversOf, IsServerOption, IsServerRow, h, hoption]
  · next h =>
    by_cases hrow : d.word? 1 = some "server" ∧ d.word? 3 = some "address"
    · simp [routesOf_of_name, mtuOf?_of_name, serversOf, IsServerOption, IsServerRow, h, hrow,
        foldl_addServer]
    · simp [routesOf_of_name, mtuOf?_of_name, serversOf, IsServerOption, IsServerRow, h, hrow]
  · next h =>
    cases hn : mtu? d <;>
      simp [routesOf_of_name, serversOf_of_name, mtuOf?, h, hn]
  · next h =>
    simp [serversOf_of_name, mtuOf?_of_name, routesOf, h, redirectAll_eq]
  · next hroute hroute6 hoption hrow hmtu hall =>
    rw [routesOf_of_name hroute hroute6 hall, serversOf_of_name hoption hrow, mtuOf?_of_name hmtu,
      decide_eq_false hall, Bool.or_false]
    rfl

/-! ### Taking all directives -/

theorem nodup_addNew {α : Type} [DecidableEq α] {xs : List α} (h : xs.Nodup) (x : α) :
    (addNew xs x).Nodup := by
  rw [addNew]
  split
  · exact h
  · next hx =>
    refine List.nodup_append.2 ⟨h, List.pairwise_singleton _ x, fun a ha b hb => ?_⟩
    rw [List.mem_singleton.1 hb]
    rintro rfl
    exact hx ha

theorem nodup_foldl_addNew {α : Type} [DecidableEq α] {xs : List α} (h : xs.Nodup)
    (ys : List α) : (ys.foldl addNew xs).Nodup := by
  induction ys generalizing xs with
  | nil => exact h
  | cons y ys ih => exact ih (nodup_addNew h y)

theorem eraseDups_concat {α : Type} [DecidableEq α] (xs : List α) (x : α) :
    (xs ++ [x]).eraseDups = addNew xs.eraseDups x := by
  rw [List.eraseDups_append, addNew]
  by_cases h : x ∈ xs
  · rw [if_pos (List.mem_eraseDups.2 h)]
    simp [List.removeAll, h]
  · rw [if_neg (mt List.mem_eraseDups.1 h)]
    simp [List.removeAll, h, List.eraseDups_cons]

/-- Elements that are added one by one, unless they are there, are the first occurrences. -/
theorem foldl_addNew_eraseDups {α : Type} [DecidableEq α] (xs ys : List α) :
    ys.foldl addNew xs.eraseDups = (xs ++ ys).eraseDups := by
  induction ys generalizing xs with
  | nil => rw [List.append_nil, List.foldl_nil]
  | cons y ys ih =>
    rw [List.foldl_cons, ← eraseDups_concat, ih, List.append_assoc, List.singleton_append]

/-- What the directives do to settings, field by field. -/
theorem foldl_take_eq (ds : List Directive) (s : Settings) : ds.foldl take s =
    { s with
      servers := (ds.flatMap serversOf).foldl addNew s.servers
      routes := (ds.flatMap routesOf).foldl addNew s.routes
      mtu := (ds.filterMap mtuOf?).getLastD s.mtu
      redirect := s.redirect || ds.any (·.name = "redirect-gateway") } := by
  induction ds generalizing s with
  | nil => simp
  | cons d ds ih =>
    rw [List.foldl_cons, ih, take_eq, List.flatMap_cons, List.flatMap_cons, List.foldl_append,
      List.foldl_append, List.any_cons, ← Bool.or_assoc]
    congr 1
    cases hm : mtuOf? d with
    | none => rw [List.filterMap_cons_none hm, Option.getD_none]
    | some n => rw [List.filterMap_cons_some hm, Option.getD_some, List.getLastD_cons]

theorem ofDirectives_eq (ds : List Directive) : ofDirectives ds =
    { ipv4 := (Directive.first? "ifconfig" ds).bind subnetV4?
      ipv6 := (Directive.first? "ifconfig-ipv6" ds).bind subnetV6?
      servers := (ds.flatMap serversOf).eraseDups
      routes := (ds.flatMap routesOf).eraseDups
      mtu := (ds.filterMap mtuOf?).getLastD 1500
      redirect := ds.any (·.name = "redirect-gateway") } := by
  rw [ofDirectives, foldl_take_eq]
  congr 1
  · exact foldl_addNew_eraseDups [] _
  · exact foldl_addNew_eraseDups [] _

/-! ### The meaning worked out -/

theorem routes_iff {rs : List Subnet} : Routes d rs ↔ rs = routesOf d := by
  have hnone4 (h : ∀ r, ¬WritesV4 d r) : subnetV4? d = none :=
    Option.eq_none_iff_forall_ne_some.2 fun r hr => h r (subnetV4?_eq_some_iff.1 hr)
  have hnone6 (h : ∀ r, ¬WritesV6 d r) : subnetV6? d = none :=
    Option.eq_none_iff_forall_ne_some.2 fun r hr => h r (subnetV6?_eq_some_iff.1 hr)
  constructor
  · intro h
    cases h with
    | v4 hname hr => simp [routesOf, hname, subnetV4?_eq_some_iff.2 hr]
    | v6 hname hr => simp [routesOf, hname, subnetV6?_eq_some_iff.2 hr]
    | malformedV4 hname hr => simp [routesOf, hname, hnone4 hr]
    | malformedV6 hname hr => simp [routesOf, hname, hnone6 hr]
    | gateway hname => simp [routesOf, hname]
    | other hname =>
      simp only [List.mem_cons, List.not_mem_nil, or_false, not_or] at hname
      exact (routesOf_of_name hname.1 hname.2.1 hname.2.2).symm
  · rintro rfl
    by_cases h4 : d.name = "route"
    · cases hr : subnetV4? d with
      | none =>
        rw [routesOf, if_pos h4, hr]
        exact .malformedV4 h4 fun r h => by rw [subnetV4?_eq_some_iff.2 h] at hr; cases hr
      | some r =>
        rw [routesOf, if_pos h4, hr]
        exact .v4 h4 (subnetV4?_eq_some_iff.1 hr)
    by_cases h6 : d.name = "route-ipv6"
    · cases hr : subnetV6? d with
      | none =>
        rw [routesOf, if_neg h4, if_pos h6, hr]
        exact .malformedV6 h6 fun r h => by rw [subnetV6?_eq_some_iff.2 h] at hr; cases hr
      | some r =>
        rw [routesOf, if_neg h4, if_pos h6, hr]
        exact .v6 h6 (subnetV6?_eq_some_iff.1 hr)
    by_cases hall : d.name = "redirect-gateway"
    · rw [routesOf, if_neg h4, if_neg h6, if_pos hall]
      exact .gateway hall
    · rw [routesOf_of_name h4 h6 hall]
      exact .other (by simp [h4, h6, hall])

theorem servers_iff {as : List Address} : Servers d as ↔ as = serversOf d := by
  have hnone : (d.word? 2).bind (Address.ofText? ·.toList) = none ↔
      ∀ w a, d.word? 2 = some w → Address.ofText? w.toList ≠ some a := by
    rw [Option.bind_eq_none_iff]
    simp only [Option.eq_none_iff_forall_ne_some]
    exact forall_congr' fun w => forall_comm
  have hrow (h : IsServerRow d) : ¬IsServerOption d := by
    intro hoption
    have hname := h.1.symm.trans hoption.1
    simp at hname
  constructor
  · intro h
    cases h with
    | option ho hw ha =>
      rw [serversOf, if_pos ho, hw, Option.bind_some, ha]
      rfl
    | malformedOption ho ha =>
      rw [serversOf, if_pos ho, hnone.2 ha]
      rfl
    | row hr has =>
      rw [serversOf, if_neg (hrow hr), if_pos hr]
      exact (filterMap_server?_eq_iff.2 has).symm
    | other ho hr => rw [serversOf, if_neg ho, if_neg hr]
  · rintro rfl
    rw [serversOf]
    split
    · next ho =>
      cases ha : (d.word? 2).bind (Address.ofText? ·.toList) with
      | none => exact .malformedOption ho (hnone.1 ha)
      | some a =>
        obtain ⟨w, hw, ha⟩ := Option.bind_eq_some_iff.1 ha
        exact .option ho hw ha
    · next ho =>
      split
      · next hr => exact .row hr (filterMap_server?_eq_iff.1 rfl)
      · next hr => exact .other ho hr

theorem setsMtu_iff {n : Nat} : SetsMtu d n ↔ mtuOf? d = some n := by
  rw [SetsMtu, ← mtu?_eq_some_iff, mtuOf?, Option.ite_none_right_eq_some]

theorem forall₂_eq_iff {α β : Type} {R : α → β → Prop} {f : α → β} (h : ∀ x y, R x y ↔ y = f x)
    {xs : List α} {ys : List β} : List.Forall₂ R xs ys ↔ ys = xs.map f := by
  constructor
  · intro hall
    induction hall with
    | nil => rfl
    | cons hxy _ ih => rw [(h _ _).1 hxy, ih, List.map_cons]
  · rintro rfl
    rw [List.forall₂_map_right_iff, List.forall₂_same]
    exact fun x _ => (h x _).2 rfl

theorem forall₂_servers_iff {as : List (List Address)} :
    List.Forall₂ Servers ds as ↔ as = ds.map serversOf :=
  forall₂_eq_iff fun d _ => servers_iff (d := d)

theorem forall₂_routes_iff {rs : List (List Subnet)} :
    List.Forall₂ Routes ds rs ↔ rs = ds.map routesOf :=
  forall₂_eq_iff fun d _ => routes_iff (d := d)

theorem isFirst_iff {name : String} : IsFirst name ds d ↔ Directive.first? name ds = some d := by
  rw [IsFirst, Directive.first?, List.find?_eq_some_iff_append, beq_iff_eq]
  simp only [Bool.not_eq_true', beq_eq_false_iff_ne]

theorem lastMtu_iff {n : Nat} :
    LastMtu ds n ↔ (ds.filterMap mtuOf?).getLast? = some n := by
  rw [List.getLast?_filterMap, List.findSome?_eq_some_iff]
  simp only [LastMtu, setsMtu_iff, ← Option.eq_none_iff_forall_ne_some]
  constructor
  · rintro ⟨before, d, after, rfl, hd, hafter⟩
    exact ⟨after.reverse, d, before.reverse, by simp, hd, by simpa using hafter⟩
  · rintro ⟨after, d, before, hds, hd, hafter⟩
    refine ⟨before.reverse, d, after.reverse, ?_, hd, by simpa using hafter⟩
    rw [← List.reverse_reverse ds, hds]
    simp

theorem mtu_iff {n : Nat} : LastMtu ds n ∨ (∀ d ∈ ds, ∀ k, ¬SetsMtu d k) ∧ n = 1500 ↔
    n = (ds.filterMap mtuOf?).getLastD 1500 := by
  have hnone : (∀ d ∈ ds, ∀ k, ¬SetsMtu d k) ↔ ds.filterMap mtuOf? = [] := by
    simp only [setsMtu_iff, ← Option.eq_none_iff_forall_ne_some, List.filterMap_eq_nil_iff]
  rw [lastMtu_iff, hnone, List.getLastD_eq_getLast?]
  cases h : (ds.filterMap mtuOf?).getLast? with
  | none =>
    rw [List.getLast?_eq_none_iff] at h
    simp [h]
  | some k =>
    have hne : ds.filterMap mtuOf? ≠ [] := by
      intro hnil
      rw [hnil] at h
      cases h
    simp [hne, eq_comm]

/-- The settings are what the directives mean, and nothing else is. -/
theorem meant_iff : Meant ds s ↔ s = ofDirectives ds := by
  constructor
  · rintro ⟨h4, h6, ⟨as, has, hservers⟩, ⟨rs, hrs, hroutes⟩, hmtu, hredirect⟩
    rw [forall₂_servers_iff.1 has, ← List.flatMap_def] at hservers
    rw [forall₂_routes_iff.1 hrs, ← List.flatMap_def] at hroutes
    rw [mtu_iff] at hmtu
    have hv4 : s.ipv4 = (Directive.first? "ifconfig" ds).bind subnetV4? := by
      refine Option.ext fun r => (h4 r).trans ?_
      simp only [isFirst_iff, Option.bind_eq_some_iff, subnetV4?_eq_some_iff]
    have hv6 : s.ipv6 = (Directive.first? "ifconfig-ipv6" ds).bind subnetV6? := by
      refine Option.ext fun r => (h6 r).trans ?_
      simp only [isFirst_iff, Option.bind_eq_some_iff, subnetV6?_eq_some_iff]
    have hall : s.redirect = ds.any (·.name = "redirect-gateway") := by
      rw [Bool.eq_iff_iff, hredirect, List.any_eq_true]
      simp only [decide_eq_true_eq]
    rw [ofDirectives_eq, ← hv4, ← hv6, ← hservers, ← hroutes, ← hmtu, ← hall]
  · rintro rfl
    constructor
    · intro r
      simp only [ipv4_ofDirectives, Option.bind_eq_some_iff, isFirst_iff, subnetV4?_eq_some_iff]
    · intro r
      simp only [ipv6_ofDirectives, Option.bind_eq_some_iff, isFirst_iff, subnetV6?_eq_some_iff]
    · refine ⟨_, forall₂_servers_iff.2 rfl, ?_⟩
      rw [← List.flatMap_def, ofDirectives_eq]
    · refine ⟨_, forall₂_routes_iff.2 rfl, ?_⟩
      rw [← List.flatMap_def, ofDirectives_eq]
    · rw [mtu_iff, ofDirectives_eq]
    · rw [ofDirectives_eq]
      simp

/-! ### Settings that an interface can have -/

theorem MaskLength.le {o : Option String} {p : Nat} (h : MaskLength o p) : p ≤ 32 := by
  cases h with
  | missing | hole => exact Nat.le_refl 32
  | covers _ hp => exact hp.1

theorem WritesV4.fits (h : WritesV4 d r) : (∃ a, r.address = .v4 a) ∧ r.prefixLen ≤ 32 := by
  obtain ⟨-, -, hp⟩ := h
  exact ⟨⟨_, rfl⟩, hp.le⟩

theorem WritesV6.fits (h : WritesV6 d r) : (∃ a, r.address = .v6 a) ∧ r.prefixLen ≤ 128 := by
  cases h with
  | bare => exact ⟨⟨_, rfl⟩, Nat.le_refl 128⟩
  | sized => exact ⟨⟨_, rfl⟩, Nat.min_le_right _ _⟩

theorem Routes.fits {rs : List Subnet} (h : Routes d rs) : ∀ r ∈ rs, r.Fits := by
  cases h with
  | v4 _ hr =>
    obtain ⟨⟨a, ha⟩, hp⟩ := hr.fits
    rw [List.forall_mem_singleton, Subnet.Fits, ha]
    exact hp
  | v6 _ hr =>
    obtain ⟨⟨a, ha⟩, hp⟩ := hr.fits
    rw [List.forall_mem_singleton, Subnet.Fits, ha]
    exact hp
  | malformedV4 | malformedV6 | other => exact nofun
  | gateway =>
    intro r hr
    have hzero : r.prefixLen = 0 := by
      obtain hr | hr := List.mem_append.1 hr
      · split at hr
        · cases hr
        · rw [List.mem_singleton.1 hr]
          rfl
      · split at hr
        · rw [List.mem_singleton.1 hr]
          rfl
        · cases hr
    rw [Subnet.Fits, hzero]
    exact Nat.zero_le _

theorem Meant.proper (h : Meant ds s) : s.Proper where
  ipv4 r hr := by
    obtain ⟨d, -, hd⟩ := (h.ipv4 r).1 hr
    exact hd.fits
  ipv6 r hr := by
    obtain ⟨d, -, hd⟩ := (h.ipv6 r).1 hr
    exact hd.fits
  servers := by
    obtain ⟨as, -, has⟩ := h.servers
    rw [has, ← List.nil_append as.flatten, ← foldl_addNew_eraseDups]
    exact nodup_foldl_addNew List.nodup_nil _
  routes := by
    obtain ⟨rs, -, hrs⟩ := h.routes
    rw [hrs, ← List.nil_append rs.flatten, ← foldl_addNew_eraseDups]
    exact nodup_foldl_addNew List.nodup_nil _
  fits r hr := by
    obtain ⟨rs, hall, hrs⟩ := h.routes
    rw [hrs, List.mem_eraseDups, List.mem_flatten] at hr
    obtain ⟨qs, hqs, hr⟩ := hr
    rw [forall₂_routes_iff.1 hall] at hqs
    obtain ⟨d, -, hd⟩ := List.mem_map.1 hqs
    exact (routes_iff.2 hd.symm).fits r hr
  mtu := by
    obtain ⟨_, _, _, _, hset, -⟩ | ⟨-, hdefault⟩ := h.mtu
    · exact hset.2.1
    · rw [hdefault]
      decide

/-- The settings that are worked out from directives are what the directives mean, and an interface
can have them. -/
theorem ofDirectives_meant_and_proper (ds : List Directive) :
    (∀ s, Meant ds s ↔ s = ofDirectives ds) ∧ (ofDirectives ds).Proper :=
  ⟨fun _ => meant_iff, (meant_iff.2 rfl).proper⟩

example : (ofDirectives [⟨["route", "0.0.0.0", "0.0.0.0"]⟩, ⟨["redirect-gateway", "ipv6"]⟩,
    ⟨["route", "10.0.0"]⟩]).routes = [.allV4, .allV6] := by
  decide +kernel

end TunnelRelay.Settings
