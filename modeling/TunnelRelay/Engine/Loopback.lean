import TunnelRelay.Directive.Parser
import TunnelRelay.Engine.Contract
import TunnelRelay.Packet.Frame
import TunnelRelay.Text.Number

/-!
# The loopback engine

An engine without a network: it reports what an engine reports, builds a TUN with the settings
that it was made with, and can send every packet of the application straight back. Commands are
queued and obeyed one after the other; a stop ends the connection.

## Main definitions

- `Engine.Loopback` — the engine
- `Engine.Host`, `Engine.BringUp` — what the engine calls
- `Engine.Loopback.evaluate`, `Engine.Loopback.authenticate` — the requests before a connection
- `Engine.Loopback.establish` — from the start of a connection to its being established
- `Engine.Loopback.obey`, `Engine.Loopback.finish` — commands, and the end of a connection
- `Engine.Loopback.connect` — a whole connection
- `Engine.Relay` — packets that are sent back, with their counters

## Design notes

Those who are called live in an environment `σ`, which a call may change; it may hold the engine
itself, so that a call can queue a command.

The counters are natural numbers. Counters of 64 bits agree with them as long as less than 2 ^ 64
bytes came in.
-/

namespace TunnelRelay.Engine

/-- What a loopback engine is made with. -/
structure LoopbackOptions where
  /-- The push reply that the server is said to send. -/
  pushReply : String :=
    "PUSH_REPLY,ifconfig 10.8.0.2 255.255.255.0,dhcp-option DNS 10.8.0.1," ++
      "route 10.8.0.0 255.255.255.0,tun-mtu 1500"
  /-- The credentials that are accepted; without them, any are. -/
  expected : Option Credentials := none
  /-- Packets of the application are sent back. -/
  echo : Bool := true
  deriving DecidableEq, Repr

/-- A command to a connection. -/
inductive Command where
  | stop
  | reconnect
  | pause (reason : String)
  | resume
  deriving DecidableEq, Repr

/-- A loopback engine. -/
structure Loopback where
  /-- What it was made with. -/
  options : LoopbackOptions := {}
  /-- The server of the profile that was evaluated last, if one was. -/
  remote : Option String := none
  /-- The credentials that were taken last. -/
  credentials : Credentials := {}
  /-- Commands that were not obeyed yet, the oldest first. -/
  queue : List Command := []
  deriving DecidableEq, Repr

/-- What an engine calls while it is connected. -/
structure Host (σ : Type) where
  /-- An event is reported. -/
  event : Event → σ → σ
  /-- A line is logged. -/
  log : String → σ → σ
  /-- The transport's socket is to be kept out of the tunnel. -/
  protect : (remote : String) → (ipv6 : Bool) → σ → Bool × σ
  /-- The TUN is stopped and given up. -/
  tearDown : σ → σ

/-- How a TUN is built and started with the pushed directives. The answer is its name, or why it
does not run. -/
abbrev BringUp (σ : Type) := List Directive → σ → Except String String × σ

namespace Loopback

/-- The profile is evaluated: it has to name a server. Commands that were left over are
dropped. -/
def evaluate (l : Loopback) (c : Config) : Except Failure ProfileInfo × Loopback :=
  let ds := Directive.ofLines c.content.toList
  match Directive.first? "remote" ds with
  | none => (.error ⟨"profile has no remote", false⟩, l)
  | some d =>
    match d.word? 1 with
    | none => (.error ⟨"remote has no host", false⟩, l)
    | some host =>
      let info : ProfileInfo :=
        { autologin := (Directive.first? "auth-user-pass" ds).isNone
          host := some host
          port := (d.word? 2).bind fun p => Text.unsigned? 65536 p.toList }
      (.ok info, { l with remote := some host, queue := [] })

/-- The credentials are taken: there has to be a user's name. -/
def authenticate (l : Loopback) (c : Credentials) : Except Failure Unit × Loopback :=
  if c.username.isEmpty then (.error ⟨"username is empty", false⟩, l)
  else (.ok (), { l with credentials := c })

/-- A command is queued. -/
def push (l : Loopback) (c : Command) : Loopback := { l with queue := l.queue ++ [c] }

/-- What is logged about a restart that was asked to wait. -/
def delayLine (seconds : Nat) : String :=
  "reconnect delay " ++ toString seconds ++ "s ignored by loopback"

/-- A restart is queued. A delay is only logged. -/
def reconnect {σ : Type} (h : Host σ) (delay : Nat) (l : Loopback) (s : σ) : Loopback × σ :=
  (l.push .reconnect, if 0 < delay then h.log (delayLine delay) s else s)

/-- The credentials are the expected ones. -/
def accepts (l : Loopback) : Bool := l.options.expected.all (· = l.credentials)

/-- A transport is opened, and its socket kept out of the tunnel. -/
def openTransport {σ : Type} (h : Host σ) (remote : String) (s : σ) : σ :=
  match h.protect remote false s with
  | (true, s) => s
  | (false, s) => h.log ("transport socket to " ++ remote ++ " not protected") s

/-- The server is looked up, and a transport to it opened. -/
def reach {σ : Type} (h : Host σ) (remote : String) (s : σ) : σ :=
  let s := h.event ⟨.resolve, remote, false, false⟩ s
  openTransport h remote (h.event ⟨.wait, "", false, false⟩ s)

/-- The server takes the credentials, and pushes its reply. -/
def negotiate {σ : Type} (h : Host σ) (l : Loopback) (s : σ) : σ :=
  let s := h.event ⟨.authOk, "", false, false⟩ s
  let s := h.event ⟨.pushRequest, "", false, false⟩ s
  h.event ⟨.pushReply, l.options.pushReply, false, false⟩ s

/-- From the start of a connection until it is established. The answer is the name of the TUN. -/
def establish {σ : Type} (h : Host σ) (bringUp : BringUp σ) (l : Loopback) (s : σ) :
    Except Failure String × σ :=
  match l.remote with
  | none => (.error ⟨"connect before eval_config", true⟩, s)
  | some remote =>
    let s := reach h remote s
    if l.accepts then
      match bringUp (Directive.ofPushReply l.options.pushReply.toList) (l.negotiate h s) with
      | (.ok name, s) => (.ok name, h.event ⟨.connected, name, false, false⟩ s)
      | (.error text, s) =>
        (.error ⟨text, true⟩, h.event ⟨.transportError, text, true, true⟩ (h.tearDown s))
    else
      (.error ⟨"AUTH_FAILED", true⟩, h.event ⟨.authFailed, "credentials rejected", true, true⟩ s)

/-- A command other than a stop is obeyed. `name` is the name of the TUN. -/
def obey {σ : Type} (h : Host σ) (remote name : String) (c : Command) (s : σ) : σ :=
  match c with
  | .stop => s
  | .reconnect =>
    let s := h.event ⟨.reconnecting, "", false, false⟩ s
    let s := openTransport h remote s
    h.event ⟨.connected, name, false, false⟩ s
  | .pause reason => h.event ⟨.other "PAUSE", reason, false, false⟩ s
  | .resume => h.event ⟨.other "RESUME", "", false, false⟩ s

/-- The end of an established connection. -/
def finish {σ : Type} (h : Host σ) (s : σ) : σ :=
  h.event ⟨.disconnected, "", false, false⟩ (h.tearDown s)

/-- The commands before the first stop, and those after it if there is a stop. -/
def splitAtStop : List Command → List Command × Option (List Command)
  | [] => ([], none)
  | .stop :: cs => ([], some cs)
  | c :: cs =>
    let r := splitAtStop cs
    (c :: r.1, r.2)

/-- Obeys the commands that are queued. The answer tells whether there was a stop; the rest of
the queue follows it. -/
def serve {σ : Type} (h : Host σ) (remote name : String) (queue : List Command) (s : σ) :
    Option (List Command) × σ :=
  let (now, rest) := splitAtStop queue
  let s := now.foldl (fun s c => obey h remote name c s) s
  match rest with
  | some cs => (some cs, finish h s)
  | none => (none, s)

/-- A whole connection, whose commands are all queued. Without a stop among them it goes on, and
there is no result yet. -/
def connect {σ : Type} (h : Host σ) (bringUp : BringUp σ) (l : Loopback) (s : σ) :
    Option (Except Failure Unit) × Loopback × σ :=
  match l.establish h bringUp s with
  | (.error e, s) => (some (.error e), l, s)
  | (.ok name, s) =>
    match serve h (l.remote.getD "") name l.queue s with
    | (some rest, s) => (some (.ok ()), { l with queue := rest }, s)
    | (none, s) => (none, { l with queue := [] }, s)

/-- A profile that is taken names a server, and nothing waits any more. -/
theorem evaluate_eq_ok {l : Loopback} {c : Config} {i : ProfileInfo}
    (h : (l.evaluate c).1 = .ok i) :
    ∃ host, (l.evaluate c).2 = { l with remote := some host, queue := [] } := by
  unfold evaluate at h ⊢
  dsimp only at h ⊢
  split at h
  · cases h
  · split at h
    · cases h
    · next host _ => exact ⟨host, rfl⟩

/-- A profile that names a server is taken. -/
theorem exists_evaluate_eq_ok (l : Loopback) {c : Config} {host : String}
    (h : (Directive.first? "remote" (Directive.ofLines c.content.toList)).bind (·.word? 1) =
      some host) : ∃ i, (l.evaluate c).1 = .ok i := by
  obtain ⟨d, hd, hhost⟩ := Option.bind_eq_some_iff.1 h
  simp only [evaluate, hd, hhost]
  exact ⟨_, rfl⟩

theorem authenticate_of_name (l : Loopback) {c : Credentials} (h : c.username ≠ "") :
    l.authenticate c = (.ok (), { l with credentials := c }) := by
  simp [authenticate, h]

theorem splitAtStop_append (as bs : List Command) (h : Command.stop ∉ as) :
    splitAtStop (as ++ .stop :: bs) = (as, some bs) := by
  induction as with
  | nil => rfl
  | cons a as ih =>
    have ha : a ≠ .stop := fun he => h (he ▸ List.mem_cons_self)
    have := ih fun hm => h (List.mem_cons_of_mem _ hm)
    cases a with
    | stop => exact absurd rfl ha
    | _ => simp [splitAtStop, this]

end Loopback

/-! ### Packets on their way back -/

/-- Counters of the packets that loopback engines got from applications. -/
structure RelayStats where
  /-- Packets that came in. -/
  packets : Nat := 0
  /-- Their bytes. -/
  bytes : Nat := 0
  /-- Packets that were sent back. -/
  echoed : Nat := 0
  deriving DecidableEq, Repr

/-- Packets that wait to be sent back, with the counters. -/
structure Relay where
  /-- The counters. -/
  stats : RelayStats := {}
  /-- Packets that wait to be sent back, the oldest first. -/
  pending : List Packet := []
  deriving DecidableEq, Repr

namespace Relay

/-- The header that a packet gets on its way through the engine, and loses again. -/
def header : List UInt8 := [0x4c, 0x42, 0x00, 0x01]

/-- The packet of a frame after it got the header and lost it, if there was room. -/
def pass? (f : Frame) : Option Packet :=
  match f.prepend header with
  | .error _ => none
  | .ok f =>
    match f.advance header.length with
    | .error _ => none
    | .ok f => some f.payload

/-- Takes the frame of a packet from the application. The engine never panics. -/
def intake (echo : Bool) (f : Frame) (r : Relay) : Bool × Relay :=
  match pass? f with
  | none => (true, r)
  | some p =>
    (true, {
      stats := { r.stats with packets := r.stats.packets + 1, bytes := r.stats.bytes + f.size }
      pending := if echo then r.pending ++ [p] else r.pending })

end Relay

end TunnelRelay.Engine
