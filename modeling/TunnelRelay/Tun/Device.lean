import TunnelRelay.Fault
import TunnelRelay.Packet.Pipe
import TunnelRelay.Settings

/-!
# TUN devices

A device stands in for a TUN interface. The engine that owns it starts it with the pushed
directives; it announces the settings, opens a packet pipe, hands the packets of the application
to its owner and those of its owner to the application. A device starts at most once.

## Main definitions

- `Tun.Device` — a device with its pipe, its settings and its counters
- `Tun.Notice`, `Tun.Call` — what is announced, and what is called while a device starts
- `Tun.firstReport` — what the owner learns first
- `Tun.Device.start`, `Tun.Device.stop`, `Tun.Device.disconnect` — the life of a device
- `Tun.Device.deliver` — a packet for the application
- `Tun.Device.pump` — the outbound loop, until nothing waits

## Design notes

Owners and observers are called in an environment `σ` of their own. A call that is made while the
device starts may halt the device: it answers with the halt, and the device takes it before the
next call. An owner that panics over a packet answers `false`.

The counters are natural numbers. Counters of 64 bits agree with them as long as less than 2 ^ 64
bytes and packets went either way.
-/

namespace TunnelRelay.Tun

open Packet (Pipe IoFault)

/-- The name of the interface of a tunnel. -/
def interfaceName (id : String) : String := "custom_tun_" ++ id

/-- The stages of a device's life. -/
inductive Stage where
  | created
  | started
  | stopped
  deriving DecidableEq, Repr

/-- The name of a stage. -/
def Stage.name : Stage → String
  | created => "Created"
  | started => "Started"
  | stopped => "Stopped"

/-- Counters of one direction. -/
structure Traffic where
  /-- Packets handed over. -/
  packets : Nat := 0
  /-- Their bytes. -/
  bytes : Nat := 0
  /-- Packets dropped. -/
  dropped : Nat := 0
  deriving DecidableEq, Repr

/-- The counters after one more packet was handed over. -/
def Traffic.count (t : Traffic) (size : Nat) : Traffic :=
  { t with packets := t.packets + 1, bytes := t.bytes + size }

/-- The counters after one more packet was dropped. -/
def Traffic.drop (t : Traffic) : Traffic := { t with dropped := t.dropped + 1 }

/-- What an observer is told about a tunnel. -/
inductive Notice where
  /-- The interface has this address. -/
  | address (a : Subnet)
  /-- These are the name servers. -/
  | servers (as : List Address)
  /-- This network is reached through the tunnel. It may be one of IPv6. -/
  | route (r : Subnet) (ipv6 : Bool)
  /-- These are the settings as a whole. -/
  | complete (s : Settings)
  deriving DecidableEq, Repr

/-- What an observer is told about settings, in order. -/
def announcements (s : Settings) : List Notice :=
  (s.ipv4.toList ++ s.ipv6.toList).map .address ++
    (if s.servers.isEmpty then [] else [.servers s.servers]) ++
    s.routes.map (fun r => .route r r.address.isV6) ++ [.complete s]

/-- What a device calls while it starts. -/
inductive Call where
  /-- The owner is told that the settings are about to be announced. -/
  | prepare
  /-- The observer is told something. -/
  | notice (n : Notice)
  /-- The owner is told that the device runs. -/
  | connected
  /-- The owner is told that the device did not start. -/
  | failed (text : String)
  deriving DecidableEq, Repr

/-- What the owner of a device learns first about its start, after one more call: that the device
runs, or why not. -/
def firstReport : Call → Option (Except String Unit) → Option (Except String Unit)
  | .connected, none => some (.ok ())
  | .failed t, none => some (.error t)
  | _, r => r

/-- How a device is halted. -/
inductive Halt where
  /-- For good: the pipe is closed. -/
  | stop
  /-- The device takes no more packets for the application and cannot start any more. -/
  | disconnect
  deriving DecidableEq, Repr

/-- Room of the outbound loop for one packet. -/
def readRoom : Nat := 65536

/-- A TUN device. -/
structure Device where
  /-- The tunnel. -/
  id : String
  /-- The application's end waits for the next packet. -/
  blocking : Bool
  /-- The stage of the device's life. -/
  stage : Stage := .created
  /-- The device was halted. -/
  halted : Bool := false
  /-- The pipe, from the start on. It outlives the device for those who hold an end. -/
  pipe : Option Pipe := none
  /-- The settings with which the device was started. -/
  settings : Settings := {}
  /-- Packets for the application. -/
  inbound : Traffic := {}
  /-- Packets from the application. -/
  outbound : Traffic := {}
  deriving DecidableEq, Repr

namespace Device

/-- The name of the interface. -/
def name (d : Device) : String := interfaceName d.id

/-- The pipe, while it is open. -/
def openPipe (d : Device) : Option Pipe := d.pipe.filter (·.isOpen)

/-- The IPv4 address of the interface, once there are settings. -/
def address4? (d : Device) : Option Address.V4 := d.settings.ipv4.bind (·.address.v4?)

/-- The IPv6 address of the interface, once there are settings. -/
def address6? (d : Device) : Option Address.V6 := d.settings.ipv6.bind (·.address.v6?)

/-- The largest packet. -/
def mtu (d : Device) : Nat := d.settings.mtu

/-- The device after it was stopped. -/
def stop (d : Device) : Device :=
  if d.stage = .stopped then d
  else { d with
    stage := .stopped
    halted := true
    pipe := d.pipe.map fun p => p.close.release .engine }

/-- The device after it was told to disconnect. -/
def disconnect (d : Device) : Device := { d with halted := true }

/-- The device after a halt, if there is one. -/
def halt (d : Device) : Option Halt → Device
  | none => d
  | some .stop => d.stop
  | some .disconnect => d.disconnect

/-- Makes one call, and takes the halt that it answers. -/
def ring {σ : Type} (call : Call → σ → Option Halt × σ) (x : Device × σ) (c : Call) :
    Device × σ :=
  let (h, s) := call c x.2
  (x.1.halt h, s)

/-- The device cannot start from where it is. -/
def startFault (d : Device) : Fault :=
  .internal (d.name ++ " cannot start from state " ++ d.stage.name)

/-- What is called before a device runs. -/
def startCalls (ds : List Directive) : List Call :=
  .prepare :: (announcements (Settings.ofDirectives ds)).map .notice

/-- The device and its surroundings after these calls. -/
def announced {σ : Type} (call : Call → σ → Option Halt × σ) (ds : List Directive) (d : Device)
    (s : σ) : Device × σ :=
  (startCalls ds).foldl (ring call) ({ d with settings := Settings.ofDirectives ds }, s)

/-- The device with an open pipe, as it runs. -/
def running (d : Device) : Device :=
  { d with stage := .started, pipe := some ((Pipe.create d.blocking).acquire .engine) }

/-- Starts a device: the settings are announced, the pipe is opened, and the outbound loop begins
to run. A device that was halted meanwhile does not run. -/
def start {σ : Type} (call : Call → σ → Option Halt × σ) (ds : List Directive) (d : Device)
    (s : σ) : Except Fault Unit × Device × σ :=
  if d.stage ≠ .created || d.halted then (.error d.startFault, d, s)
  else
    let (d, s) := announced call ds d s
    if d.halted then (.error .pipeClosed, d, s)
    else (.ok (), ring call (d.running, s) .connected)

/-- Starts a device for its owner, who is told about a failure. -/
def launch {σ : Type} (call : Call → σ → Option Halt × σ) (ds : List Directive) (d : Device)
    (s : σ) : Device × σ :=
  match d.start call ds s with
  | (.ok _, x) => x
  | (.error f, x) => ring call x (.failed f.message)

/-- Sends a packet to the application. The answer tells whether it was sent; a packet that did
not get into the open pipe is counted as dropped. -/
def deliver (d : Device) (p : Packet) : Bool × Device :=
  if d.halted then (false, d)
  else match d.openPipe with
    | none => (false, d)
    | some pipe =>
      match pipe.send .engine p with
      | (.ok n, pipe) => (true, { d with pipe := some pipe, inbound := d.inbound.count n })
      | (.error _, pipe) => (false, { d with pipe := some pipe, inbound := d.inbound.drop })

/-- The device keeps the application's end, or why there is none. -/
def appEnd (d : Device) : Except Fault Pipe :=
  match d.openPipe with
  | some p => .ok p
  | none => .error .notReady

/-- The device after somebody took a handle on the application's end. -/
def acquireApp (d : Device) : Device := { d with pipe := d.pipe.map (Pipe.acquire · .app) }

/-- The device after somebody gave a handle on the application's end back. -/
def releaseApp (d : Device) : Device := { d with pipe := d.pipe.map (Pipe.release · .app) }

/-- Whether there is a descriptor of the application's end to hand out. -/
def descriptor (d : Device) : Except Fault Unit :=
  if d.stage ≠ .started then .error .notReady else d.appEnd.map fun _ => ()

/-- One turn of the outbound loop: one packet is taken from the pipe and handed to the owner, in
a frame. Empty packets are passed over, and larger ones than there is room for are dropped. -/
def poll {σ : Type} (intake : Frame → σ → Bool × σ) (x : Device × σ) : Device × σ :=
  let (d, s) := x
  match d.pipe with
  | none => x
  | some pipe =>
    match pipe.receive .engine readRoom with
    | (.ok packet, pipe) =>
      let d := { d with pipe := some pipe }
      if packet.isEmpty then (d, s)
      else
        let (returned, s) := intake (Frame.ofPacket packet) s
        ({ d with
          outbound := if returned then d.outbound.count packet.length else d.outbound.drop }, s)
    | (.error (.truncated _ _), pipe) =>
      ({ d with pipe := some pipe, outbound := d.outbound.drop }, s)
    | (.error _, pipe) => ({ d with pipe := some pipe }, s)

/-- The outbound loop ends with its next turn: there is no pipe, or the application's end of it is
gone. -/
def endsLoop (d : Device) : Bool :=
  match d.pipe with
  | none => true
  | some pipe =>
    match pipe.receive .engine readRoom with
    | (.ok packet, pipe) => packet.isEmpty && pipe.peerClosed .engine
    | (.error .connectionReset, _) => true
    | (.error _, _) => false

/-- So many turns of the outbound loop, if it does not end before. -/
def pollTimes {σ : Type} (intake : Frame → σ → Bool × σ) : Nat → Device × σ → Device × σ
  | 0, x => x
  | n + 1, x =>
    if x.1.endsLoop then poll intake x else pollTimes intake n (poll intake x)

/-- How many packets wait for the outbound loop. -/
def waiting (d : Device) : Nat := (d.pipe.map fun p => p.engine.inbox.length).getD 0

/-- Runs the outbound loop until nothing waits. It runs while the device is started. -/
def pump {σ : Type} (intake : Frame → σ → Bool × σ) (x : Device × σ) : Device × σ :=
  if x.1.stage = .started then pollTimes intake x.1.waiting x else x

/-- Sends a packet from the application's end. -/
def appSend (d : Device) (p : Packet) : Except Fault (Except IoFault Nat × Device) := do
  let pipe ← d.appEnd
  let (r, pipe) := pipe.send .app p
  return (r, { d with pipe := some pipe })

/-- Receives a packet at the application's end. -/
def appReceive (d : Device) (room : Nat) : Except Fault (Except IoFault Packet × Device) := do
  let pipe ← d.appEnd
  let (r, pipe) := pipe.receive .app room
  return (r, { d with pipe := some pipe })

theorem address4?_of_settings {d : Device} {ds : List Directive}
    (h : d.settings = Settings.ofDirectives ds) :
    d.address4?.map .v4 = (Settings.ofDirectives ds).ipv4.map (·.address) := by
  rw [address4?, h]
  cases hr : (Settings.ofDirectives ds).ipv4 with
  | none => rfl
  | some r =>
    obtain ⟨a, ha⟩ := Settings.v4_of_ofDirectives hr
    simp [ha, Address.v4?]

theorem address6?_of_settings {d : Device} {ds : List Directive}
    (h : d.settings = Settings.ofDirectives ds) :
    d.address6?.map .v6 = (Settings.ofDirectives ds).ipv6.map (·.address) := by
  rw [address6?, h]
  cases hr : (Settings.ofDirectives ds).ipv6 with
  | none => rfl
  | some r =>
    obtain ⟨a, ha⟩ := Settings.v6_of_ofDirectives hr
    simp [ha, Address.v6?]

@[simp] theorem stage_stop (d : Device) : d.stop.stage = .stopped := by
  unfold stop
  split
  · assumption
  · rfl

theorem openPipe_eq_some_iff {d : Device} {p : Pipe} :
    d.openPipe = some p ↔ d.pipe = some p ∧ p.isOpen := Option.filter_eq_some_iff

theorem appEnd_eq_ok_iff {d : Device} {p : Pipe} : d.appEnd = .ok p ↔ d.openPipe = some p := by
  rw [appEnd]
  cases d.openPipe <;> simp

theorem appSend_of_appEnd {d : Device} {p : Pipe} (h : d.appEnd = .ok p) (q : Packet) :
    d.appSend q = .ok ((p.send .app q).1, { d with pipe := some (p.send .app q).2 }) := by
  rw [appSend, h]
  rfl

theorem appReceive_of_appEnd {d : Device} {p : Pipe} (h : d.appEnd = .ok p) (room : Nat) :
    d.appReceive room =
      .ok ((p.receive .app room).1, { d with pipe := some (p.receive .app room).2 }) := by
  rw [appReceive, h]
  rfl

section Keeps

variable {σ : Type} {call : Call → σ → Option Halt × σ} {I : σ → Prop}

theorem ring_keeps {c : Call} (hc : ∀ s, I s → I (call c s).2) {x : Device × σ} (hx : I x.2) :
    I (ring call x c).2 := hc x.2 hx

theorem foldl_ring_keeps {cs : List Call} (hc : ∀ c ∈ cs, ∀ s, I s → I (call c s).2)
    {x : Device × σ} (hx : I x.2) : I (cs.foldl (ring call) x).2 := by
  induction cs generalizing x with
  | nil => exact hx
  | cons c cs ih =>
    refine ih (fun b hb => hc b (List.mem_cons_of_mem c hb)) ?_
    exact ring_keeps (hc c List.mem_cons_self) hx

/-- A device that was not started yet runs after the start, unless it was halted meanwhile. -/
theorem launch_of_created {d : Device} (hd : d.stage = .created) (hh : d.halted = false)
    (ds : List Directive) (s : σ) : d.launch call ds s =
      if (announced call ds d s).1.halted then
        ring call (announced call ds d s) (.failed Fault.pipeClosed.message)
      else ring call ((announced call ds d s).1.running, (announced call ds d s).2) .connected := by
  rw [launch, start, if_neg (by simp [hd, hh])]
  cases h : (announced call ds d s).1.halted <;> simp [h]

/-- What every call keeps, the start of a device keeps. -/
theorem launch_keeps (hc : ∀ c s, I s → I (call c s).2) (ds : List Directive) (d : Device) {s : σ}
    (hs : I s) : I (d.launch call ds s).2 := by
  by_cases hd : d.stage = .created ∧ d.halted = false
  · have ha : I (announced call ds d s).2 := foldl_ring_keeps (fun c _ => hc c) hs
    rw [launch_of_created hd.1 hd.2]
    split
    · exact ring_keeps (hc _) ha
    · exact ring_keeps (hc _) ha
  · have hn : (d.stage ≠ .created || d.halted) = true := by
      by_cases h : d.stage = .created
      · simpa [h] using fun hh => hd ⟨h, hh⟩
      · simp [h]
    have hl : d.launch call ds s = ring call (d, s) (.failed d.startFault.message) := by
      rw [launch, start, if_pos hn]
    rw [hl]
    exact ring_keeps (hc _) hs

end Keeps

end Device

end TunnelRelay.Tun
