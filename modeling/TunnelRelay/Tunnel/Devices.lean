import TunnelRelay.Tunnel.Control

/-!
# Devices of a tunnel

Engines ask for devices and start them. While a device starts, its settings reach the session and
the application, which may act at once.

## Main definitions

- `Tunnel.tell`, `Tunnel.announce` — something about the settings, on its way to the application
- `Tunnel.bringUp` — the device of a loopback engine
- `Tunnel.build`, `Tunnel.launch` — devices of anybody else
-/

namespace TunnelRelay.Tunnel

open Tun (Call Device Halt Notice)

/-- Stops the current device. The one at place `n` is starting and is halted by the answer. -/
def stopCurrent (n : Nat) (t : Tunnel) : Option Halt × Tunnel :=
  match t.bay.current? with
  | none => (none, t)
  | some m =>
    if m = n then (some .stop, t) else (none, { t with bay := t.bay.modify m Device.stop })

/-- What the application does while the device at place `n` starts. -/
def react (n : Nat) (t : Tunnel) : Option Reaction → Option Halt × Tunnel
  | none => (none, t)
  | some .stopDevice => t.stopCurrent n
  | some .disconnect => (none, t.disconnect)

/-- The session takes the settings as a whole. -/
def store (t : Tunnel) : Notice → Tunnel
  | .complete s => t.mapSession (·.storeSettings s)
  | _ => t

/-- A device announces something. It reaches the session and the application as long as the
session takes part. The answer tells whether the application was called. -/
def tell (t : Tunnel) (x : Notice) : Bool × Tunnel :=
  if t.isLive then
    let t := t.store x
    if t.application.observes then (true, t.note (.called (.notice x))) else (false, t)
  else (false, t)

/-- The device at place `n` announces something, and the application may act at once. -/
def announce (n : Nat) (x : Notice) (t : Tunnel) : Option Halt × Tunnel :=
  match t.tell x with
  | (true, t) => t.react n (t.application.reaction x)
  | (false, t) => (none, t)

/-- A call of the device at place `n`, whose owner is told. -/
def call (n : Nat) : Call → Tunnel → Option Halt × Tunnel
  | .notice x, t => t.announce n x
  | c, t => (none, t.note (.called c))

/-- A call of the device at place `n`, whose owner waits for the first report. -/
def callOwn (n : Nat) :
    Call → Option (Except String Unit) × Tunnel → Option Halt × Option (Except String Unit) × Tunnel
  | .notice x, (r, t) => let (h, t) := t.announce n x; (h, r, t)
  | c, (r, t) => (none, Tun.firstReport c r, t)

/-- Builds and starts the device of a loopback engine. -/
def bringUp : Engine.BringUp Tunnel := fun ds t =>
  let n := t.bay.built
  let (d, report, t) :=
    t.bay.fresh.launch (callOwn n) ds (none, { t with bay := t.bay.build, own := some n })
  let t := { t with bay := t.bay.modify n fun _ => d }
  match report with
  | some (.error text) => (.error text, t)
  | _ => (.ok d.name, t)

/-- Builds a device. The answer is its place. -/
def build (t : Tunnel) : Nat × Tunnel := (t.bay.built, { t with bay := t.bay.build })

/-- Starts the device at a place for its owner. -/
def launch (t : Tunnel) (n : Nat) (d : Device) (ds : List Directive) : Tunnel :=
  let (d, t) := d.launch (call n) ds t
  { t with bay := t.bay.modify n fun _ => d }

/-- Changes the device at a place. -/
def modify (t : Tunnel) (n : Nat) (f : Device → Device) : Tunnel :=
  { t with bay := t.bay.modify n f }

/-- The device at a place is owned no more. -/
def discard (t : Tunnel) (n : Nat) : Tunnel := { t with bay := t.bay.discard n }

@[simp] theorem gone_store (t : Tunnel) (x : Notice) : (t.store x).gone = t.gone := by
  cases x <;> rfl

@[simp] theorem gone_tell (t : Tunnel) (x : Notice) : (t.tell x).2.gone = t.gone := by
  cases h : t.isLive <;> cases k : (t.store x).application.observes <;> simp [tell, h, k]

theorem session_tell (t : Tunnel) (x : Notice) :
    (t.tell x).2.session = if t.isLive then (t.store x).session else t.session := by
  cases h : t.isLive <;> cases k : (t.store x).application.observes <;> simp [tell, h, k]

theorem tell_of_not_live {t : Tunnel} (h : t.isLive = false) (x : Notice) :
    t.tell x = (false, t) := by simp [tell, h]

/-- What is announced reaches the application, which may act at once, or it does not. -/
theorem announce_cases (t : Tunnel) (n : Nat) (x : Notice) :
    t.announce n x = (none, (t.tell x).2) ∨
      t.isLive ∧ t.announce n x = (t.tell x).2.react n ((t.tell x).2.application.reaction x) := by
  cases h : t.isLive with
  | false => exact .inl (by simp [announce, tell_of_not_live h])
  | true =>
    obtain ⟨told, u, hu⟩ : ∃ told u, t.tell x = (told, u) := ⟨_, _, rfl⟩
    cases told with
    | false => exact .inl (by simp only [announce, hu])
    | true => exact .inr ⟨rfl, by simp only [announce, hu]⟩

/-- While the device at place `n` starts, the application leaves the tunnel alone, stops another
device, or stops the connection. -/
theorem react_cases (t : Tunnel) (n : Nat) (r : Option Reaction) :
    (t.react n r).2 = t ∨
      (∃ m ≠ n, (t.react n r).2 = { t with bay := t.bay.modify m Device.stop }) ∨
        (t.react n r).2 = t.disconnect := by
  cases r with
  | none => exact .inl rfl
  | some r =>
    cases r with
    | stopDevice =>
      simp only [react, stopCurrent]
      split
      · exact .inl rfl
      · split
        · exact .inl rfl
        · next m _ hm => exact .inr (.inl ⟨m, hm, rfl⟩)
    | disconnect => exact .inr (.inr rfl)

theorem bringUp_of_launch {t u : Tunnel} {ds : List Directive} {d : Device}
    {r : Option (Except String Unit)}
    (h : t.bay.fresh.launch (callOwn t.bay.built) ds
      (none, { t with bay := t.bay.build, own := some t.bay.built }) = (d, r, u)) :
    bringUp ds t = (match r with | some (.error text) => .error text | _ => .ok d.name,
      { u with bay := u.bay.modify t.bay.built fun _ => d }) := by
  simp only [bringUp, h]
  cases r with
  | none => rfl
  | some r => cases r <;> rfl

end TunnelRelay.Tunnel
