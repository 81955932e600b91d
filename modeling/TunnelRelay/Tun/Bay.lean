import TunnelRelay.Tun.Device

/-!
# Device bays

A bay builds the devices of one tunnel, one for each connection attempt. The engine owns what it
gets; the bay only looks up the device that it built last, as long as somebody owns it.

## Main definitions

- `Tun.Bay` — the devices that were built, in order
- `Tun.Bay.build`, `Tun.Bay.discard` — a new device, and the end of a device's ownership
- `Tun.Bay.current?`, `Tun.Bay.descriptor` — the device that counts, and its application's end
- `Tun.Bay.takeDescriptor` — a duplicate of that end

## Design notes

`Tun.Bay.built` is a natural number. A counter of 32 bits agrees with it until 2 ^ 32 devices were
built.
-/

namespace TunnelRelay.Tun

/-- A device that a bay has built. -/
structure Berth where
  /-- The device. -/
  device : Device
  /-- Somebody owns the device. -/
  owned : Bool := true
  deriving DecidableEq, Repr

/-- The devices of one tunnel. A device is known by its place in the order of building. -/
structure Bay where
  /-- The tunnel. -/
  id : String
  /-- The application's end of a device waits for the next packet. -/
  blocking : Bool
  /-- What was built, the oldest first. -/
  berths : List Berth := []
  deriving DecidableEq, Repr

/-- Devices carry packets, not frames of a link layer. -/
def linkLayerSupported : Bool := false

/-- Devices know one format of data packets only. -/
def epochSupported : Bool := false

namespace Bay

/-- How many devices were built. -/
def built (b : Bay) : Nat := b.berths.length

/-- A device of this tunnel as it is built. -/
def fresh (b : Bay) : Device := { id := b.id, blocking := b.blocking }

/-- Builds a device. Its place is the number of those before. -/
def build (b : Bay) : Bay := { b with berths := b.berths ++ [{ device := b.fresh }] }

/-- The device at a place. -/
def device? (b : Bay) (n : Nat) : Option Device := b.berths[n]?.map Berth.device

/-- The bay with the device at a place changed. -/
def modify (b : Bay) (n : Nat) (f : Device → Device) : Bay :=
  { b with berths := b.berths.modify n fun x => { x with device := f x.device } }

/-- Nobody owns the device at a place any more, so it stops. -/
def discard (b : Bay) (n : Nat) : Bay :=
  { b with berths := b.berths.modify n fun x => { device := x.device.stop, owned := false } }

/-- The place of the device that was built last, if somebody owns it. -/
def current? (b : Bay) : Option Nat :=
  match b.berths.getLast? with
  | some x => if x.owned then some (b.built - 1) else none
  | none => none

/-- The device that was built last, if somebody owns it. -/
def currentDevice? (b : Bay) : Option Device := b.current?.bind b.device?

/-- The place of the device whose application's end is handed out. -/
def descriptor (b : Bay) : Except Fault Nat :=
  match b.current?, b.currentDevice? with
  | some n, some d => d.descriptor.map fun _ => n
  | _, _ => .error .notReady

/-- Hands out a duplicate of the application's end, which holds the end for whoever has it. The
answer has the device's place. -/
def takeDescriptor (b : Bay) : Except Fault (Nat × Bay) :=
  b.descriptor.map fun n => (n, b.modify n Device.acquireApp)

@[simp] theorem built_build (b : Bay) : b.build.built = b.built + 1 := by simp [built, build]

@[simp] theorem current?_build (b : Bay) : b.build.current? = some b.built := by
  simp [current?, build, built]

@[simp] theorem current?_modify (b : Bay) (n : Nat) (f : Device → Device) :
    (b.modify n f).current? = b.current? := by
  have h : (b.berths.modify n fun x => { x with device := f x.device }).getLast? =
      b.berths.getLast?.map fun x =>
        if n = b.berths.length - 1 then { x with device := f x.device } else x := by
    rw [List.getLast?_eq_getElem?, List.getElem?_modify, List.length_modify,
      ← List.getLast?_eq_getElem?]
    cases b.berths.getLast? <;> simp
  simp only [current?, modify, h, built, List.length_modify]
  cases b.berths.getLast? with
  | none => rfl
  | some x => by_cases hn : n = b.berths.length - 1 <;> simp [hn]

theorem device?_modify_self (b : Bay) (n : Nat) (f : Device → Device) :
    (b.modify n f).device? n = (b.device? n).map f := by
  simp [device?, modify, Function.comp_def]

theorem device?_build (b : Bay) : b.build.device? b.built = some b.fresh := by
  simp [device?, build, built]

end Bay

end TunnelRelay.Tun
