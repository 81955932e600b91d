import TunnelRelay.Fleet.Directory
import TunnelRelay.Tunnel.Attempt

/-!
# Fleets

A fleet is all tunnels of one application, with a directory of those that are found by name. A
session lives as long as it is held: by the application, by the directory, or by a callback that
did not return.

## Main definitions

- `Fleet` — the tunnels and the directory
- `Fleet.add`, `Fleet.drop` — the application takes and gives up a tunnel
- `Fleet.insert`, `Fleet.remove` — the directory does
- `Fleet.enlist`, `Fleet.dismiss` — a tunnel that only the directory holds
- `Fleet.reconnectAll`, `Fleet.shutdown` — operations on all tunnels in the directory

## Design notes

A tunnel is known by its place in the order in which the tunnels were made. It keeps its place
for ever, also when its session is gone: its engine and its devices may still be around.
-/

namespace TunnelRelay

/-- A tunnel of a fleet. -/
structure Fleet.Member where
  /-- The tunnel. -/
  tunnel : Tunnel
  /-- The application holds its session. -/
  held : Bool := true

/-- The tunnels of an application. -/
structure Fleet where
  /-- All tunnels, the oldest first. -/
  members : List Fleet.Member := []
  /-- The places of the tunnels that are found by name. -/
  directory : Directory Nat := {}

namespace Fleet

/-- The tunnel at a place. -/
def tunnel? (f : Fleet) (n : Nat) : Option Tunnel := f.members[n]?.map Member.tunnel

/-- The fleet with the tunnel at a place changed. -/
def modify (f : Fleet) (n : Nat) (g : Tunnel → Tunnel) : Fleet :=
  { f with members := f.members.modify n fun m => { m with tunnel := g m.tunnel } }

/-- The application or the directory holds the tunnel at a place. -/
def isHeld (f : Fleet) (n : Nat) : Bool :=
  f.members[n]?.any Member.held || f.directory.values.contains n

/-- A callback that did not return holds the tunnel at a place. -/
def isInUse (f : Fleet) (n : Nat) : Bool := (f.tunnel? n).any (·.engine.isAsking)

/-- Releases the tunnel at a place, unless somebody holds it. -/
def collect (f : Fleet) (n : Nat) : Fleet :=
  if f.isHeld n || f.isInUse n then f else f.modify n .abandon

/-- The fleet with one more tunnel, and its place. -/
def add (f : Fleet) (t : Tunnel) : Nat × Fleet :=
  (f.members.length, { f with members := f.members ++ [{ tunnel := t }] })

/-- The application gives up the tunnel at a place. -/
def drop (f : Fleet) (n : Nat) : Fleet :=
  { f with members := f.members.modify n fun m => { m with held := false } }.collect n

/-- The tunnel at a place can be found by its name. -/
def insert (f : Fleet) (n : Nat) (t : Tunnel) : Except Fault Fleet :=
  (f.directory.insert t.id n).map fun d => { f with directory := d }

/-- The fleet with one more tunnel that only the directory holds, and its place. -/
def enlist (f : Fleet) (t : Tunnel) : Except Fault (Nat × Fleet) :=
  let n := f.members.length
  (f.directory.insert t.id n).map fun d =>
    (n, { members := f.members ++ [{ tunnel := t, held := false }], directory := d })

/-- The place of the tunnel with a name. -/
def place? (f : Fleet) (name : String) : Option Nat := f.directory.find? name

/-- The tunnel with a name. -/
def named? (f : Fleet) (name : String) : Option Tunnel := (f.place? name).bind f.tunnel?

/-- The tunnel with a name is not found any more. The answer is its place. -/
def remove (f : Fleet) (name : String) : Option Nat × Fleet :=
  match f.place? name with
  | none => (none, f)
  | some n => (some n, { f with directory := f.directory.erase name }.collect n)

/-- Releases the tunnel with a name, which is not found any more. -/
def dismiss (f : Fleet) (name : String) : Fleet :=
  match f.place? name with
  | none => f
  | some n => ({ f with directory := f.directory.erase name }.modify n .destroy).collect n

/-- Whether there is a descriptor of the application's end of the tunnel with a name. -/
def descriptor (f : Fleet) (name : String) : Except Fault Unit :=
  match f.named? name with
  | none => .error (.unknownTunnel name)
  | some t => t.bay.descriptor.map fun _ => ()

/-- Hands out a duplicate of the application's end of the tunnel with a name. The answer has the
place of its device. -/
def takeDescriptor (f : Fleet) (name : String) : Except Fault (Nat × Fleet) :=
  match f.place? name, f.named? name with
  | some m, some t =>
    t.bay.takeDescriptor.map fun x => (x.1, f.modify m fun u => { u with bay := x.2 })
  | _, _ => .error (.unknownTunnel name)

/-- Asks the tunnel at a place for a restart of its transport, and counts it if it agreed. -/
def reconnectOne (x : Nat × Fleet) (n : Nat) : Nat × Fleet :=
  match x.2.tunnel? n with
  | none => x
  | some t =>
    let (r, t) := t.reconnect
    (match r with
      | .ok true => x.1 + 1
      | _ => x.1, x.2.modify n fun _ => t)

/-- Asks every tunnel in the directory for a restart of its transport. The answer tells how many
agreed. -/
def reconnectAll (f : Fleet) : Nat × Fleet := f.directory.values.foldl reconnectOne (0, f)

/-- Releases every tunnel in the directory, and empties it. -/
def shutdown (f : Fleet) : Fleet :=
  let ns := f.directory.values
  let f := ns.foldl (·.modify · .destroy) { f with directory := {} }
  ns.foldl collect f

/-- Opens the latch of the application for the tunnel at a place. -/
def openLatch (f : Fleet) (n : Nat) : Fleet := f.modify n (·.openLatch (f.isHeld n))

theorem tunnel?_modify_self (f : Fleet) (n : Nat) (g : Tunnel → Tunnel) :
    (f.modify n g).tunnel? n = (f.tunnel? n).map g := by
  simp [tunnel?, modify, Function.comp_def]

theorem tunnel?_modify_of_ne (f : Fleet) {n m : Nat} (g : Tunnel → Tunnel) (h : n ≠ m) :
    (f.modify n g).tunnel? m = f.tunnel? m := by
  simp [tunnel?, modify, h]

end Fleet

end TunnelRelay
