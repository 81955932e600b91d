import TunnelRelay.Fault
import TunnelRelay.Packet.Pipe

/-!
# A bench for pipes

On a bench, one pipe is tried out with handles under names. A handle is an end as the pipe gives it
out, or a duplicate of one; whatever it is, it keeps its end alive.

## Main definitions

- `Packet.Bench` — a pipe and its handles
- `Packet.Bench.take`, `Packet.Bench.duplicate`, `Packet.Bench.copy` — new handles
- `Packet.Bench.drop` — a handle that is given back
-/

namespace TunnelRelay.Packet

/-- A handle of an end. -/
structure Handle where
  /-- The end. -/
  side : End
  /-- It is the end as the pipe gives it out. -/
  proper : Bool
  deriving DecidableEq, Repr

/-- A pipe with handles under names. -/
structure Bench where
  /-- The pipe. -/
  pipe : Pipe
  /-- The handles. -/
  handles : List (String × Handle) := []

namespace Bench

/-- The handle of a name. -/
def handle? (b : Bench) (name : String) : Option Handle := b.handles.lookup name

/-- The handle of a name is given back. The answer tells whether there was one. -/
def drop (b : Bench) (name : String) : Bool × Bench :=
  match b.handle? name with
  | some h =>
    (true, { pipe := b.pipe.release h.side, handles := b.handles.filter (·.1 != name) })
  | none => (false, b)

/-- A new handle under a name. A handle of that name is given back afterwards. -/
def put (b : Bench) (name : String) (h : Handle) : Bench :=
  let b := ({ b with pipe := b.pipe.acquire h.side }.drop name).2
  { b with handles := (name, h) :: b.handles }

/-- A new handle from the pipe, as long as it is open. -/
def give (b : Bench) (name : String) (h : Handle) : Except Fault Bench :=
  if b.pipe.isOpen then .ok (b.put name h) else .error .pipeClosed

/-- A handle on an end. -/
def take (b : Bench) (name : String) (e : End) : Except Fault Bench := b.give name ⟨e, true⟩

/-- A duplicate of the application's end. -/
def duplicate (b : Bench) (name : String) : Except Fault Bench := b.give name ⟨.app, false⟩

/-- A duplicate of the handle of another name, if there is one. -/
def copy (b : Bench) (source name : String) : Option Bench :=
  (b.handle? source).map fun h => b.put name ⟨h.side, false⟩

/-- The pipe is open and gives out the application's end; `some` tells whether the handle of a
name, if it is an end proper, is this one. -/
def isAppEnd (b : Bench) (name : String) : Except Fault (Option Bool) :=
  if b.pipe.isOpen then
    .ok (((b.handle? name).filter Handle.proper).map fun h => h.side = .app)
  else .error .pipeClosed

end Bench

end TunnelRelay.Packet
