import TunnelRelay.Packet.Frame

/-!
# Packet pipes

A pipe carries whole packets between its two ends, in both directions and in order: one for the
engine, one for the application. The pipe holds both ends until it is closed; handles that were
taken before keep working, and an end is gone when neither the pipe nor any handle holds it.

## Main definitions

- `Packet.Pipe` — a pipe with the packets on their way
- `Packet.Pipe.send`, `Packet.Pipe.receive` — one packet in or out at an end
- `Packet.Pipe.acquire`, `Packet.Pipe.release`, `Packet.Pipe.close` — who holds an end
- `Packet.IoFault` — why a packet did not get through

## Design notes

The inbox of an end holds what the other end has sent. An end that goes with packets in its inbox
leaves a reset at the other end, which is reported once, before anything else. The room for
packets on their way is bounded: each is charged its length and a fixed overhead.
-/

namespace TunnelRelay.Packet

/-- The two ends of a pipe. -/
inductive End where
  | engine
  | app
  deriving DecidableEq, Repr

/-- The other end. -/
def End.peer : End → End
  | engine => app
  | app => engine

@[simp] theorem End.peer_peer (e : End) : e.peer.peer = e := by cases e <;> rfl

@[simp] theorem End.peer_ne (e : End) : e.peer ≠ e := by cases e <;> simp [peer]

/-- Why a packet did not get through. -/
inductive IoFault where
  /-- There is nothing to read, or no room to write, and the end does not wait. -/
  | wouldBlock
  /-- The end would wait, for ever if nothing else happens. -/
  | blocks
  /-- The other end is gone. -/
  | brokenPipe
  /-- The other end went before it had read everything. -/
  | connectionReset
  /-- The packet is larger than any packet may be. -/
  | messageTooLong
  /-- The packet was larger than the reader's room; it is lost. -/
  | truncated (size room : Nat)
  deriving DecidableEq, Repr

/-- The text of a truncation. -/
def truncationText (size room : Nat) : String :=
  "packet of " ++ toString size ++ " bytes truncated to " ++ toString room

/-- What belongs to one end. -/
structure Side where
  /-- Packets that wait to be read at this end, the oldest first. -/
  inbox : List Packet := []
  /-- Handles on this end, the pipe's own apart. -/
  handles : Nat := 0
  /-- An operation fails instead of waiting. -/
  nonblocking : Bool := false
  /-- The other end went before it had read everything, and this was not reported yet. -/
  reset : Bool := false
  deriving DecidableEq, Repr

/-- A pipe between an engine and an application. -/
structure Pipe where
  /-- The pipe was not closed, so it holds both ends. -/
  isOpen : Bool := true
  /-- The engine's end. -/
  engine : Side
  /-- The application's end. -/
  app : Side
  deriving DecidableEq, Repr

namespace Pipe

/-- Bytes that may be on their way from one end before it has to wait. -/
def sendBuffer : Nat := 212992

/-- What a packet is charged on top of its length. -/
def packetOverhead : Nat := 768

/-- The largest packet. -/
def largestPacket : Nat := sendBuffer - 32

/-- What packets on their way are charged. -/
def charge : List Packet → Nat
  | [] => 0
  | p :: ps => p.length + packetOverhead + charge ps

/-- A new pipe. The engine's end never waits; the application's end waits if it is told to. -/
def create (blocking : Bool) : Pipe where
  engine := { nonblocking := true }
  app := { nonblocking := !blocking }

/-- What belongs to an end. -/
def side (p : Pipe) : End → Side
  | .engine => p.engine
  | .app => p.app

/-- The pipe with one end changed. -/
def update (p : Pipe) (e : End) (f : Side → Side) : Pipe :=
  match e with
  | .engine => { p with engine := f p.engine }
  | .app => { p with app := f p.app }

/-- Somebody holds the end. -/
def isLive (p : Pipe) (e : End) : Bool := p.isOpen || 0 < (p.side e).handles

/-- The other end is gone. -/
def peerClosed (p : Pipe) (e : End) : Bool := !p.isLive e.peer

/-- Takes a handle on an end. -/
def acquire (p : Pipe) (e : End) : Pipe :=
  p.update e fun s => { s with handles := s.handles + 1 }

/-- What happens when nobody holds an end any more: its inbox is lost, and if it was not empty
the other end is reset. -/
def settle (p : Pipe) (e : End) : Pipe :=
  if p.isLive e then p
  else
    let lost := !(p.side e).inbox.isEmpty
    (p.update e fun s => { s with inbox := [] }).update e.peer
      fun s => { s with reset := s.reset || lost }

/-- Gives a handle back. -/
def release (p : Pipe) (e : End) : Pipe :=
  (p.update e fun s => { s with handles := s.handles - 1 }).settle e

/-- Gives up both ends. Closing a closed pipe changes nothing. -/
def close (p : Pipe) : Pipe :=
  if p.isOpen then ({ p with isOpen := false }.settle .engine).settle .app else p

/-- Sends a packet from an end. The answer is the number of bytes. -/
def send (p : Pipe) (e : End) (packet : Packet) : Except IoFault Nat × Pipe :=
  if (p.side e).reset then
    (.error .connectionReset, p.update e fun s => { s with reset := false })
  else if largestPacket < packet.length then (.error .messageTooLong, p)
  else if p.peerClosed e then (.error .brokenPipe, p)
  else if sendBuffer ≤ charge (p.side e.peer).inbox then
    (.error (if (p.side e).nonblocking then .wouldBlock else .blocks), p)
  else (.ok packet.length, p.update e.peer fun s => { s with inbox := s.inbox ++ [packet] })

/-- Receives a packet at an end, where the reader has room for `room` bytes. A larger packet is
lost. At the end of the stream the packet is empty. -/
def receive (p : Pipe) (e : End) (room : Nat) : Except IoFault Packet × Pipe :=
  if (p.side e).reset then
    (.error .connectionReset, p.update e fun s => { s with reset := false })
  else match (p.side e).inbox with
    | packet :: rest =>
      let p := p.update e fun s => { s with inbox := rest }
      if packet.length ≤ room then (.ok packet, p) else (.error (.truncated packet.length room), p)
    | [] =>
      if p.peerClosed e then (.ok [], p)
      else (.error (if (p.side e).nonblocking then .wouldBlock else .blocks), p)

/-- Tells an end whether to wait. -/
def setNonblocking (p : Pipe) (e : End) (on : Bool) : Pipe :=
  p.update e fun s => { s with nonblocking := on }

@[simp] theorem side_update_self (p : Pipe) (e : End) (f : Side → Side) :
    (p.update e f).side e = f (p.side e) := by cases e <;> rfl

@[simp] theorem side_update_peer (p : Pipe) (e : End) (f : Side → Side) :
    (p.update e f).side e.peer = p.side e.peer := by cases e <;> rfl

@[simp] theorem side_update_of_peer (p : Pipe) (e : End) (f : Side → Side) :
    (p.update e.peer f).side e = p.side e := by cases e <;> rfl

@[simp] theorem isOpen_update (p : Pipe) (e : End) (f : Side → Side) :
    (p.update e f).isOpen = p.isOpen := by cases e <;> rfl

@[simp] theorem isOpen_settle (p : Pipe) (e : End) : (p.settle e).isOpen = p.isOpen := by
  unfold settle
  split <;> simp

@[simp] theorem isOpen_release (p : Pipe) (e : End) : (p.release e).isOpen = p.isOpen := by
  rw [release, isOpen_settle, isOpen_update]

@[simp] theorem isOpen_close (p : Pipe) : p.close.isOpen = false := by
  unfold close
  split
  · simp
  · next h => simpa using h

@[simp] theorem isOpen_send (p : Pipe) (e : End) (q : Packet) :
    (p.send e q).2.isOpen = p.isOpen := by
  unfold send
  split
  · simp
  · split
    · rfl
    · split
      · rfl
      · split <;> simp

@[simp] theorem isOpen_receive (p : Pipe) (e : End) (room : Nat) :
    (p.receive e room).2.isOpen = p.isOpen := by
  unfold receive
  split
  · simp
  · split
    · dsimp only
      split <;> simp
    · split <;> rfl

theorem close_close (p : Pipe) : p.close.close = p.close := by
  rw [close, if_neg (by simp)]

theorem peerClosed_of_isOpen {p : Pipe} (h : p.isOpen) (e : End) : p.peerClosed e = false := by
  simp [peerClosed, isLive, h]

/-- A packet that is not too large joins the other end's inbox, if there is room. -/
theorem send_cases {p : Pipe} {e : End} (h : p.isOpen) (hr : (p.side e).reset = false)
    (q : Packet) : (largestPacket < q.length ∧ p.send e q = (.error .messageTooLong, p)) ∨
      (sendBuffer ≤ charge (p.side e.peer).inbox ∧ ∃ f, p.send e q = (.error f, p)) ∨
      (q.length ≤ largestPacket ∧
        p.send e q = (.ok q.length, p.update e.peer fun s => { s with inbox := s.inbox ++ [q] })) := by
  rw [send, if_neg (by simp [hr])]
  by_cases hq : largestPacket < q.length
  · exact .inl ⟨hq, if_pos hq⟩
  · rw [if_neg hq, if_neg (by simp [peerClosed_of_isOpen h])]
    by_cases hroom : sendBuffer ≤ charge (p.side e.peer).inbox
    · exact .inr (.inl ⟨hroom, _, if_pos hroom⟩)
    · exact .inr (.inr ⟨Nat.le_of_not_lt hq, if_neg hroom⟩)

theorem receive_of_empty {p : Pipe} {e : End} (h : p.isOpen) (hr : (p.side e).reset = false)
    (hi : (p.side e).inbox = []) (room : Nat) :
    p.receive e room = (.error (if (p.side e).nonblocking then .wouldBlock else .blocks), p) := by
  simp only [receive, hr, hi, peerClosed_of_isOpen h, if_false, Bool.false_eq_true]

/-- A read takes the oldest packet. -/
theorem receive_of_cons {p : Pipe} {e : End} (hr : (p.side e).reset = false) {q : Packet}
    {rest : List Packet} (hi : (p.side e).inbox = q :: rest) (room : Nat) :
    p.receive e room =
      (if q.length ≤ room then .ok q else .error (.truncated q.length room),
        p.update e fun s => { s with inbox := rest }) := by
  by_cases hq : q.length ≤ room <;> simp [receive, hr, hi, hq]

end Pipe

end TunnelRelay.Packet
