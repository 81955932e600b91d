/-!
# Frames

A frame holds one packet in a storage of fixed size, with free room on both sides, so that a
header can be put in front of the packet and a trailer behind it without moving the packet.

## Main definitions

- `Packet` — the bytes of a packet
- `Frame` — a storage with a window on the packet
- `Frame.front`, `Frame.payload`, `Frame.back` — the three parts of the storage
- `Frame.prepend`, `Frame.grow`, `Frame.append`, `Frame.advance`, `Frame.truncate` — moving the
  ends of the window
- `Frame.Shortage` — why an end could not be moved

## Design notes

The three parts are the view of a frame: what an operation does is said by what it does to them,
and the lemmas here say it. The ends of the window lie inside the storage by construction.
-/

namespace TunnelRelay

/-- The bytes of a packet. -/
abbrev Packet := List UInt8

/-- Bytes kept free in front of an outbound packet. -/
def defaultHeadroom : Nat := 256

/-- Bytes kept free behind an outbound packet. -/
def defaultTailroom : Nat := 128

/-- A packet in a storage of fixed size. -/
structure Frame where
  /-- All bytes, free ones included. -/
  storage : List UInt8
  /-- Where the packet begins. -/
  start : Nat
  /-- Where the packet ends. -/
  stop : Nat
  /-- The packet does not end before it begins. -/
  start_le : start ≤ stop
  /-- The packet ends inside the storage. -/
  stop_le : stop ≤ storage.length
  deriving DecidableEq

namespace Frame

/-- Why an end of the window could not be moved. -/
inductive Shortage where
  /-- Not enough room in front of the packet. -/
  | headroom (needed available : Nat)
  /-- Not enough room behind the packet. -/
  | tailroom (needed available : Nat)
  /-- The packet is too short. -/
  | payload (needed available : Nat)
  deriving DecidableEq, Repr

/-- The text of a shortage. -/
def Shortage.message : Shortage → String
  | headroom n a =>
    "not enough headroom: need " ++ toString n ++ ", have " ++ toString a
  | tailroom n a =>
    "not enough tailroom: need " ++ toString n ++ ", have " ++ toString a
  | payload n a =>
    "cannot consume " ++ toString n ++ " bytes from a " ++ toString a ++ " byte payload"

/-- The bytes in front of the packet. -/
def front (f : Frame) : List UInt8 := f.storage.take f.start

/-- The bytes of the packet. -/
def payload (f : Frame) : Packet := (f.storage.drop f.start).take (f.stop - f.start)

/-- The bytes behind the packet. -/
def back (f : Frame) : List UInt8 := f.storage.drop f.stop

/-- The length of the packet. -/
def size (f : Frame) : Nat := f.stop - f.start

/-- The packet has no bytes. -/
def isEmpty (f : Frame) : Bool := f.start == f.stop

/-- Free bytes in front of the packet. -/
def headroom (f : Frame) : Nat := f.start

/-- Free bytes behind the packet. -/
def tailroom (f : Frame) : Nat := f.storage.length - f.stop

/-- All bytes, free ones included. -/
def capacity (f : Frame) : Nat := f.storage.length

/-- The frame whose storage has these three parts. -/
def ofParts (front payload back : List UInt8) : Frame where
  storage := front ++ payload ++ back
  start := front.length
  stop := front.length + payload.length
  start_le := Nat.le_add_right _ _
  stop_le := by simp

/-- A packet with the given room on its sides. The room is clear. -/
def withMargins (p : Packet) (headroom tailroom : Nat) : Frame :=
  ofParts (List.replicate headroom 0) p (List.replicate tailroom 0)

/-- A packet with the room that outbound packets have. -/
def ofPacket (p : Packet) : Frame := withMargins p defaultHeadroom defaultTailroom

/-- Puts a header right in front of the packet. -/
def prepend (f : Frame) (header : List UInt8) : Except Shortage Frame :=
  if h : header.length ≤ f.start then
    .ok {
      storage := f.storage.take (f.start - header.length) ++ header ++ f.storage.drop f.start
      start := f.start - header.length
      stop := f.stop
      start_le := Nat.le_trans (Nat.sub_le _ _) f.start_le
      stop_le := by
        have := f.start_le
        have := f.stop_le
        simp only [List.length_append, List.length_take, List.length_drop]
        omega }
  else .error (.headroom header.length f.start)

/-- Moves the last `n` bytes in front of the packet into it, as they are. -/
def grow (f : Frame) (n : Nat) : Except Shortage Frame :=
  if n ≤ f.start then
    .ok { f with start := f.start - n, start_le := Nat.le_trans (Nat.sub_le _ _) f.start_le }
  else .error (.headroom n f.start)

/-- Puts a trailer right behind the packet. -/
def append (f : Frame) (trailer : List UInt8) : Except Shortage Frame :=
  if h : trailer.length ≤ f.tailroom then
    .ok {
      storage := f.storage.take f.stop ++ trailer ++ f.storage.drop (f.stop + trailer.length)
      start := f.start
      stop := f.stop + trailer.length
      start_le := Nat.le_trans f.start_le (Nat.le_add_right _ _)
      stop_le := by
        have := f.stop_le
        simp only [tailroom] at h
        simp only [List.length_append, List.length_take, List.length_drop]
        omega }
  else .error (.tailroom trailer.length f.tailroom)

/-- Leaves the first `n` bytes of the packet in front of it. -/
def advance (f : Frame) (n : Nat) : Except Shortage Frame :=
  if h : n ≤ f.size then
    .ok { f with
      start := f.start + n
      start_le := by
        have := f.start_le
        simp only [size] at h
        omega }
  else .error (.payload n f.size)

/-- Leaves what is beyond the first `n` bytes of the packet behind it. A shorter packet stays as
it is. -/
def truncate (f : Frame) (n : Nat) : Frame :=
  if h : n < f.size then
    { f with
      stop := f.start + n
      start_le := Nat.le_add_right _ _
      stop_le := by
        have := f.stop_le
        simp only [size] at h
        omega }
  else f

/-- Writes the packet anew, each byte from its place and its value. -/
def mapPayload (f : Frame) (g : Nat → UInt8 → UInt8) : Frame where
  storage := f.front ++ f.payload.mapIdx g ++ f.back
  start := f.start
  stop := f.stop
  start_le := f.start_le
  stop_le := by
    have := f.start_le
    have := f.stop_le
    simp only [front, payload, back, List.length_append, List.length_take, List.length_mapIdx,
      List.length_drop]
    omega

/-- How a frame is shown to developers. -/
def inspect (f : Frame) : String :=
  "PacketBuffer \x7b len: " ++ toString f.size ++ ", headroom: " ++ toString f.headroom ++
    ", tailroom: " ++ toString f.tailroom ++ " \x7d"

theorem front_append_payload_append_back (f : Frame) :
    f.front ++ (f.payload ++ f.back) = f.storage := by
  have h : f.back = (f.storage.drop f.start).drop (f.stop - f.start) := by
    rw [back, List.drop_drop]
    congr 1
    have := f.start_le
    omega
  rw [h, front, payload, List.take_append_drop, List.take_append_drop]

@[simp] theorem length_front (f : Frame) : f.front.length = f.headroom := by
  have := f.start_le
  have := f.stop_le
  simp only [front, headroom, List.length_take]
  omega

@[simp] theorem length_payload (f : Frame) : f.payload.length = f.size := by
  have := f.start_le
  have := f.stop_le
  simp only [payload, size, List.length_take, List.length_drop]
  omega

@[simp] theorem length_back (f : Frame) : f.back.length = f.tailroom := by
  simp [back, tailroom]

@[simp] theorem front_ofParts (a b c : List UInt8) : (ofParts a b c).front = a := by
  simp [ofParts, front]

@[simp] theorem payload_ofParts (a b c : List UInt8) : (ofParts a b c).payload = b := by
  simp [ofParts, payload]

@[simp] theorem back_ofParts (a b c : List UInt8) : (ofParts a b c).back = c := by
  simp only [ofParts, back, ← List.length_append, List.drop_left]

@[simp] theorem payload_ofPacket (p : Packet) : (ofPacket p).payload = p := payload_ofParts ..

theorem size_ofParts (a b c : List UInt8) : (ofParts a b c).size = b.length := by
  simp [ofParts, size]

@[simp] theorem size_ofPacket (p : Packet) : (ofPacket p).size = p.length := size_ofParts ..

@[simp] theorem headroom_ofPacket (p : Packet) : (ofPacket p).headroom = defaultHeadroom := by
  simp [ofPacket, withMargins, ofParts, headroom]

@[simp] theorem tailroom_ofPacket (p : Packet) : (ofPacket p).tailroom = defaultTailroom := by
  simp [ofPacket, withMargins, ofParts, tailroom]
  omega

/-- A header is put in front of the packet if there is room for it. -/
theorem exists_prepend_eq_ok {f : Frame} {header : List UInt8} (h : header.length ≤ f.headroom) :
    ∃ g, f.prepend header = .ok g ∧ g.payload = header ++ f.payload := by
  have hstart : header.length ≤ f.start := h
  refine ⟨_, dif_pos hstart, ?_⟩
  have hle := f.start_le
  have hstop := f.stop_le
  have htake : (f.storage.take (f.start - header.length)).length = f.start - header.length := by
    rw [List.length_take]
    omega
  have hsize : f.stop - (f.start - header.length) = header.length + (f.stop - f.start) := by omega
  show (List.drop (f.start - header.length) (f.storage.take (f.start - header.length) ++ header ++
    f.storage.drop f.start)).take (f.stop - (f.start - header.length)) = header ++ f.payload
  rw [List.append_assoc, List.drop_left' htake, hsize, List.take_length_add_append]
  rfl

/-- The first bytes of a packet are left in front of it if it has so many. -/
theorem exists_advance_eq_ok {f : Frame} {n : Nat} (h : n ≤ f.size) :
    ∃ g, f.advance n = .ok g ∧ g.payload = f.payload.drop n := by
  refine ⟨_, dif_pos h, ?_⟩
  have hsize : f.stop - (f.start + n) = f.stop - f.start - n := by omega
  show (f.storage.drop (f.start + n)).take (f.stop - (f.start + n)) = _
  rw [payload, List.drop_take, List.drop_drop, hsize]

end Frame

end TunnelRelay
