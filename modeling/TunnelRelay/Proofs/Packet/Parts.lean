import Mathlib.Data.List.Basic
import TunnelRelay.Packet.Frame

/-!
# Frames as three byte strings

A storage consists of what stands in front of its packet, the packet, and what stands behind it.
Whatever is done with a frame moves bytes from one of these parts to the next, or writes bytes
anew; all other bytes of the storage stay where they are, and come back when the packet grows over
them again.

## Main definitions

- `Frame.Parts` — three byte strings
- `Frame.Edit` — what can be done with a frame
- `Frame.Parts.perform`, `Frame.perform` — what it does to three byte strings, and to a storage
- `Frame.Deed`, `Frame.run` — frames that are edited and copied, one after the other

## Main statements

- `Frame.perform_parts` — an edit of a frame is the edit of its parts
- `Frame.getElem?_storage_perform` — the bytes that an edit leaves alone
- `Frame.run_refines_parts` — all edits of all frames
-/

namespace TunnelRelay.Frame

/-- Three byte strings. -/
@[ext]
structure Parts where
  front : List UInt8
  payload : List UInt8
  back : List UInt8
  deriving DecidableEq

/-- The parts of a storage. -/
def parts (f : Frame) : Parts := ⟨f.front, f.payload, f.back⟩

/-- What can be done with a frame. -/
inductive Edit where
  | prepend (header : List UInt8)
  /-- The packet grows by `n` bytes at its front, which are read, and then written anew, each from
  its place and its value. -/
  | grow (n : Nat) (g : Nat → UInt8 → UInt8)
  | append (trailer : List UInt8)
  | advance (n : Nat)
  | truncate (n : Nat)
  /-- The packet is written anew, each byte from its place and its value. -/
  | write (g : Nat → UInt8 → UInt8)
  /-- The packet is read. -/
  | read

/-- What comes of an edit. -/
inductive Reply where
  | done
  | bytes (l : List UInt8)
  /-- Nothing was changed, because a part is too short. -/
  | short (s : Shortage)
  deriving DecidableEq

namespace Parts

/-- All bytes. -/
def storage (p : Parts) : List UInt8 := p.front ++ (p.payload ++ p.back)

/-- The first byte of the front that `n` bytes in front of the packet take. -/
def reach (p : Parts) (n : Nat) : Nat := p.front.length - n

/-- The part that is too short for an edit, with what is needed and what there is. -/
def shortage? (p : Parts) : Edit → Option Shortage
  | .prepend header =>
    if header.length ≤ p.front.length then none
    else some (.headroom header.length p.front.length)
  | .grow n _ => if n ≤ p.front.length then none else some (.headroom n p.front.length)
  | .append trailer =>
    if trailer.length ≤ p.back.length then none
    else some (.tailroom trailer.length p.back.length)
  | .advance n => if n ≤ p.payload.length then none else some (.payload n p.payload.length)
  | .truncate _ | .write _ | .read => none

/-- Where an edit moves bytes, and which it writes. -/
def apply (p : Parts) : Edit → Parts
  | .prepend header =>
    { p with front := p.front.take (p.reach header.length), payload := header ++ p.payload }
  | .grow n g =>
    { p with
      front := p.front.take (p.reach n)
      payload := (p.front.drop (p.reach n)).mapIdx g ++ p.payload }
  | .append trailer =>
    { p with payload := p.payload ++ trailer, back := p.back.drop trailer.length }
  | .advance n =>
    { p with front := p.front ++ p.payload.take n, payload := p.payload.drop n }
  | .truncate n => { p with payload := p.payload.take n, back := p.payload.drop n ++ p.back }
  | .write g => { p with payload := p.payload.mapIdx g }
  | .read => p

/-- What an edit reads: the bytes that the packet grows by as they were left there, or all of the
packet. -/
def reply (p : Parts) : Edit → Reply
  | .grow n _ => .bytes (p.front.drop (p.reach n))
  | .read => .bytes p.payload
  | _ => .done

/-- An edit of three byte strings. -/
def perform (p : Parts) (e : Edit) : Reply × Parts :=
  match p.shortage? e with
  | some s => (.short s, p)
  | none => (p.reply e, p.apply e)

/-- The bytes that an edit writes lie within so many from here. -/
def written (p : Parts) : Edit → Nat × Nat
  | .prepend header => (p.reach header.length, header.length)
  | .grow n _ => (p.reach n, n)
  | .append trailer => (p.front.length + p.payload.length, trailer.length)
  | .write _ => (p.front.length, p.payload.length)
  | _ => (0, 0)

end Parts

/-- What comes of an edit that may fail. The frame is kept if it does. -/
def settle (f : Frame) (answer : Frame → Reply × Frame) :
    Except Shortage Frame → Reply × Frame
  | .ok u => answer u
  | .error s => (.short s, f)

/-- An edit of a frame. -/
def perform (f : Frame) : Edit → Reply × Frame
  | .prepend header => f.settle (fun u => (.done, u)) (f.prepend header)
  | .grow n g =>
    f.settle
      (fun u => (.bytes (u.payload.take n), u.mapPayload fun i b => if i < n then g i b else b))
      (f.grow n)
  | .append trailer => f.settle (fun u => (.done, u)) (f.append trailer)
  | .advance n => f.settle (fun u => (.done, u)) (f.advance n)
  | .truncate n => (.done, f.truncate n)
  | .write g => (.done, f.mapPayload g)
  | .read => (.bytes f.payload, f)

/-! ### The edits in terms of the parts -/

theorem storage_parts (f : Frame) : f.parts.storage = f.storage :=
  front_append_payload_append_back f

theorem parts_ofParts (a b c : List UInt8) : (ofParts a b c).parts = ⟨a, b, c⟩ := by
  simp [parts]

/-- A frame is its parts. -/
theorem eq_ofParts {f : Frame} {a b c : List UInt8} (hs : f.storage = a ++ b ++ c)
    (hstart : f.start = a.length) (hstop : f.stop = a.length + b.length) : f = ofParts a b c := by
  cases f
  simp only [ofParts, mk.injEq]
  exact ⟨hs, hstart, hstop⟩

theorem ofParts_parts (f : Frame) : ofParts f.front f.payload f.back = f := by
  have hsize : f.stop = f.start + f.size := by
    have := f.start_le
    simp only [size]
    omega
  refine (eq_ofParts ?_ ?_ ?_).symm
  · rw [List.append_assoc, front_append_payload_append_back]
  · exact (length_front f).symm
  · rw [length_front, length_payload]
    exact hsize

section OfParts

variable (a b c : List UInt8)

theorem prepend_ofParts (header : List UInt8) : (ofParts a b c).prepend header =
    if header.length ≤ a.length then
      .ok (ofParts (a.take (a.length - header.length)) (header ++ b) c)
    else .error (.headroom header.length a.length) := by
  unfold prepend
  split
  · next h =>
    have hle : header.length ≤ a.length := h
    rw [if_pos hle]
    refine congrArg Except.ok (eq_ofParts ?_ ?_ ?_)
    · simp [ofParts, List.take_append_of_le_length]
    · simp [ofParts]
    · simp [ofParts]
      omega
  · next h => exact (if_neg h).symm

theorem grow_ofParts (n : Nat) : (ofParts a b c).grow n =
    if n ≤ a.length then
      .ok (ofParts (a.take (a.length - n)) (a.drop (a.length - n) ++ b) c)
    else .error (.headroom n a.length) := by
  unfold grow
  split
  · next h =>
    have hle : n ≤ a.length := h
    rw [if_pos hle]
    refine congrArg Except.ok (eq_ofParts ?_ ?_ ?_)
    · simp [ofParts, ← List.append_assoc]
    · simp [ofParts]
    · simp [ofParts]
      omega
  · next h => exact (if_neg h).symm

theorem append_ofParts (trailer : List UInt8) : (ofParts a b c).append trailer =
    if trailer.length ≤ c.length then
      .ok (ofParts a (b ++ trailer) (c.drop trailer.length))
    else .error (.tailroom trailer.length c.length) := by
  have hroom : (ofParts a b c).tailroom = c.length := by
    rw [← length_back, back_ofParts]
  unfold append
  split
  · next h =>
    rw [hroom] at h
    rw [if_pos h]
    refine congrArg Except.ok (eq_ofParts ?_ ?_ ?_)
    · show (a ++ b ++ c).take (a.length + b.length) ++ trailer ++
        (a ++ b ++ c).drop (a.length + b.length + trailer.length) =
          a ++ (b ++ trailer) ++ c.drop trailer.length
      rw [← List.length_append, List.take_left, List.drop_length_add_append,
        List.append_assoc a b trailer]
    · rfl
    · simp [ofParts]
      omega
  · next h =>
    rw [hroom] at h ⊢
    exact (if_neg h).symm

theorem advance_ofParts (n : Nat) : (ofParts a b c).advance n =
    if n ≤ b.length then .ok (ofParts (a ++ b.take n) (b.drop n) c)
    else .error (.payload n b.length) := by
  unfold advance
  split
  · next h =>
    rw [size_ofParts] at h
    rw [if_pos h]
    refine congrArg Except.ok (eq_ofParts ?_ ?_ ?_)
    · simp [ofParts]
    · simp [ofParts, h]
    · show a.length + b.length = (a ++ b.take n).length + (b.drop n).length
      rw [List.length_append, List.length_take_of_le h, List.length_drop]
      omega
  · next h =>
    rw [size_ofParts] at h ⊢
    exact (if_neg h).symm

theorem truncate_ofParts (n : Nat) :
    (ofParts a b c).truncate n = ofParts a (b.take n) (b.drop n ++ c) := by
  unfold truncate
  split
  · next h =>
    rw [size_ofParts] at h
    refine eq_ofParts ?_ ?_ ?_
    · show a ++ b ++ c = a ++ b.take n ++ (b.drop n ++ c)
      rw [← List.append_assoc (a ++ b.take n), List.append_assoc a (b.take n),
        List.take_append_drop]
    · rfl
    · simp [ofParts]
      omega
  · next h =>
    rw [size_ofParts, Nat.not_lt] at h
    rw [List.take_of_length_le h, List.drop_of_length_le h, List.nil_append]

theorem mapPayload_ofParts (g : Nat → UInt8 → UInt8) :
    (ofParts a b c).mapPayload g = ofParts a (b.mapIdx g) c := by
  refine eq_ofParts ?_ ?_ ?_
  · simp [mapPayload]
  · rfl
  · simp [mapPayload, ofParts]

end OfParts

/-- An edit that fails if and only if its part is too short, and else does what it should. -/
theorem settle_ite {f u : Frame} {e : Edit} {answer : Frame → Reply × Frame} {s : Shortage}
    {c : Prop} [Decidable c] (hs : f.parts.shortage? e = if c then none else some s)
    (hu : c → ((answer u).1, (answer u).2.parts) = (f.parts.reply e, f.parts.apply e)) :
    ((f.settle answer (if c then .ok u else .error s)).1,
      (f.settle answer (if c then .ok u else .error s)).2.parts) = f.parts.perform e := by
  rw [Parts.perform, hs]
  by_cases hc : c
  · rw [if_pos hc, if_pos hc]
    exact hu hc
  · rw [if_neg hc, if_neg hc]
    rfl

/-- Only the first `n` bytes are written. -/
theorem mapIdx_append_of_lt {l : List UInt8} {n : Nat} (h : l.length = n) (t : List UInt8)
    (g : Nat → UInt8 → UInt8) :
    (l ++ t).mapIdx (fun i b => if i < n then g i b else b) = l.mapIdx g ++ t := by
  refine List.ext_getElem? fun i => ?_
  simp only [List.getElem?_mapIdx, List.getElem?_append, List.length_mapIdx, h]
  split
  · cases l[i]? with
    | none => rfl
    | some b => rfl
  · cases t[i - n]? with
    | none => rfl
    | some b => rfl

/-- **An edit of a frame is the edit of its parts**: it is answered alike, and leaves the same
parts. -/
theorem perform_parts (f : Frame) (e : Edit) :
    ((f.perform e).1, (f.perform e).2.parts) = f.parts.perform e := by
  -- a frame is taken apart at once, so that no case speaks of its storage
  have hf : f = ofParts f.front f.payload f.back := (ofParts_parts f).symm
  generalize f.front = a at hf
  generalize f.payload = b at hf
  generalize f.back = c at hf
  subst hf
  cases e with
  | prepend header =>
    simp only [perform, prepend_ofParts]
    refine settle_ite (by rw [parts_ofParts]; rfl) fun _ => ?_
    rw [parts_ofParts, parts_ofParts]
    rfl
  | grow n g =>
    simp only [perform, grow_ofParts]
    refine settle_ite (by rw [parts_ofParts]; rfl) fun h => ?_
    have hlen : (a.drop (a.length - n)).length = n := by
      rw [List.length_drop]
      omega
    rw [payload_ofParts, List.take_left' hlen, mapPayload_ofParts, mapIdx_append_of_lt hlen,
      parts_ofParts, parts_ofParts]
    rfl
  | append trailer =>
    simp only [perform, append_ofParts]
    refine settle_ite (by rw [parts_ofParts]; rfl) fun _ => ?_
    rw [parts_ofParts, parts_ofParts]
    rfl
  | advance n =>
    simp only [perform, advance_ofParts]
    refine settle_ite (by rw [parts_ofParts]; rfl) fun _ => ?_
    rw [parts_ofParts, parts_ofParts]
    rfl
  | truncate n =>
    simp only [perform, truncate_ofParts, parts_ofParts]
    rfl
  | write g =>
    simp only [perform, mapPayload_ofParts, parts_ofParts]
    rfl
  | read =>
    simp only [perform, payload_ofParts, parts_ofParts]
    rfl

/-! ### The bytes that an edit leaves alone -/

/-- Two storages differ at most in `len` bytes from `lo` on. -/
def Overwrites (lo len : Nat) (s t : List UInt8) : Prop :=
  ∃ x y z u : List UInt8, s = x ++ (y ++ u) ∧ t = x ++ (z ++ u) ∧
    x.length = lo ∧ y.length = len ∧ z.length = len

theorem Overwrites.refl (s : List UInt8) : Overwrites 0 0 s s :=
  ⟨[], [], [], s, rfl, rfl, rfl, rfl, rfl⟩

theorem Overwrites.length_eq {lo len : Nat} {s t : List UInt8} (h : Overwrites lo len s t) :
    t.length = s.length := by
  obtain ⟨x, y, z, u, rfl, rfl, -, hy, hz⟩ := h
  simp only [List.length_append, hy, hz]

theorem Overwrites.add_le {lo len : Nat} {s t : List UInt8} (h : Overwrites lo len s t) :
    lo + len ≤ s.length := by
  obtain ⟨x, y, z, u, rfl, -, hx, hy, -⟩ := h
  simp only [List.length_append, hx, hy]
  omega

theorem Overwrites.getElem?_eq {lo len : Nat} {s t : List UInt8} (h : Overwrites lo len s t)
    {j : Nat} (hj : j < lo ∨ lo + len ≤ j) : t[j]? = s[j]? := by
  obtain ⟨x, y, z, u, rfl, rfl, hx, hy, hz⟩ := h
  rcases hj with hj | hj
  · rw [List.getElem?_append_left (by omega), List.getElem?_append_left (by omega)]
  · rw [List.getElem?_append_right (by omega), List.getElem?_append_right (by omega),
      List.getElem?_append_right (by omega), List.getElem?_append_right (by omega), hy, hz]

theorem le_of_shortage?_eq_none {n m : Nat} {s : Shortage}
    (h : (if n ≤ m then none else some s) = none) : n ≤ m := by
  by_contra hn
  rw [if_neg hn] at h
  cases h

/-- Bytes in front of a packet are written anew. -/
theorem overwrites_front {a header : List UInt8} {n : Nat} (hn : n ≤ a.length)
    (hlength : header.length = n) (b : List UInt8) :
    Overwrites (a.length - n) n (a ++ b) (a.take (a.length - n) ++ (header ++ b)) := by
  refine ⟨a.take (a.length - n), a.drop (a.length - n), header, b, ?_, rfl, ?_, ?_, hlength⟩
  · rw [← List.append_assoc, List.take_append_drop]
  · exact List.length_take_of_le (Nat.sub_le ..)
  · rw [List.length_drop]
    omega

/-- An edit that is not too long for its part overwrites the bytes that it writes, and no other. -/
theorem Parts.overwrites (p : Parts) {e : Edit} (h : p.shortage? e = none) :
    Overwrites (p.written e).1 (p.written e).2 p.storage (p.apply e).storage := by
  obtain ⟨a, b, c⟩ := p
  cases e with
  | prepend header =>
    have hfront := overwrites_front (le_of_shortage?_eq_none h) rfl (b ++ c)
    rwa [← List.append_assoc header] at hfront
  | grow n g =>
    have hle : n ≤ a.length := le_of_shortage?_eq_none h
    have hlength : ((a.drop (a.length - n)).mapIdx g).length = n := by
      rw [List.length_mapIdx, List.length_drop]
      omega
    have hfront := overwrites_front hle hlength (b ++ c)
    rwa [← List.append_assoc (List.mapIdx ..)] at hfront
  | append trailer =>
    refine ⟨a ++ b, c.take trailer.length, trailer, c.drop trailer.length, ?_, ?_, ?_, ?_, rfl⟩
    · rw [List.take_append_drop, List.append_assoc]
      rfl
    · simp only [apply, storage, List.append_assoc]
    · exact List.length_append
    · exact List.length_take_of_le (le_of_shortage?_eq_none h)
  -- the next two only move bytes between the packet and a part beside it
  | advance n =>
    have hsame : Parts.storage (Parts.apply ⟨a, b, c⟩ (.advance n)) = a ++ (b ++ c) := by
      simp only [apply, storage, List.append_assoc]
      rw [← List.append_assoc (b.take n), List.take_append_drop]
    rw [hsame]
    exact .refl _
  | truncate n =>
    have hsame : Parts.storage (Parts.apply ⟨a, b, c⟩ (.truncate n)) = a ++ (b ++ c) := by
      simp only [apply, storage]
      rw [← List.append_assoc (b.take n), List.take_append_drop]
    rw [hsame]
    exact .refl _
  | write g => exact ⟨a, b, b.mapIdx g, c, rfl, rfl, rfl, rfl, List.length_mapIdx⟩
  | read => exact .refl _

theorem Parts.perform_of_none {p : Parts} {e : Edit} (h : p.shortage? e = none) :
    p.perform e = (p.reply e, p.apply e) := by
  rw [perform, h]

theorem Parts.perform_of_some {p : Parts} {e : Edit} {s : Shortage} (h : p.shortage? e = some s) :
    p.perform e = (.short s, p) := by
  rw [perform, h]

theorem reply_perform (f : Frame) (e : Edit) : (f.perform e).1 = (f.parts.perform e).1 :=
  congrArg Prod.fst (perform_parts f e)

theorem parts_perform (f : Frame) (e : Edit) : (f.perform e).2.parts = (f.parts.perform e).2 :=
  congrArg Prod.snd (perform_parts f e)

theorem storage_perform (f : Frame) (e : Edit) :
    (f.perform e).2.storage = (f.parts.perform e).2.storage := by
  rw [← parts_perform, storage_parts]

/-- The reply names a shortage if and only if there is one. -/
theorem reply_eq_short_iff (f : Frame) (e : Edit) (s : Shortage) :
    (f.perform e).1 = .short s ↔ f.parts.shortage? e = some s := by
  rw [reply_perform]
  cases h : f.parts.shortage? e with
  | none =>
    rw [Parts.perform_of_none h]
    cases e <;> simp [Parts.reply]
  | some u =>
    rw [Parts.perform_of_some h]
    simp

/-- A frame is kept as it is when a part is too short. -/
theorem perform_of_shortage {f : Frame} {e : Edit} {s : Shortage}
    (h : f.parts.shortage? e = some s) : (f.perform e).2 = f := by
  have hparts : (f.perform e).2.parts = f.parts := by
    rw [parts_perform, Parts.perform_of_some h]
  have hback : ∀ g : Frame, ofParts g.parts.front g.parts.payload g.parts.back = g := ofParts_parts
  rw [← hback (f.perform e).2, hparts, hback]

/-- The bytes outside of what an edit writes are left alone. -/
theorem getElem?_storage_perform {f : Frame} {e : Edit} (h : f.parts.shortage? e = none) {j : Nat}
    (hj : j < (f.parts.written e).1 ∨ (f.parts.written e).1 + (f.parts.written e).2 ≤ j) :
    (f.perform e).2.storage[j]? = f.storage[j]? := by
  rw [storage_perform, Parts.perform_of_none h, ← storage_parts f]
  exact (f.parts.overwrites h).getElem?_eq hj

/-- No edit makes a storage longer or shorter. -/
theorem capacity_perform (f : Frame) (e : Edit) : (f.perform e).2.capacity = f.capacity := by
  cases h : f.parts.shortage? e with
  | none =>
    rw [capacity, capacity, storage_perform, Parts.perform_of_none h, ← storage_parts f]
    exact (f.parts.overwrites h).length_eq
  | some s => rw [perform_of_shortage h]

/-! ### Many frames -/

/-- What is done with the frames of a rack. -/
inductive Deed where
  | edit (i : Nat) (e : Edit)
  /-- A copy of frame `i` joins the rack. -/
  | clone (i : Nat)

section Rack

variable {α β : Type} (edit : α → Edit → Reply × α)

/-- A deed on a rack. There is no reply when there is nothing in that place, or from a copy. -/
def deed (rack : List α) : Deed → Option Reply × List α
  | .edit i e =>
    match rack[i]? with
    | some a => (some (edit a e).1, rack.set i (edit a e).2)
    | none => (none, rack)
  | .clone i =>
    match rack[i]? with
    | some a => (none, rack ++ [a])
    | none => (none, rack)

/-- Deeds on a rack, with their replies. -/
def run (rack : List α) : List Deed → List (Option Reply) × List α
  | [] => ([], rack)
  | d :: ds =>
    let (reply, rack) := deed edit rack d
    let (replies, rack) := run rack ds
    (reply :: replies, rack)

/-- The edits that are meant for place `i`. -/
def edits (i : Nat) (ds : List Deed) : List Edit :=
  ds.filterMap fun
    | .edit k e => if k = i then some e else none
    | .clone _ => none

/-- What is left after edits in a row. -/
def performs (a : α) (es : List Edit) : α := es.foldl (fun a e => (edit a e).2) a

theorem deed_map {edit : α → Edit → Reply × α} {edit' : β → Edit → Reply × β} {view : α → β}
    (hview : ∀ a e, ((edit a e).1, view (edit a e).2) = edit' (view a) e) (rack : List α)
    (d : Deed) :
    ((deed edit rack d).1, (deed edit rack d).2.map view) = deed edit' (rack.map view) d := by
  cases d with
  | edit i e =>
    simp only [deed, List.getElem?_map]
    cases rack[i]? with
    | none => rfl
    | some a => simp only [Option.map_some, ← hview, List.map_set]
  | clone i =>
    simp only [deed, List.getElem?_map]
    cases rack[i]? with
    | none => rfl
    | some a => simp only [Option.map_some, List.map_append, List.map_cons, List.map_nil]

/-- A view of what is on a rack is kept by all deeds if it is kept by each edit. -/
theorem run_map {edit : α → Edit → Reply × α} {edit' : β → Edit → Reply × β} {view : α → β}
    (hview : ∀ a e, ((edit a e).1, view (edit a e).2) = edit' (view a) e) (rack : List α)
    (ds : List Deed) :
    ((run edit rack ds).1, (run edit rack ds).2.map view) = run edit' (rack.map view) ds := by
  induction ds generalizing rack with
  | nil => rfl
  | cons d ds ih =>
    simp only [run]
    rw [← deed_map hview rack d, ← ih]

/-- What all frames of a rack have in common is kept by a deed if each edit keeps it. -/
theorem forall_mem_deed {P : α → Prop} (hedit : ∀ a e, P a → P (edit a e).2) {rack : List α}
    (h : ∀ a ∈ rack, P a) (d : Deed) : ∀ a ∈ (deed edit rack d).2, P a := by
  cases d with
  | edit i e =>
    simp only [deed]
    cases ha : rack[i]? with
    | none => exact h
    | some b =>
      intro a hmem
      rcases List.mem_or_eq_of_mem_set hmem with hold | rfl
      · exact h a hold
      · exact hedit b e (h b (List.mem_of_getElem? ha))
  | clone i =>
    simp only [deed]
    cases ha : rack[i]? with
    | none => exact h
    | some b =>
      intro a hmem
      rcases List.mem_append.mp hmem with hold | hnew
      · exact h a hold
      · rw [List.mem_singleton.mp hnew]
        exact h b (List.mem_of_getElem? ha)

theorem forall_mem_run {P : α → Prop} (hedit : ∀ a e, P a → P (edit a e).2) {rack : List α}
    (h : ∀ a ∈ rack, P a) (ds : List Deed) : ∀ a ∈ (run edit rack ds).2, P a := by
  induction ds generalizing rack with
  | nil => exact h
  | cons d ds ih => exact ih (forall_mem_deed edit hedit h d)

/-- A deed that is meant for another place, or that copies, leaves a place as it is. -/
theorem getElem?_deed {rack : List α} {i : Nat} {a : α} (h : rack[i]? = some a) (d : Deed) :
    (deed edit rack d).2[i]? = some (performs edit a (edits i [d])) := by
  cases d with
  | edit k e =>
    by_cases hk : k = i
    · subst hk
      have hlt : k < rack.length := (List.getElem?_eq_some_iff.mp h).1
      simp only [deed, h, edits, performs, List.filterMap_cons, if_true, List.filterMap_nil,
        List.foldl_cons, List.foldl_nil]
      exact List.getElem?_set_self hlt
    · simp only [deed, edits, performs, List.filterMap_cons, if_neg hk, List.filterMap_nil,
        List.foldl_nil]
      cases rack[k]? with
      | none => exact h
      | some b => exact (List.getElem?_set_ne hk).trans h
  | clone k =>
    simp only [deed, edits, performs, List.filterMap_cons, List.filterMap_nil, List.foldl_nil]
    cases rack[k]? with
    | none => exact h
    | some b =>
      exact (List.getElem?_append_left (List.getElem?_eq_some_iff.mp h).1).trans h

/-- What is in a place comes of the edits that are meant for that place alone. -/
theorem getElem?_run {rack : List α} {i : Nat} {a : α} (h : rack[i]? = some a) (ds : List Deed) :
    (run edit rack ds).2[i]? = some (performs edit a (edits i ds)) := by
  induction ds generalizing rack a with
  | nil => exact h
  | cons d ds ih =>
    have hsplit : edits i (d :: ds) = edits i [d] ++ edits i ds := by
      rw [edits, edits, edits, ← List.filterMap_append]
      rfl
    rw [hsplit, performs, List.foldl_append]
    exact ih (getElem?_deed edit h d)

/-- A copy and what it was made of each go their own way. -/
theorem getElem?_run_clone {rack : List α} {i : Nat} {a : α} (h : rack[i]? = some a)
    (ds : List Deed) :
    (run edit rack (.clone i :: ds)).2[i]? = some (performs edit a (edits i ds)) ∧
      (run edit rack (.clone i :: ds)).2[rack.length]? =
        some (performs edit a (edits rack.length ds)) := by
  have hrun : (run edit rack (.clone i :: ds)).2 = (run edit (rack ++ [a]) ds).2 := by
    simp only [run, deed, h]
  rw [hrun]
  exact ⟨getElem?_run edit ((List.getElem?_append_left
    (List.getElem?_eq_some_iff.mp h).1).trans h) ds,
    getElem?_run edit List.getElem?_concat_length ds⟩

end Rack

/-- A frame is laid out in a storage of so many bytes, and all that is done with it is done to its
parts. -/
structure Faithful (f : Frame) (size : Nat) : Prop where
  storage : f.front ++ f.payload ++ f.back = f.storage
  start_le : f.start ≤ f.stop
  stop_le : f.stop ≤ f.capacity
  capacity : f.capacity = size
  /-- An edit fails if and only if the part that it takes from is too short, and says by how
  much. -/
  short_iff : ∀ e s, (f.perform e).1 = .short s ↔ f.parts.shortage? e = some s
  /-- A frame is kept when an edit fails. -/
  kept : ∀ e s, f.parts.shortage? e = some s → (f.perform e).2 = f
  /-- What an edit writes lies inside the storage. -/
  inside : ∀ e, f.parts.shortage? e = none →
    (f.parts.written e).1 + (f.parts.written e).2 ≤ size
  /-- All other bytes are left alone. -/
  frame : ∀ e, f.parts.shortage? e = none → ∀ j,
    j < (f.parts.written e).1 ∨ (f.parts.written e).1 + (f.parts.written e).2 ≤ j →
      (f.perform e).2.storage[j]? = f.storage[j]?

theorem faithful_capacity (f : Frame) : f.Faithful f.capacity where
  storage := by rw [List.append_assoc, front_append_payload_append_back]
  start_le := f.start_le
  stop_le := f.stop_le
  capacity := rfl
  short_iff := reply_eq_short_iff f
  kept _ _ := perform_of_shortage
  inside e h := by
    have hle := (f.parts.overwrites h).add_le
    rwa [storage_parts] at hle
  frame _ h _ := getElem?_storage_perform h

/-- **Frames are three byte strings.** Whatever is done with the frames that are made of one
packet, each is answered as three byte strings are, and leaves the same. Every frame lies in a
storage as long as the first, fails exactly when a part is too short, and is then kept; no byte
is written but those that an edit names. A copy is not touched by what is done with its
original, nor the original by what is done with the copy. -/
theorem run_refines_parts (p : Packet) (headroom tailroom : Nat) (ds : List Deed) :
    let rack := (run perform [withMargins p headroom tailroom] ds).2
    let strings := run Parts.perform
      [⟨List.replicate headroom 0, p, List.replicate tailroom 0⟩] ds
    (run perform [withMargins p headroom tailroom] ds).1 = strings.1 ∧
      rack.map parts = strings.2 ∧
      (∀ f ∈ rack, f.Faithful (headroom + p.length + tailroom)) ∧
      ∀ i f, rack[i]? = some f → ∀ later : List Deed,
        (run perform rack later).2[i]? = some (performs perform f (edits i later)) ∧
        (run perform rack (.clone i :: later)).2[i]? =
          some (performs perform f (edits i later)) ∧
        (run perform rack (.clone i :: later)).2[rack.length]? =
          some (performs perform f (edits rack.length later)) := by
  intro rack strings
  have hview := run_map perform_parts [withMargins p headroom tailroom] ds
  have hparts : [withMargins p headroom tailroom].map parts =
      [⟨List.replicate headroom 0, p, List.replicate tailroom 0⟩] := by
    simp only [List.map_cons, List.map_nil, withMargins, parts_ofParts]
  rw [hparts] at hview
  have hcapacity : ∀ f ∈ rack, f.capacity = headroom + p.length + tailroom := by
    refine forall_mem_run perform (fun f e h => (capacity_perform f e).trans h) ?_ ds
    intro f hf
    rw [List.mem_singleton.mp hf]
    simp only [withMargins, ofParts, Frame.capacity, List.length_append, List.length_replicate]
  refine ⟨congrArg Prod.fst hview, congrArg Prod.snd hview, fun f hf => ?_, ?_⟩
  · rw [← hcapacity f hf]
    exact faithful_capacity f
  · intro i f hf later
    exact ⟨getElem?_run perform hf later, getElem?_run_clone perform hf later⟩

end TunnelRelay.Frame
