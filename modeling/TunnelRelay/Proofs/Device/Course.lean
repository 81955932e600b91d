import TunnelRelay.Tun.Device

/-!
# The course of a device

A device has an owner and an observer, who are called by it, and an application at the other end
of its pipe. All of them, and the outbound loop, do something with the device one after the other.
This module says what each operation does, and what is written down meanwhile.

## Main definitions

- `Tun.Operation` — what can be done with a device
- `Tun.Surroundings` — who is called by a device
- `Tun.Occurrence`, `Tun.Chronicle` — what was written down
- `Tun.perform`, `Tun.after` — one operation, and one after the other
- `Tun.Operation.Succeeds` — a start that succeeds

## Main statements

- `Tun.after_keeps` — from one operation to all of them
- `Tun.foldl_ring_watched` — calls that may halt a device
- `Tun.Device.start_cases` — how a start can go

## Design notes

The surroundings answer as they like, and each answer may depend on all that they were told
before. A start that the owner asks for is `launch`; `start` is the same without the owner's
being told of a failure. A loop that is over does not turn any more, so nobody has to say that it
is over.
-/

namespace TunnelRelay.Tun

open Packet (IoFault)

/-- What can be done with a device. -/
inductive Operation where
  | start (ds : List Directive)
  | launch (ds : List Directive)
  | stop
  | disconnect
  /-- The owner has a packet for the application. -/
  | deliver (p : Packet)
  /-- The application sends a packet. -/
  | send (p : Packet)
  /-- The application reads a packet. -/
  | read (room : Nat)
  /-- The outbound loop turns. -/
  | turn

/-- The owner of a device and its observer. A call may be answered with a halt, and an owner who
panics over a packet answers `false`. -/
structure Surroundings (σ : Type) where
  call : Call → σ → Option Halt × σ
  intake : Frame → σ → Bool × σ

/-- What is written down. -/
inductive Occurrence where
  /-- The device made a call, with this answer. -/
  | called (c : Call) (h : Option Halt)
  /-- The owner was handed a frame, and returned or panicked. -/
  | handed (f : Frame) (returned : Bool)
  /-- The owner had a packet for the application while the device was at this stage, and it was
  sent or not. -/
  | delivered (stage : Stage) (halted : Bool) (p : Packet) (sent : Bool)
  /-- The application sent a packet. -/
  | sent (p : Packet) (r : Except IoFault Nat)
  /-- The application read, with room for so many bytes. -/
  | read (room : Nat) (r : Except IoFault Packet)

/-- The surroundings as they are, with what was written down, the latest last. -/
structure Chronicle (σ : Type) where
  rest : σ
  entries : List Occurrence := []

variable {σ : Type}

def Chronicle.add (x : Chronicle σ) (o : Occurrence) : Chronicle σ :=
  { x with entries := x.entries ++ [o] }

/-- The surroundings, and what they are told and answer is written down. -/
def Surroundings.watched (w : Surroundings σ) : Surroundings (Chronicle σ) where
  call c x :=
    let (h, s) := w.call c x.rest
    (h, { x with rest := s }.add (.called c h))
  intake f x :=
    let (b, s) := w.intake f x.rest
    (b, { x with rest := s }.add (.handed f b))

/-- What an operation does. The outbound loop turns while the device is started. -/
def perform (w : Surroundings σ) (o : Operation) (x : Device × Chronicle σ) :
    Device × Chronicle σ :=
  match o with
  | .start ds => (x.1.start w.watched.call ds x.2).2
  | .launch ds => x.1.launch w.watched.call ds x.2
  | .stop => (x.1.stop, x.2)
  | .disconnect => (x.1.disconnect, x.2)
  | .deliver p =>
    let (sent, d) := x.1.deliver p
    (d, x.2.add (.delivered x.1.stage x.1.halted p sent))
  | .send p =>
    match x.1.appSend p with
    | .error _ => x
    | .ok (r, d) => (d, x.2.add (.sent p r))
  | .read room =>
    match x.1.appReceive room with
    | .error _ => x
    | .ok (r, d) => (d, x.2.add (.read room r))
  | .turn => if x.1.stage = .started then Device.poll w.watched.intake x else x

/-- One operation after the other. -/
def after (w : Surroundings σ) (os : List Operation) (x : Device × Chronicle σ) :
    Device × Chronicle σ := os.foldl (fun x o => perform w o x) x

/-- A device as it is built, and nothing was written down. -/
def fresh (id : String) (blocking : Bool) (s : σ) : Device × Chronicle σ :=
  ({ id, blocking }, { rest := s })

/-- The operation is a start, and it succeeds. -/
def Operation.Succeeds (w : Surroundings σ) (o : Operation) (x : Device × Chronicle σ) : Prop :=
  match o with
  | .start ds | .launch ds => (x.1.start w.watched.call ds x.2).1 = .ok ()
  | _ => False

variable {w : Surroundings σ}

/-- What every operation keeps stays all along. -/
theorem after_keeps {I : Device × Chronicle σ → Prop} (step : ∀ o x, I x → I (perform w o x))
    (os : List Operation) {x : Device × Chronicle σ} (hx : I x) : I (after w os x) := by
  induction os generalizing x with
  | nil => exact hx
  | cons o os ih => exact ih (step o x hx)

/-! ### Starts -/

/-- Calls are made in their order whatever is answered, and each answer is taken. -/
theorem foldl_ring_watched (cs : List Call) (x : Device × Chronicle σ) :
    ∃ hs : List (Option Halt), hs.length = cs.length ∧
      (cs.foldl (Device.ring w.watched.call) x).1 = hs.foldl Device.halt x.1 ∧
      (cs.foldl (Device.ring w.watched.call) x).2.entries =
        x.2.entries ++ List.zipWith .called cs hs := by
  induction cs generalizing x with
  | nil => exact ⟨[], rfl, rfl, (List.append_nil _).symm⟩
  | cons c cs ih =>
    obtain ⟨hs, hlength, hdevice, hentries⟩ := ih (Device.ring w.watched.call x c)
    refine ⟨(w.call c x.2.rest).1 :: hs, by simp [hlength], hdevice, ?_⟩
    rw [List.foldl_cons, hentries]
    show (x.2.entries ++ [_]) ++ _ = _
    simp

namespace Device

variable {call : Call → σ → Option Halt × σ} {d : Device}

/-- The device may start. -/
def CanStart (d : Device) : Prop := d.stage = .created ∧ d.halted = false

instance (d : Device) : Decidable d.CanStart := inferInstanceAs (Decidable (_ ∧ _))

theorem start_of_not_canStart (h : ¬d.CanStart) (ds : List Directive) (s : σ) :
    d.start call ds s = (.error d.startFault, d, s) := by
  rw [start, if_pos]
  simpa [CanStart, ← Bool.not_eq_false] using h

/-- A device that may start makes its calls first. If it was halted meanwhile it does not run. -/
theorem start_of_canStart (h : d.CanStart) (ds : List Directive) (s : σ) :
    d.start call ds s =
      if (announced call ds d s).1.halted then (.error .pipeClosed, announced call ds d s)
      else (.ok (), ring call ((announced call ds d s).1.running, (announced call ds d s).2)
        .connected) := by
  rw [start, if_neg (by simp [h.1, h.2])]

theorem launch_of_error {f : Fault} {ds : List Directive} {s : σ} {x : Device × σ}
    (h : d.start call ds s = (.error f, x)) :
    d.launch call ds s = ring call x (.failed f.message) := by rw [launch, h]

theorem launch_of_ok {ds : List Directive} {s : σ} {x : Device × σ}
    (h : d.start call ds s = (.ok (), x)) : d.launch call ds s = x := by rw [launch, h]

/-- An owner who asked for a start is called once more at most. -/
theorem launch_cases (call : Call → σ → Option Halt × σ) (d : Device) (ds : List Directive)
    (s : σ) : d.launch call ds s = (d.start call ds s).2 ∨
      ∃ c, d.launch call ds s = ring call (d.start call ds s).2 c := by
  cases h : d.start call ds s with
  | mk r x =>
    cases r with
    | ok _ => exact .inl (launch_of_ok h)
    | error f => exact .inr ⟨_, launch_of_error h⟩

/-- How a start can go: it is refused, or halted, or it succeeds. -/
theorem start_cases (w : Surroundings σ) (ds : List Directive) (x : Device × Chronicle σ) :
    (¬x.1.CanStart ∧ x.1.start w.watched.call ds x.2 = (.error x.1.startFault, x)) ∨
    ∃ hs : List (Option Halt), hs.length = (startCalls ds).length ∧ x.1.CanStart ∧
      ∃ e : Device × Chronicle σ,
        e.1 = hs.foldl halt { x.1 with settings := Settings.ofDirectives ds } ∧
        e.2.entries = x.2.entries ++ List.zipWith .called (startCalls ds) hs ∧
        ((e.1.halted = true ∧ x.1.start w.watched.call ds x.2 = (.error .pipeClosed, e)) ∨
          (e.1.halted = false ∧ x.1.start w.watched.call ds x.2 =
            (.ok (), ring w.watched.call (e.1.running, e.2) .connected))) := by
  by_cases h : x.1.CanStart
  · obtain ⟨hs, hlength, hdevice, hentries⟩ := foldl_ring_watched (w := w) (startCalls ds)
      ({ x.1 with settings := Settings.ofDirectives ds }, x.2)
    refine .inr ⟨hs, hlength, h, announced w.watched.call ds x.1 x.2, hdevice, hentries, ?_⟩
    rw [start_of_canStart h]
    cases hh : (announced w.watched.call ds x.1 x.2).1.halted with
    | true => exact .inl ⟨rfl, rfl⟩
    | false => exact .inr ⟨rfl, rfl⟩
  · exact .inl ⟨h, start_of_not_canStart h ds x.2⟩

end Device

end TunnelRelay.Tun
