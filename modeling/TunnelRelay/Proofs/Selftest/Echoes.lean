import TunnelRelay.Proofs.Life.Kept
import TunnelRelay.Proofs.Relay.Pushed
import TunnelRelay.Selftest

/-!
# Packets there and back

The self-test sends one packet after the other, each a byte longer than the one before, and reads
what comes back into room that stays the same. So it gets as far as the packet that just fits, and
the next one comes back cut off.

## Main definitions

- `Tunnel.Clear` — a tunnel that carries packets, with nothing on its way
- `Selftest.Returned`, `Selftest.CutOff` — a packet that comes back as it was, and one that does not
- `Selftest.Trips` — so many packets that came back, one after the other

## Main statements

- `Tunnel.Clear.roundTrip` — one packet
- `Tunnel.Clear.trips`, `Tunnel.Clear.echoFrom_of_lt` — all packets of the self-test
-/

namespace TunnelRelay

open Engine (LoopbackOptions)
open Packet (IoFault Pipe)

variable {o : LoopbackOptions} {t u v : Tunnel} {p : Packet} {n : Nat}

namespace Tunnel

/-- The tunnel carries packets, none is on its way, and the application's end waits. -/
structure Clear (o : LoopbackOptions) (t : Tunnel) : Prop extends t.Wired o [] [] where
  pending : t.relay.pending = []
  blocking : t.session.prefs.blocking

theorem length_le_largestPacket (hp : p.Relayable) : p.length ≤ Pipe.largestPacket :=
  Nat.le_trans hp.2 (by decide)

/-- A packet that waits for the engine waits for the application afterwards. -/
theorem Wired.relayWaiting (h : t.Wired o [p] []) (ho : o.echo) (hp : p.Relayable)
    (hn : t.relay.pending = []) :
    t.relayWaiting.Wired o [] [p] ∧ t.relayWaiting.relay.pending = [] ∧
      t.relayWaiting.session = t.session := by
  obtain ⟨hw, hrelay⟩ := h.takeOne_cons ho
  rw [if_pos hp] at hrelay
  have hpending : t.takeOne.relay.pending = [p] := by
    rw [hrelay, Engine.Relay.take, hn]
    rfl
  have hroom : t.takeOne.hasRoom .app := by
    rw [Tunnel.hasRoom, hw.queue_app]
    decide
  obtain ⟨hreturn, hrelay⟩ := hw.returnOne hroom hpending (length_le_largestPacket hp)
  have hone : t.relayWaiting = t.takeOne.returnOne := by
    simp only [Tunnel.relayWaiting, h.queue_engine, List.length_singleton, takeTimes, hpending,
      returnTimes]
  rw [hone]
  refine ⟨hreturn, by rw [hrelay], ?_⟩
  rw [session_returnOne, session_takeOne]

/-- A packet is written, sent back and read. If there is no room for it, it is lost. -/
theorem Clear.roundTrip (h : t.Clear o) (ho : o.echo) (hp : p.Relayable) (room : Nat) :
    ∃ v u, t.write p = some (.ok (.ok p.length), v) ∧ v.session = t.session ∧
      v.relayWaiting.receive room =
        some (.ok (if p.length ≤ room then .ok p else .error (.truncated p.length room)), u) ∧
      u.Clear o := by
  have hroom : t.hasRoom .engine := by
    rw [Tunnel.hasRoom, h.queue_engine]
    decide
  have hlarge := length_le_largestPacket hp
  obtain ⟨v, hwrite, hrelay, hsession, hv⟩ := h.write hroom p
  rw [if_pos hlarge] at hwrite hv
  obtain ⟨hw, hpending, hs⟩ := hv.relayWaiting ho hp (by rw [hrelay, h.pending])
  obtain ⟨hnone, -⟩ | ⟨q, rest, hq, u, hru, hsu, hu, hread⟩ := hw.receive room
  · cases hnone
  · cases hq
    have hsame : u.session = t.session := hsu.trans (hs.trans hsession)
    refine ⟨v, u, hwrite, hsession, hread, hu, hru ▸ hpending, ?_⟩
    rw [hsame]
    exact h.blocking

end Tunnel

namespace Selftest

/-- The packet with this number is sent, and read as it was. -/
def Returned (t : Tunnel) (n : Nat) (u : Tunnel) : Prop :=
  ∃ v, t.write (packet n) = some (.ok (.ok (packet n).length), v) ∧
    v.relayWaiting.receive readRoom = some (.ok (.ok (packet n)), u)

/-- The packet with this number is sent, and there is no room for it when it comes back. -/
def CutOff (t : Tunnel) (n : Nat) : Prop :=
  ∃ v u, t.write (packet n) = some (.ok (.ok (packet n).length), v) ∧
    v.relayWaiting.receive readRoom =
      some (.ok (.error (.truncated (packet n).length readRoom)), u)

/-- The packets with the numbers below this one were sent one after the other, and each was read as
it was before the next was sent. -/
inductive Trips (t : Tunnel) : Nat → Tunnel → Prop where
  | start : Trips t 0 t
  | next {n : Nat} {u v : Tunnel} (h : Trips t n u) (hv : Returned u n v) : Trips t (n + 1) v

/-- How many packets of the self-test there is room for. -/
def fitting : Nat := readRoom - 19

theorem relayable_packet (hn : n ≤ fitting) : (packet n).Relayable := by
  have hbound : fitting + 20 ≤ Tun.readRoom := by decide
  constructor
  · rw [length_packet]
    omega
  · rw [length_packet]
    omega

theorem length_packet_le_iff : (packet n).length ≤ readRoom ↔ n < fitting := by
  have hroom : readRoom = fitting + 19 := rfl
  rw [length_packet, hroom]
  omega

theorem echo_of_returned (hb : t.session.prefs.blocking) (hs : v.session = t.session)
    (hw : t.write p = some (.ok (.ok p.length), v))
    (hr : v.relayWaiting.receive readRoom = some (.ok (.ok p), u)) : echo t p = some u := by
  have hblocking : v.session.prefs.blocking := by
    rw [hs]
    exact hb
  simp only [echo, hw, bind, Option.bind_some, hblocking, if_true, hr]
  rfl

theorem echo_of_cutOff (hb : t.session.prefs.blocking) (hs : v.session = t.session) {f : IoFault}
    (hw : t.write p = some (.ok (.ok p.length), v))
    (hr : v.relayWaiting.receive readRoom = some (.ok (.error f), u)) : echo t p = none := by
  have hblocking : v.session.prefs.blocking := by
    rw [hs]
    exact hb
  simp only [echo, hw, bind, Option.bind_some, hblocking, if_true, hr]
  rfl

/-- The last of some packets is sent when the others have come back. -/
theorem echoFrom_succ (t : Tunnel) (n left : Nat) : echoFrom t n (left + 1) =
    (echoFrom t n left).bind fun u => echo u (packet (n + left)) := by
  induction left generalizing t n with
  | zero => simp [echoFrom]
  | succ left ih =>
    rw [echoFrom, echoFrom, Option.bind_assoc]
    refine Option.bind_congr fun u _ => ?_
    rw [ih, Nat.add_right_comm]
    rfl

end Selftest

namespace Tunnel

open Selftest (CutOff Returned Trips echoFrom fitting packet)

/-- A packet comes back if there is room for it. -/
theorem Clear.returned (h : t.Clear o) (ho : o.echo) (hn : n < fitting) :
    ∃ u, Returned t n u ∧ Selftest.echo t (packet n) = some u ∧ u.Clear o := by
  obtain ⟨v, u, hwrite, hsession, hread, hu⟩ :=
    h.roundTrip ho (Selftest.relayable_packet (Nat.le_of_lt hn)) Selftest.readRoom
  rw [if_pos (Selftest.length_packet_le_iff.mpr hn)] at hread
  exact ⟨u, ⟨v, hwrite, hread⟩, Selftest.echo_of_returned h.blocking hsession hwrite hread, hu⟩

/-- The first packet that does not fit is cut off. -/
theorem Clear.cutOff (h : t.Clear o) (ho : o.echo) :
    CutOff t fitting ∧ Selftest.echo t (packet fitting) = none := by
  obtain ⟨v, u, hwrite, hsession, hread, -⟩ :=
    h.roundTrip ho (Selftest.relayable_packet (Nat.le_refl fitting)) Selftest.readRoom
  rw [if_neg fun hle => Nat.lt_irrefl _ (Selftest.length_packet_le_iff.mp hle)] at hread
  exact ⟨⟨v, u, hwrite, hread⟩, Selftest.echo_of_cutOff h.blocking hsession hwrite hread⟩

/-- The packets that fit come back, one after the other. -/
theorem Clear.trips (h : t.Clear o) (ho : o.echo) (hn : n ≤ fitting) :
    ∃ u, Trips t n u ∧ echoFrom t 0 n = some u ∧ u.Clear o := by
  induction n with
  | zero => exact ⟨t, .start, rfl, h⟩
  | succ n ih =>
    obtain ⟨u, htrips, hecho, hu⟩ := ih (Nat.le_of_lt hn)
    obtain ⟨v, hreturned, hone, hv⟩ := hu.returned ho hn
    refine ⟨v, .next htrips hreturned, ?_, hv⟩
    rw [Selftest.echoFrom_succ, hecho, Nat.zero_add]
    exact hone

/-- No packet is sent after the first that does not fit. -/
theorem Clear.echoFrom_of_lt (h : t.Clear o) (ho : o.echo) (hn : fitting < n) :
    echoFrom t 0 n = none := by
  induction n with
  | zero => exact absurd hn (Nat.not_lt_zero _)
  | succ n ih =>
    rw [Selftest.echoFrom_succ, Nat.zero_add]
    rcases Nat.lt_or_eq_of_le (Nat.le_of_lt_succ hn) with hlt | rfl
    · rw [ih hlt, Option.bind_none]
    · obtain ⟨u, -, hecho, hu⟩ := h.trips ho (Nat.le_refl fitting)
      rw [hecho]
      exact (hu.cutOff ho).2

end Tunnel

end TunnelRelay
