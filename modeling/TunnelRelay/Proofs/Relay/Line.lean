import Mathlib
import TunnelRelay.Proofs.Relay.Dialed

/-!
# Lines

On a line, an application writes and reads packets, the engine takes them and sends them back, and
the connection is restarted, paused and resumed, in any order. The connection is not stopped, and
no pipe is full when something is put into it.

## Main definitions

- `Line` — a tunnel with what its application has sent and received
- `Line.Turn` — what happens on a line
- `Line.Sound` — every packet that passes a device is somewhere on its way round
- `Line.Quiet` — nothing is on its way

## Main statements

- `Line.Turn.accounts` — a turn loses and makes up nothing
- `Line.Sound.drains` — a line becomes quiet
-/

namespace TunnelRelay

open Engine (LoopbackOptions RelayStats)
open Packet (IoFault Pipe)
open Relation (ReflTransGen)

/-- A tunnel with what its application has sent and received, the oldest first. -/
structure Line where
  /-- The tunnel. -/
  tunnel : Tunnel
  /-- What the application has sent. -/
  sent : List Packet := []
  /-- What it has received. -/
  received : List Packet := []

namespace Line

/-- The application sends a packet. -/
def send (l : Line) (p : Packet) : Line :=
  { l with
    tunnel := ((l.tunnel.write p).map Prod.snd).getD l.tunnel
    sent := l.sent ++ [p] }

/-- What a read has brought. -/
def brought : Option (Except Fault (Except IoFault Packet) × Tunnel) → List Packet
  | some (.ok (.ok p), _) => [p]
  | _ => []

/-- The application reads. -/
def read (l : Line) (room : Nat) : Line :=
  { l with
    tunnel := ((l.tunnel.receive room).map Prod.snd).getD l.tunnel
    received := l.received ++ brought (l.tunnel.receive room) }

/-- The engine does something, and the counters go with it. -/
def serve (f : Tunnel → Tunnel) (x : Line × RelayStats) : Line × RelayStats :=
  let t := f { x.1.tunnel with relay.stats := x.2 }
  ({ x.1 with tunnel := t }, t.relay.stats)

/-- What happens on a line. An application has room for what it reads, and a pipe for what is put
into it. -/
inductive Turn : Line × RelayStats → Line × RelayStats → Prop where
  | send {l : Line} {s : RelayStats} (p : Packet) (h : l.tunnel.hasRoom .engine) :
      Turn (l, s) (l.send p, s)
  | read {l : Line} {s : RelayStats} (room : Nat)
      (h : ∀ p ∈ (l.tunnel.queue .app).head?, p.length ≤ room) : Turn (l, s) (l.read room, s)
  | take {x : Line × RelayStats} : Turn x (serve Tunnel.takeOne x)
  | giveBack {x : Line × RelayStats} (h : x.1.tunnel.hasRoom .app) :
      Turn x (serve Tunnel.returnOne x)
  | reconnect {l : Line} {s : RelayStats} :
      Turn (l, s) ({ l with tunnel := l.tunnel.reconnect.2 }, s)
  | pause {l : Line} {s : RelayStats} (reason : String) :
      Turn (l, s) ({ l with tunnel := l.tunnel.pause reason }, s)
  | resume {l : Line} {s : RelayStats} : Turn (l, s) ({ l with tunnel := l.tunnel.resume }, s)

/-- The packets that were sent back, whether they were read or not. -/
def returned (l : Line) : List Packet := l.received ++ l.tunnel.queue .app

/-- The packets that the engine has got. -/
def taken (l : Line) : List Packet := l.returned ++ l.tunnel.relay.pending

/-- The packets of a line that pass a device. -/
def passing (l : Line) : List Packet := l.sent.filter (·.Relayable)

/-- The line is up, and every packet that passes a device is somewhere on its way round. -/
structure Sound (o : LoopbackOptions) (l : Line) : Prop where
  wired : l.tunnel.Wired o (l.tunnel.queue .engine) (l.tunnel.queue .app)
  accounted : l.taken ++ (l.tunnel.queue .engine).filter (·.Relayable) = l.passing

/-- The counters count what the engine has got and sent back meanwhile. -/
structure Counts (x y : Line × RelayStats) : Prop where
  packets : y.2.packets + x.1.taken.length = x.2.packets + y.1.taken.length
  bytes : y.2.bytes + (x.1.taken.map List.length).sum = x.2.bytes + (y.1.taken.map List.length).sum
  echoed : y.2.echoed + x.1.returned.length = x.2.echoed + y.1.returned.length

variable {o : LoopbackOptions} {l m : Line} {s : RelayStats}

theorem returned_of_wired {out inn : List Packet} (hw : l.tunnel.Wired o out inn) :
    l.returned = l.received ++ inn := by rw [returned, hw.queue_app]

theorem sound_of_wired {out inn : List Packet} (hw : l.tunnel.Wired o out inn)
    (ha : l.taken ++ out.filter (·.Relayable) = l.passing) : l.Sound o := by
  refine ⟨?_, ?_⟩
  · rw [hw.queue_engine, hw.queue_app]
    exact hw
  · rw [hw.queue_engine]
    exact ha

theorem Sound.relayable (h : l.Sound o) {p : Packet} (hp : p ∈ l.taken) : p.Relayable := by
  have hm : p ∈ l.passing := by
    rw [← h.accounted]
    exact List.mem_append_left _ hp
  simpa using (List.mem_filter.1 hm).2

/-- The counters stand still while the engine neither gets a packet nor sends one back. -/
theorem sound_of_still {out inn : List Packet} (hw : m.tunnel.Wired o out inn)
    (hpending : m.tunnel.relay.pending = l.tunnel.relay.pending) (hr : m.received ++ inn = l.returned)
    (ha : l.taken ++ out.filter (·.Relayable) = m.passing) :
    m.Sound o ∧ Counts (l, s) (m, s) := by
  have hreturned : m.returned = l.returned := (returned_of_wired hw).trans hr
  have htaken : m.taken = l.taken := by rw [taken, hreturned, hpending, taken]
  refine ⟨sound_of_wired hw (by rw [htaken]; exact ha), ?_, ?_, ?_⟩
  · show s.packets + _ = s.packets + m.taken.length
    rw [htaken]
  · show s.bytes + _ = s.bytes + (m.taken.map List.length).sum
    rw [htaken]
  · show s.echoed + _ = s.echoed + m.returned.length
    rw [hreturned]

/-- What the application sends is accounted for, if the pipe has room for it. -/
theorem Sound.send (h : l.Sound o) (hroom : l.tunnel.hasRoom .engine) (p : Packet) :
    (l.send p).Sound o ∧ Counts (l, s) (l.send p, s) := by
  obtain ⟨u, hw, hrelay, -, hu⟩ := h.wired.write hroom p
  have hs : l.send p = { l with tunnel := u, sent := l.sent ++ [p] } := by
    simp only [Line.send, hw]
    rfl
  rw [hs]
  refine sound_of_still hu (by rw [hrelay]) rfl ?_
  show l.taken ++ _ = (l.sent ++ [p]).filter _
  rw [List.filter_append, ← passing, ← h.accounted]
  by_cases hp : p.length ≤ Pipe.largestPacket
  · rw [if_pos hp, List.filter_append, List.append_assoc]
  · have hlarge : ¬p.Relayable := fun hr => hp (Nat.le_trans hr.2 (by decide))
    rw [if_neg hp]
    simp [hlarge]

/-- What the application reads was sent back to it, and nothing is lost. -/
theorem Sound.read (h : l.Sound o) {room : Nat}
    (hroom : ∀ p ∈ (l.tunnel.queue .app).head?, p.length ≤ room) :
    (l.read room).Sound o ∧ Counts (l, s) (l.read room, s) := by
  obtain ⟨hq, f, u, hw, hrelay, hu⟩ | ⟨q, rest, hq, u, hrelay, -, hu, hw⟩ := h.wired.receive room
  · have hs : l.read room = { l with tunnel := u } := by
      simp only [Line.read, hw, brought, List.append_nil]
      rfl
    rw [hs]
    refine sound_of_still hu (by rw [hrelay]) ?_ h.accounted
    rw [returned, hq]
  · have hle : q.length ≤ room := hroom q (by simp [hq])
    rw [if_pos hle] at hw
    have hs : l.read room = { l with tunnel := u, received := l.received ++ [q] } := by
      simp only [Line.read, hw]
      rfl
    rw [hs]
    refine sound_of_still hu (by rw [hrelay]) ?_ h.accounted
    rw [returned, hq, List.append_assoc]
    rfl

/-- A command leaves the packets where they are. -/
theorem Sound.commanded (h : l.Sound o) {t : Tunnel}
    (ht : t.Wired o (l.tunnel.queue .engine) (l.tunnel.queue .app) ∧ l.tunnel.SameFreight t) :
    ({ l with tunnel := t } : Line).Sound o ∧ Counts (l, s) ({ l with tunnel := t }, s) :=
  sound_of_still ht.1 (by rw [ht.2.relay]) rfl h.accounted

/-- What the engine takes is counted, and waits to be sent back. -/
theorem Sound.take (h : l.Sound o) (ho : o.echo) :
    (serve Tunnel.takeOne (l, s)).1.Sound o ∧ Counts (l, s) (serve Tunnel.takeOne (l, s)) := by
  let w : Tunnel := { l.tunnel with relay.stats := s }
  have hw : w.Wired o (l.tunnel.queue .engine) (l.tunnel.queue .app) :=
    ⟨h.wired.engine, h.wired.device⟩
  have ha := h.accounted
  have hs : serve Tunnel.takeOne (l, s) =
    ({ l with tunnel := w.takeOne }, w.takeOne.relay.stats) := rfl
  rw [hs]
  cases hq : l.tunnel.queue .engine with
  | nil =>
    rw [hq] at hw ha
    obtain ⟨hu, hrelay⟩ := hw.takeOne_nil ho
    rw [hrelay]
    exact sound_of_still hu (by rw [hrelay]) rfl ha
  | cons q out =>
    rw [hq] at hw ha
    obtain ⟨hu, hrelay⟩ := hw.takeOne_cons ho
    by_cases hrel : q.Relayable
    · rw [if_pos hrel] at hrelay
      have hr : ({ l with tunnel := w.takeOne } : Line).returned = l.returned :=
        returned_of_wired hu
      have ht : ({ l with tunnel := w.takeOne } : Line).taken = l.taken ++ [q] := by
        rw [taken, hr, hrelay, taken, List.append_assoc]
        rfl
      refine ⟨sound_of_wired hu ?_, ?_, ?_, ?_⟩
      · show _ = l.passing
        rw [ht, List.append_assoc]
        simpa [List.filter_cons, hrel] using ha
      · rw [ht, hrelay, List.length_append]
        show s.packets + 1 + l.taken.length = s.packets + (l.taken.length + 1)
        omega
      · rw [ht, hrelay, List.map_append, List.sum_append]
        show s.bytes + q.length + (l.taken.map List.length).sum =
          s.bytes + ((l.taken.map List.length).sum + (q.length + 0))
        omega
      · rw [hr, hrelay]
        rfl
    -- A packet that does not pass the device is gone, and is counted nowhere.
    · rw [if_neg hrel] at hrelay
      rw [hrelay]
      refine sound_of_still hu (by rw [hrelay]) rfl ?_
      show _ = l.passing
      simpa [List.filter_cons, hrel] using ha

/-- What the engine sends back is counted, if the pipe has room for it. -/
theorem Sound.giveBack (h : l.Sound o) (hroom : l.tunnel.hasRoom .app) :
    (serve Tunnel.returnOne (l, s)).1.Sound o ∧
      Counts (l, s) (serve Tunnel.returnOne (l, s)) := by
  let w : Tunnel := { l.tunnel with relay.stats := s }
  have hw : w.Wired o (l.tunnel.queue .engine) (l.tunnel.queue .app) :=
    ⟨h.wired.engine, h.wired.device⟩
  have hs : serve Tunnel.returnOne (l, s) =
    ({ l with tunnel := w.returnOne }, w.returnOne.relay.stats) := rfl
  rw [hs]
  cases hp : l.tunnel.relay.pending with
  | nil =>
    have hw' : w.returnOne = w := Tunnel.returnOne_of_idle hp
    rw [hw']
    exact sound_of_still hw rfl rfl h.accounted
  | cons q rest =>
    have hle : q.length ≤ Pipe.largestPacket := by
      have hm : q ∈ l.taken := by simp [taken, hp]
      exact Nat.le_trans (h.relayable hm).2 (by decide)
    obtain ⟨hu, hrelay⟩ := hw.returnOne hroom hp hle
    have hr : ({ l with tunnel := w.returnOne } : Line).returned = l.returned ++ [q] := by
      rw [returned_of_wired hu, returned, List.append_assoc]
    have ht : ({ l with tunnel := w.returnOne } : Line).taken = l.taken := by
      rw [taken, hr, hrelay, taken, hp, List.append_assoc]
      rfl
    refine ⟨sound_of_wired hu ?_, ?_, ?_, ?_⟩
    · rw [ht]
      exact h.accounted
    · rw [ht, hrelay]
    · rw [ht, hrelay]
    · rw [hr, hrelay, List.length_append]
      show s.echoed + 1 + l.returned.length = s.echoed + (l.returned.length + 1)
      omega

/-- A turn loses and makes up nothing. -/
theorem Turn.accounts {x y : Line × RelayStats} (h : Turn x y) (ho : o.echo) (hx : x.1.Sound o) :
    y.1.Sound o ∧ Counts x y := by
  cases h with
  | send p hroom => exact hx.send hroom p
  | read room hroom => exact hx.read hroom
  | take => exact hx.take ho
  | giveBack hroom => exact hx.giveBack hroom
  | reconnect => exact hx.commanded hx.wired.reconnect
  | pause reason => exact hx.commanded (hx.wired.pause reason)
  | resume => exact hx.commanded hx.wired.resume

/-! ### Lines become quiet -/

/-- Nothing is on its way. -/
def Quiet (l : Line) : Prop :=
  l.tunnel.queue .engine = [] ∧ l.tunnel.relay.pending = [] ∧ l.tunnel.queue .app = []

/-- How many turns it takes at most until nothing is on its way any more. -/
def remaining (l : Line) : Nat :=
  3 * (l.tunnel.queue .engine).length + 2 * l.tunnel.relay.pending.length +
    (l.tunnel.queue .app).length

theorem remaining_of_wired {out inn : List Packet} (hw : l.tunnel.Wired o out inn) :
    l.remaining = 3 * out.length + 2 * l.tunnel.relay.pending.length + inn.length := by
  rw [remaining, hw.queue_engine, hw.queue_app]

/-- The oldest packet goes on, the one that is farthest first: so there is room for it. -/
theorem Sound.exists_turn (h : l.Sound o) (ho : o.echo) (hn : ¬l.Quiet) :
    ∃ y, Turn (l, s) y ∧ y.1.sent = l.sent ∧ y.1.remaining < l.remaining := by
  let w : Tunnel := { l.tunnel with relay.stats := s }
  have hw : w.Wired o (l.tunnel.queue .engine) (l.tunnel.queue .app) :=
    ⟨h.wired.engine, h.wired.device⟩
  -- First what can be read, then what waits to be sent back, then what the engine can take.
  obtain ⟨hi, -⟩ | ⟨q, rest, hi, u, hrelay, -, hu, hr⟩ := h.wired.receive Tun.readRoom
  · cases hp : l.tunnel.relay.pending with
    | nil =>
      cases hq : l.tunnel.queue .engine with
      | nil => exact absurd ⟨hq, hp, hi⟩ hn
      | cons q out =>
        rw [hq] at hw
        obtain ⟨hu, hrelay⟩ := hw.takeOne_cons ho
        refine ⟨_, .take, rfl, ?_⟩
        have hle : w.takeOne.relay.pending.length ≤ 1 := by
          rw [hrelay]
          split
          · show (l.tunnel.relay.pending ++ [q]).length ≤ 1
            simp [hp]
          · show l.tunnel.relay.pending.length ≤ 1
            simp [hp]
        have hy : (serve Tunnel.takeOne (l, s)).1.remaining =
          3 * out.length + 2 * w.takeOne.relay.pending.length + (l.tunnel.queue .app).length :=
          remaining_of_wired (l := { l with tunnel := w.takeOne }) hu
        rw [hy, remaining, hq, hp]
        simp only [List.length_cons, List.length_nil]
        omega
    | cons q rest =>
      have hle : q.length ≤ Pipe.largestPacket := by
        have hm : q ∈ l.taken := by simp [taken, hp]
        exact Nat.le_trans (h.relayable hm).2 (by decide)
      -- Nothing is left to be read, so there is room.
      have hroom : l.tunnel.hasRoom .app := by
        rw [Tunnel.hasRoom, hi]
        decide
      obtain ⟨hu, hrelay⟩ := hw.returnOne hroom hp hle
      refine ⟨_, .giveBack hroom, rfl, ?_⟩
      have hy : (serve Tunnel.returnOne (l, s)).1.remaining =
        3 * (l.tunnel.queue .engine).length + 2 * w.returnOne.relay.pending.length +
          (l.tunnel.queue .app ++ [q]).length :=
        remaining_of_wired (l := { l with tunnel := w.returnOne }) hu
      rw [hy, hrelay, remaining, hp]
      simp only [List.length_append, List.length_cons, List.length_nil]
      omega
  · have hroom : ∀ p ∈ (l.tunnel.queue .app).head?, p.length ≤ Tun.readRoom := by
      intro p hp
      have hm : p ∈ l.taken := by simp [taken, returned, List.mem_of_mem_head? hp]
      exact (h.relayable hm).2
    refine ⟨_, .read Tun.readRoom hroom, rfl, ?_⟩
    have hs : (l.read Tun.readRoom).tunnel = u := by
      simp only [Line.read, hr]
      rfl
    rw [remaining, hs, hu.queue_engine, hu.queue_app, hrelay, remaining, hi]
    simp only [List.length_cons]
    omega

/-- A line becomes quiet if the application goes on reading, and does not send any more. -/
theorem Sound.drains (h : l.Sound o) (ho : o.echo) (s : RelayStats) :
    ∃ y, ReflTransGen Turn (l, s) y ∧ y.1.Quiet ∧ y.1.sent = l.sent := by
  -- The induction is on the turns that remain, whatever the counters say.
  induction hn : l.remaining using Nat.strongRecOn generalizing l s with
  | _ n ih =>
    by_cases hq : l.Quiet
    · exact ⟨(l, s), .refl, hq, rfl⟩
    · obtain ⟨y, hy, hsent, hlt⟩ := h.exists_turn (s := s) ho hq
      obtain ⟨z, hz, hzq, hzs⟩ := ih y.1.remaining (hn ▸ hlt) (hy.accounts ho h).1 y.2 rfl
      exact ⟨z, .head hy hz, hzq, hzs.trans hsent⟩

end Line

end TunnelRelay
