import Mathlib.Data.List.Forall2
import TunnelRelay.Proofs.Device.Lifetime
import TunnelRelay.Proofs.Relay.Running

/-!
# The accounts of a device

A device counts the packets that it passes on, and those that it drops, in each direction. This
module compares its counters with what was written down by those around it.

## Main definitions

- `Tun.Ledger`, `Tun.Chronicle.ledger` — what was written down about packets
- `Tun.Traffic.of` — counters as they should be
- `Tun.Balanced` — a device that carries packets, and its counters agree with the ledger
- `Tun.Accounted` — a device at any stage

## Main statements

- `Tun.Balanced.send`, `Tun.Balanced.deliver`, `Tun.Balanced.read`, `Tun.Balanced.turn` — what
  one operation adds
- `Tun.Accounted.after` — all operations
- `Tun.Balanced.drains` — the outbound loop takes whatever waits
- `Tun.accounts_balance` — the counters and both streams of packets of a device that is started

## Design notes

Each stream is cut in two. Of what the application sent, the outbound loop has taken `past` and
`out` is on its way; of what the device took from its owner, the application has read `gone` and
`inn` is on its way. The counters say what became of `past`, and of all that the owner delivered.
-/

namespace TunnelRelay.Tun

open Packet (IoFault Pipe Relayable)
open Device (ring poll)

/-- What was written down about packets, in its order. -/
structure Ledger where
  /-- What the application has sent. -/
  sent : List Packet := []
  /-- What the owner was handed, and whether it returned. -/
  handed : List (Frame × Bool) := []
  /-- What the owner delivered. -/
  taken : List Packet := []
  /-- Deliveries that were refused while the device was started. -/
  refused : Nat := 0
  /-- Deliveries that were refused since the device was told to disconnect. -/
  lapsed : Nat := 0
  /-- The reads of the application that took a packet from the pipe, with their room. -/
  reads : List (Nat × Except IoFault Packet) := []

def Ledger.note (l : Ledger) : Occurrence → Ledger
  | .called _ _ => l
  | .handed f returned => { l with handed := l.handed ++ [(f, returned)] }
  | .delivered _ _ p true => { l with taken := l.taken ++ [p] }
  | .delivered .started false _ false => { l with refused := l.refused + 1 }
  | .delivered .started true _ false => { l with lapsed := l.lapsed + 1 }
  | .delivered _ _ _ false => l
  | .sent p (.ok _) => { l with sent := l.sent ++ [p] }
  | .sent _ (.error _) => l
  | .read room (.ok p) => { l with reads := l.reads ++ [(room, .ok p)] }
  | .read room (.error (.truncated n m)) =>
    { l with reads := l.reads ++ [(room, .error (.truncated n m))] }
  | .read _ (.error _) => l

/-- The packets over which the owner did not panic. -/
def Ledger.returned (l : Ledger) : List Packet := (l.handed.filter (·.2)).map (·.1.payload)

def Ledger.panics (l : Ledger) : Nat := l.handed.countP (!·.2)

/-- How many of the packets are too large for the outbound loop. -/
def oversized (ps : List Packet) : Nat := ps.countP (readRoom < ·.length)

/-- The counters when these packets were handed over, and so many were dropped. -/
def Traffic.of (passed : List Packet) (dropped : Nat) : Traffic where
  packets := passed.length
  bytes := passed.flatten.length
  dropped

theorem Traffic.count_of (ps : List Packet) (n : Nat) (p : Packet) :
    (Traffic.of ps n).count p.length = .of (ps ++ [p]) n := by
  simp [Traffic.of, Traffic.count]

theorem Traffic.drop_of (ps : List Packet) (n : Nat) : (Traffic.of ps n).drop = .of ps (n + 1) :=
  rfl

variable {σ : Type} {w : Surroundings σ} {x : Device × Chronicle σ}

def Chronicle.ledger (x : Chronicle σ) : Ledger := x.entries.foldl Ledger.note {}

@[simp] theorem Chronicle.ledger_add (x : Chronicle σ) (o : Occurrence) :
    (x.add o).ledger = x.ledger.note o := by
  simp [Chronicle.ledger, Chronicle.add]

theorem foldl_note_called (cs : List Call) (hs : List (Option Halt)) (l : Ledger) :
    (List.zipWith .called cs hs).foldl Ledger.note l = l := by
  induction cs generalizing hs with
  | nil => rfl
  | cons c cs ih =>
    cases hs with
    | nil => rfl
    | cons h hs => exact ih hs

theorem ledger_ring (c : Call) : (ring w.watched.call x c).2.ledger = x.2.ledger :=
  Chronicle.ledger_add _ _

/-- What a read tells that takes this packet. -/
def told (p : Packet) (room : Nat) : Except IoFault Packet :=
  if p.length ≤ room then .ok p else .error (.truncated p.length room)

theorem Ledger.note_told (l : Ledger) (p : Packet) (room : Nat) :
    l.note (.read room (told p room)) = { l with reads := l.reads ++ [(room, told p room)] } := by
  rw [told]
  split <;> rfl

/-- The device carries packets, and its counters agree with what was written down. -/
structure Balanced (d : Device) (l : Ledger) (past out gone inn : List Packet) : Prop where
  carries : d.Carries out inn
  sent : l.sent = past ++ out
  handed : l.handed.map (·.1) = (past.filter (Relayable ·)).map Frame.ofPacket
  outbound : d.outbound = .of l.returned (l.panics + oversized past)
  taken : l.taken = gone ++ inn
  inbound : d.inbound = .of l.taken l.refused
  lapsed : d.halted = false → l.lapsed = 0
  reads : List.Forall₂ (fun p r => r.2 = told p r.1) gone l.reads

variable {past out gone inn : List Packet}

/-- The application sends a packet: it is on its way, or nothing happens. -/
theorem Balanced.send (h : Balanced x.1 x.2.ledger past out gone inn) (p : Packet) :
    let y := perform w (.send p) x
    Balanced y.1 y.2.ledger past out gone inn ∨
      Balanced y.1 y.2.ledger past (out ++ [p]) gone inn := by
  obtain ⟨d, c⟩ := x
  have failed (f : IoFault) (hr : d.appSend p = .ok (.error f, d)) :
      perform w (.send p) (d, c) = (d, c.add (.sent p (.error f))) := by simp only [perform, hr]
  dsimp only
  obtain ⟨-, hr⟩ | ⟨-, f, hr⟩ | ⟨-, u, hu, hr⟩ := h.carries.appSend p
  · rw [failed _ hr, Chronicle.ledger_add]
    exact .inl h
  · rw [failed f hr, Chronicle.ledger_add]
    exact .inl h
  · have he : perform w (.send p) (d, c) =
        ({ d with pipe := some u }, c.add (.sent p (.ok p.length))) := by simp only [perform, hr]
    have hsent : c.ledger.sent ++ [p] = past ++ (out ++ [p]) := by
      rw [← List.append_assoc]
      exact congrArg (· ++ [p]) h.sent
    rw [he, Chronicle.ledger_add]
    exact .inr { h with carries := hu, sent := hsent }

/-- The owner has a packet: it is on its way, or it is refused. -/
theorem Balanced.deliver (h : Balanced x.1 x.2.ledger past out gone inn) (p : Packet) :
    let y := perform w (.deliver p) x
    Balanced y.1 y.2.ledger past out gone inn ∨
      Balanced y.1 y.2.ledger past out gone (inn ++ [p]) := by
  obtain ⟨d, c⟩ := x
  have hstage : d.stage = .started := h.carries.stage
  dsimp only
  cases hh : d.halted with
  | true =>
    have he : perform w (.deliver p) (d, c) = (d, c.add (.delivered .started true p false)) := by
      simp only [perform, Device.deliver, hh, hstage, if_true]
    have hlapsed (hn : d.halted = false) : c.ledger.lapsed + 1 = 0 := by
      rw [hh] at hn
      cases hn
    rw [he, Chronicle.ledger_add]
    exact .inl { h with lapsed := hlapsed }
  | false =>
    obtain ⟨-, hr⟩ | ⟨u, hu, hr⟩ := h.carries.deliver hh p
    · have he : perform w (.deliver p) (d, c) = ({ d with inbound := d.inbound.drop },
          c.add (.delivered .started false p false)) := by simp only [perform, hr, hh, hstage]
      rw [he, Chronicle.ledger_add]
      exact .inl { h with
        carries := ⟨hstage, h.carries.pipe⟩
        inbound := congrArg Traffic.drop h.inbound }
    · have he : perform w (.deliver p) (d, c) =
          ({ d with pipe := some u, inbound := d.inbound.count p.length },
            c.add (.delivered .started false p true)) := by simp only [perform, hr, hh, hstage]
      have hin : d.inbound.count p.length = .of (c.ledger.taken ++ [p]) c.ledger.refused := by
        rw [← Traffic.count_of]
        exact congrArg (Traffic.count · p.length) h.inbound
      have htaken : c.ledger.taken ++ [p] = gone ++ (inn ++ [p]) := by
        rw [← List.append_assoc]
        exact congrArg (· ++ [p]) h.taken
      rw [he, Chronicle.ledger_add]
      exact .inr { h with carries := hu _, inbound := hin, taken := htaken }

/-- The application reads: it finds nothing, or it takes the oldest packet. -/
theorem Balanced.read (h : Balanced x.1 x.2.ledger past out gone inn) (room : Nat) :
    let y := perform w (.read room) x
    Balanced y.1 y.2.ledger past out gone inn ∨
      ∃ p rest, inn = p :: rest ∧ Balanced y.1 y.2.ledger past out (gone ++ [p]) rest := by
  obtain ⟨d, c⟩ := x
  dsimp only
  obtain ⟨-, f, hf, hr⟩ | ⟨p, rest, u, rfl, hu, hr⟩ := h.carries.appReceive room
  · have he : perform w (.read room) (d, c) = (d, c.add (.read room (.error f))) := by
      simp only [perform, hr]
    have hnote : c.ledger.note (.read room (.error f)) = c.ledger := by
      cases f with
      | truncated n m => exact absurd rfl (hf n m)
      | _ => rfl
    rw [he, Chronicle.ledger_add, hnote]
    exact .inl h
  · have he : perform w (.read room) (d, c) =
        ({ d with pipe := some u }, c.add (.read room (told p room))) := by
      simp only [perform, hr]
      rfl
    have htaken : c.ledger.taken = gone ++ [p] ++ rest := by
      rw [List.append_assoc]
      exact h.taken
    rw [he, Chronicle.ledger_add, Ledger.note_told]
    exact .inr ⟨p, rest, rfl, { h with
      carries := hu
      taken := htaken
      reads := List.rel_append h.reads (.cons rfl .nil) }⟩

theorem filter_relayable_concat (ps : List Packet) (p : Packet) :
    (ps ++ [p]).filter (Relayable ·) =
      ps.filter (Relayable ·) ++ if p.Relayable then [p] else [] := by
  rw [List.filter_append]
  by_cases hp : p.Relayable <;> simp [hp]

theorem oversized_concat (ps : List Packet) (p : Packet) :
    oversized (ps ++ [p]) = oversized ps + if readRoom < p.length then 1 else 0 := by
  rw [oversized, List.countP_append]
  by_cases hp : readRoom < p.length <;> simp [hp, oversized]

/-- What the owner does with a frame shows in the counters. -/
theorem Ledger.outbound_handed (l : Ledger) (p : Packet) (b : Bool) (n : Nat) :
    (if b then (Traffic.of l.returned (l.panics + n)).count p.length
      else (Traffic.of l.returned (l.panics + n)).drop) =
    .of (l.note (.handed (.ofPacket p) b)).returned
      ((l.note (.handed (.ofPacket p) b)).panics + n) := by
  cases b with
  | true =>
    have hreturned : (l.note (.handed (.ofPacket p) true)).returned = l.returned ++ [p] := by
      simp [Ledger.note, Ledger.returned]
    have hpanics : (l.note (.handed (.ofPacket p) true)).panics = l.panics := by
      simp [Ledger.note, Ledger.panics]
    rw [if_pos rfl, Traffic.count_of, hreturned, hpanics]
  | false =>
    have hreturned : (l.note (.handed (.ofPacket p) false)).returned = l.returned := by
      simp [Ledger.note, Ledger.returned]
    have hpanics : (l.note (.handed (.ofPacket p) false)).panics = l.panics + 1 := by
      simp [Ledger.note, Ledger.panics]
    rw [if_neg Bool.false_ne_true, Traffic.drop_of, hreturned, hpanics, Nat.add_right_comm]

/-- The outbound loop takes the oldest packet, whatever it is and whatever the owner does. -/
theorem Balanced.turn {p : Packet} (h : Balanced x.1 x.2.ledger past (p :: out) gone inn) :
    let y := perform w .turn x
    Balanced y.1 y.2.ledger (past ++ [p]) out gone inn ∧ y.2.ledger.sent = x.2.ledger.sent := by
  obtain ⟨d, c⟩ := x
  obtain ⟨u, hu, hr⟩ := h.carries.poll_cons w.watched.intake c
  have he : perform w .turn (d, c) = poll w.watched.intake (d, c) := if_pos h.carries.stage
  have hsent : c.ledger.sent = past ++ [p] ++ out := by
    rw [List.append_assoc]
    exact h.sent
  have hover := oversized_concat past p
  have hpast := filter_relayable_concat past p
  dsimp only
  rw [he, hr]
  -- The packet is passed over, dropped, or handed to the owner.
  by_cases hempty : p = []
  · rw [if_neg (by simp [hempty]), Nat.add_zero] at hover
    rw [if_neg (by simp [hempty, Relayable]), List.append_nil] at hpast
    rw [if_pos hempty]
    exact ⟨{ h with
      carries := hu d.outbound
      sent := hsent
      handed := hpast ▸ h.handed
      outbound := hover ▸ h.outbound }, rfl⟩
  · rw [if_neg hempty]
    by_cases hlarge : readRoom < p.length
    · rw [if_pos hlarge] at hover
      rw [if_neg fun hp => Nat.not_le.2 hlarge hp.2, List.append_nil] at hpast
      rw [if_pos hlarge]
      exact ⟨{ h with
        carries := hu _
        sent := hsent
        handed := hpast ▸ h.handed
        outbound := hover ▸ congrArg Traffic.drop h.outbound }, rfl⟩
    · rw [if_neg hlarge, Nat.add_zero] at hover
      rw [if_pos ⟨List.length_pos_iff.2 hempty, Nat.le_of_not_lt hlarge⟩] at hpast
      have hledger : (w.watched.intake (.ofPacket p) c).2.ledger =
          c.ledger.note (.handed (.ofPacket p) (w.watched.intake (.ofPacket p) c).1) :=
        Chronicle.ledger_add _ _
      have hout : d.outbound = _ := h.outbound
      have hhanded (b : Bool) : (c.ledger.handed ++ [(Frame.ofPacket p, b)]).map (·.1) =
          ((past ++ [p]).filter (Relayable ·)).map Frame.ofPacket := by
        rw [hpast, List.map_append, List.map_append]
        exact congrArg (· ++ [Frame.ofPacket p]) h.handed
      rw [if_neg hlarge, hledger, hout, Ledger.outbound_handed, ← hover]
      exact ⟨{ h with carries := hu _, sent := hsent, handed := hhanded _, outbound := rfl }, rfl⟩

theorem Balanced.turn_nil (h : Balanced x.1 x.2.ledger past [] gone inn) :
    perform w .turn x = x :=
  (if_pos h.carries.stage).trans (h.carries.poll_nil w.watched.intake x.2)

/-- The outbound loop takes whatever waits, in so many turns. -/
theorem Balanced.drains (h : Balanced x.1 x.2.ledger past out gone inn) :
    let y := after w (List.replicate out.length .turn) x
    Balanced y.1 y.2.ledger (past ++ out) [] gone inn ∧ y.2.ledger.sent = x.2.ledger.sent := by
  induction out generalizing x past with
  | nil =>
    rw [List.append_nil]
    exact ⟨h, rfl⟩
  | cons p out ih =>
    obtain ⟨hturn, hsent⟩ := h.turn (w := w)
    obtain ⟨hafter, hsame⟩ := ih hturn
    rw [List.append_assoc] at hafter
    exact ⟨hafter, hsame.trans hsent⟩

theorem Balanced.pump_eq (h : Balanced x.1 x.2.ledger past out gone inn) :
    Device.pump w.watched.intake x = after w (List.replicate out.length .turn) x := by
  rw [Device.pump, if_pos h.carries.stage, h.carries.waiting]
  induction out generalizing x past with
  | nil => rfl
  | cons p out ih =>
    have hturn : poll w.watched.intake x = perform w .turn x := (if_pos h.carries.stage).symm
    rw [List.length_cons, Device.pollTimes, if_neg (by simp [h.carries.endsLoop]), hturn]
    exact ih h.turn.1

/-! ### At any stage -/

/-- Nothing has passed a device that was not started, and its counters agree with what was written
down when it is. -/
structure Accounted (d : Device) (l : Ledger) : Prop where
  coherent : d.Coherent
  created : d.stage = .created → d.inbound = {} ∧ d.outbound = {} ∧ l = {}
  started : d.stage = .started → ∃ past out gone inn, Balanced d l past out gone inn

variable {d : Device} {l : Ledger}

theorem accounted_fresh (id : String) (blocking : Bool) (s : σ) :
    Accounted (fresh id blocking s).1 (fresh id blocking s).2.ledger where
  coherent := Device.coherent_fresh id blocking s
  created _ := ⟨rfl, rfl, rfl⟩
  started := nofun

theorem accounted_of_stopped (hd : d.Coherent) (hs : d.stage = .stopped) (l : Ledger) :
    Accounted d l where
  coherent := hd
  created hc := nomatch hs.symm.trans hc
  started hc := nomatch hs.symm.trans hc

theorem Balanced.accounted (h : Balanced d l past out gone inn) (hd : d.Coherent) :
    Accounted d l where
  coherent := hd
  created hc := nomatch h.carries.stage.symm.trans hc
  started _ := ⟨past, out, gone, inn, h⟩

theorem Accounted.halt (h : Accounted d l) (o : Option Halt) : Accounted (d.halt o) l := by
  have hd := h.coherent.halt o
  cases o with
  | none => exact h
  | some o =>
    cases o with
    | stop => exact accounted_of_stopped hd (Device.stage_stop d) l
    | disconnect =>
      refine ⟨hd, h.created, fun hs => ?_⟩
      obtain ⟨past, out, gone, inn, hb⟩ := h.started hs
      exact ⟨past, out, gone, inn, { hb with
        carries := ⟨hs, hb.carries.pipe⟩
        lapsed := nofun }⟩

theorem Accounted.foldl_halt (h : Accounted d l) (hs : List (Option Halt)) :
    Accounted (hs.foldl Device.halt d) l := by
  induction hs generalizing d with
  | nil => exact h
  | cons o hs ih => exact ih (h.halt o)

theorem Accounted.ring (h : Accounted x.1 x.2.ledger) (c : Call) :
    let y := ring w.watched.call x c
    Accounted y.1 y.2.ledger := by
  dsimp only
  rw [ledger_ring]
  exact h.halt _

/-- A device that begins to run carries nothing yet. -/
theorem balanced_running (hin : d.inbound = {}) (hout : d.outbound = {}) :
    Balanced d.running {} [] [] [] [] where
  carries := Device.carries_running d
  sent := rfl
  handed := rfl
  outbound := hout
  taken := rfl
  inbound := hin
  lapsed _ := rfl
  reads := .nil

theorem Accounted.start (h : Accounted x.1 x.2.ledger) (ds : List Directive) :
    let y := (x.1.start w.watched.call ds x.2).2
    Accounted y.1 y.2.ledger := by
  dsimp only
  obtain ⟨-, hr⟩ | ⟨hs, -, hc, e, he, hentries, hr⟩ := Device.start_cases w ds x
  · rw [hr]
    exact h
  · have hledger : e.2.ledger = x.2.ledger := by
      rw [Chronicle.ledger, hentries, List.foldl_append, foldl_note_called]
      rfl
    have hset : Accounted { x.1 with settings := Settings.ofDirectives ds } x.2.ledger :=
      ⟨h.coherent.withSettings _, h.created, fun hs => nomatch hc.1.symm.trans hs⟩
    obtain ⟨-, hr⟩ | ⟨hh, hr⟩ := hr
    · rw [hr]
      show Accounted e.1 e.2.ledger
      rw [hledger, he]
      exact hset.foldl_halt hs
    · -- Nobody answered with a halt, so the device is as it was, and its counters are still clear.
      obtain ⟨-, -, -, hhalted⟩ :=
        Device.CanStart.foldl_halt hc h.coherent (Settings.ofDirectives ds) hs
      rw [← he, hh] at hhalted
      rw [Device.foldl_halt_of_none (by simp [← hhalted])] at he
      obtain ⟨hin, hout, hl⟩ := h.created hc.1
      have hb : Balanced e.1.running e.2.ledger [] [] [] [] := by
        rw [hledger, hl, he]
        exact balanced_running hin hout
      rw [hr]
      exact Accounted.ring (x := (e.1.running, e.2)) (hb.accounted (Device.coherent_running e.1)) _

theorem Accounted.launch (h : Accounted x.1 x.2.ledger) (ds : List Directive) :
    let y := x.1.launch w.watched.call ds x.2
    Accounted y.1 y.2.ledger := by
  dsimp only
  obtain hl | ⟨c, hl⟩ := Device.launch_cases w.watched.call x.1 ds x.2
  · rw [hl]
    exact h.start ds
  · rw [hl]
    exact (h.start ds).ring c

/-- The operations that concern packets. -/
def Operation.isTraffic : Operation → Bool
  | .deliver _ | .send _ | .read _ | .turn => true
  | _ => false

/-- Packets do not pass a device that was not started. -/
theorem perform_of_created (hd : x.1.Coherent) (hs : x.1.stage = .created) {o : Operation}
    (ho : o.isTraffic) :
    (perform w o x).1 = x.1 ∧ (perform w o x).2.ledger = x.2.ledger := by
  have hopen : x.1.openPipe = none := by
    rw [Device.openPipe, hd.created hs]
    rfl
  have happ : x.1.appEnd = .error .notReady := by rw [Device.appEnd, hopen]
  have same (he : perform w o x = x) :
      (perform w o x).1 = x.1 ∧ (perform w o x).2.ledger = x.2.ledger := by
    rw [he]
    exact ⟨rfl, rfl⟩
  cases o with
  | deliver p =>
    have hdeliver : x.1.deliver p = (false, x.1) := by
      rw [Device.deliver, hopen]
      split <;> rfl
    have he : perform w (.deliver p) x =
        (x.1, x.2.add (.delivered .created x.1.halted p false)) := by
      simp only [perform, hdeliver, hs]
    rw [he, Chronicle.ledger_add]
    cases x.1.halted <;> exact ⟨rfl, rfl⟩
  | send p =>
    refine same ?_
    simp only [perform, Device.appSend, happ]
    rfl
  | read n =>
    refine same ?_
    simp only [perform, Device.appReceive, happ]
    rfl
  | turn => exact same (if_neg (by simp [hs]))
  | start | launch | stop | disconnect => cases ho

theorem Balanced.perform (h : Balanced x.1 x.2.ledger past out gone inn) {o : Operation}
    (ho : o.isTraffic) :
    let y := perform w o x
    ∃ past out gone inn, Balanced y.1 y.2.ledger past out gone inn := by
  cases o with
  | deliver p => exact (h.deliver p).elim (⟨_, _, _, _, ·⟩) (⟨_, _, _, _, ·⟩)
  | send p => exact (h.send p).elim (⟨_, _, _, _, ·⟩) (⟨_, _, _, _, ·⟩)
  | read n =>
    obtain hb | ⟨p, rest, -, hb⟩ := h.read (w := w) n
    · exact ⟨_, _, _, _, hb⟩
    · exact ⟨_, _, _, _, hb⟩
  | turn =>
    cases out with
    | nil =>
      rw [h.turn_nil]
      exact ⟨_, _, _, _, h⟩
    | cons p out => exact ⟨_, _, _, _, h.turn.1⟩
  | start | launch | stop | disconnect => cases ho

/-- **Every operation** keeps the accounts. -/
theorem Accounted.perform (h : Accounted x.1 x.2.ledger) (o : Operation) :
    let y := perform w o x
    Accounted y.1 y.2.ledger := by
  have traffic (ho : o.isTraffic) :
      Accounted (Tun.perform w o x).1 (Tun.perform w o x).2.ledger := by
    obtain ⟨hd, hadvances⟩ := h.coherent.perform (w := w) o
    cases hs : x.1.stage with
    | created =>
      obtain ⟨hdevice, hledger⟩ := perform_of_created (w := w) h.coherent hs ho
      rw [hdevice, hledger]
      exact h
    | started =>
      obtain ⟨past, out, gone, inn, hb⟩ := h.started hs
      obtain ⟨_, _, _, _, hb⟩ := hb.perform (w := w) ho
      exact hb.accounted hd
    | stopped =>
      have hrank := hadvances.rank
      rw [hs] at hrank
      refine accounted_of_stopped hd ?_ _
      cases hy : (Tun.perform w o x).1.stage with
      | stopped => rfl
      | created | started =>
        rw [hy] at hrank
        exact absurd hrank (by decide)
  cases o with
  | start ds => exact h.start ds
  | launch ds => exact h.launch ds
  | stop => exact h.halt (some .stop)
  | disconnect => exact h.halt (some .disconnect)
  | deliver | send | read | turn => exact traffic rfl

theorem Accounted.after (os : List Operation) (h : Accounted x.1 x.2.ledger) :
    let y := after w os x
    Accounted y.1 y.2.ledger :=
  after_keeps (I := fun y => Accounted y.1 y.2.ledger) (fun o _ hy => hy.perform o) os h

/-- The accounts of a device that is started, whatever was done with it since it was built, and
whatever its owner makes of the frames. The outbound loop does not end, and in as many turns as
packets wait it takes them all. Then the owner was handed each packet of the application that is
neither empty nor too large, once and in order, with free room on its sides; the outbound counters
tell those over which it did not panic, and drop the others and what was too large. The inbound
counters tell what the owner delivered, and drop what was refused; what was delivered is what the
application has read, whole and in order, and what it will read next. -/
theorem accounts_balance (w : Surroundings σ) (id : String) (blocking : Bool) (s : σ)
    (os : List Operation) (hs : (after w os (fresh id blocking s)).1.stage = .started) :
    let x := after w os (fresh id blocking s)
    let y := after w (List.replicate x.1.waiting .turn) x
    let l := x.2.ledger
    x.1.endsLoop = false ∧
    (Device.pump w.watched.intake x = y ∧ y.1.stage = .started ∧ y.1.waiting = 0 ∧
      y.2.ledger.sent = l.sent) ∧
    (x.1.waiting = 0 →
      l.handed.map (fun c => (c.1.payload, c.1.headroom, c.1.tailroom)) =
        (l.sent.filter (Relayable ·)).map (fun p => (p, 256, 128)) ∧
      x.1.outbound = .of l.returned (l.panics + oversized l.sent)) ∧
    x.1.inbound = .of l.taken l.refused ∧ (x.1.halted = false → l.lapsed = 0) ∧
    ∃ gone inn, l.taken = gone ++ inn ∧ x.1.pipe.map (·.app.inbox) = some inn ∧
      List.Forall₂ (fun p r => r.2 = told p r.1) gone l.reads := by
  intro x y l
  have hx : Accounted x.1 l := (accounted_fresh id blocking s).after os
  obtain ⟨past, out, gone, inn, hb⟩ := hx.started hs
  have hpump : Device.pump w.watched.intake x = y := by
    have := hb.pump_eq (w := w)
    rwa [← hb.carries.waiting] at this
  have hy : Balanced y.1 y.2.ledger (past ++ out) [] gone inn ∧ y.2.ledger.sent = l.sent := by
    have := hb.drains (w := w)
    rwa [← hb.carries.waiting] at this
  refine ⟨hb.carries.endsLoop, ⟨hpump, hy.1.carries.stage, hy.1.carries.waiting, hy.2⟩,
    fun hw => ?_, hb.inbound, hb.lapsed, gone, inn, hb.taken, ?_, hb.reads⟩
  · -- Nothing waits, so the outbound loop has taken all that was sent.
    have hout : out = [] := by
      rw [hb.carries.waiting] at hw
      exact List.length_eq_zero_iff.1 hw
    have hsent : l.sent = past := by rw [hb.sent, hout, List.append_nil]
    rw [hsent]
    refine ⟨?_, hb.outbound⟩
    have hmap : l.handed.map (fun c => (c.1.payload, c.1.headroom, c.1.tailroom)) =
        (l.handed.map (·.1)).map fun f => (f.payload, f.headroom, f.tailroom) := by
      rw [List.map_map]
      rfl
    rw [hmap, hb.handed, List.map_map]
    refine List.map_congr_left fun p _ => ?_
    simp [defaultHeadroom, defaultTailroom]
  · obtain ⟨p, hp, -, -, hinn, -⟩ := hb.carries.pipe
    rw [hp, ← hinn]
    rfl

/-- An owner that panics over one packet. -/
def touchy : Surroundings Unit where
  call _ _ := (none, ())
  intake f _ := (f.payload ≠ [0xff], ())

theorem accounts_balance_of_panic :
    let x := after touchy [.deliver [7], .launch [], .send [1, 2], .send [0xff], .send [],
      .send [3], .turn, .turn, .deliver [9], .turn, .read 10, .turn] (fresh "office" true ())
    x.1.stage = .started ∧ x.2.ledger.handed.map (·.1.payload) = [[1, 2], [0xff], [3]] ∧
      x.1.outbound = .of x.2.ledger.returned 1 ∧ x.1.inbound = .of [[9]] 0 := by
  have hs : (after touchy [.deliver [7], .launch [], .send [1, 2], .send [0xff], .send [],
      .send [3], .turn, .turn, .deliver [9], .turn, .read 10, .turn]
      (fresh "office" true ())).1.stage = .started := by decide +kernel
  obtain ⟨-, -, hquiet, hin, -, -⟩ := accounts_balance touchy "office" true () _ hs
  obtain ⟨-, hout⟩ := hquiet (by decide +kernel)
  exact ⟨hs, by decide +kernel, hout.trans (by decide +kernel), hin.trans (by decide +kernel)⟩

end TunnelRelay.Tun
