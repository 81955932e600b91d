import Mathlib.Data.List.Forall2
import TunnelRelay.Proofs.Device.Accounts
import TunnelRelay.Proofs.Packet.Holders

/-!
# What passes through a pipe

Packets that are sent at one end of a pipe are received at the other end one by one, in their order
and each as a whole, whoever holds the ends and in whatever order handles are made and given back.

## Main definitions

- `Packet.Bench.arrivals`, `Packet.Bench.receipts` — what was sent to an end, and received there
- `Packet.Bench.Effect` — what one call does to the packets on their way
- `Packet.Bench.Flow` — what was sent to an end is what was received there and what still waits

## Main statements

- `Packet.Bench.perform_effect` — every call has one of these effects
- `Packet.Bench.Sound.perform`, `Packet.Bench.Sound.run` — the flow is kept by a call, and by all
- `Packet.Bench.run_close` — a close makes no difference to those who hold both ends
- `Packet.Bench.carries_whole_packets` — order, boundaries, and who keeps an end alive

## Design notes

What was received is told from the answers alone. An empty packet may also mean that the stream is
over; this is told apart by what was sent, which has all been received by then.
-/

namespace TunnelRelay.Packet

open Tun (told)

namespace Pipe

variable {p p' : Pipe}

theorem isLive_update {e : End} {f : Side → Side}
    (h : (f (p.side e)).handles = (p.side e).handles) (g : End) :
    (p.update e f).isLive g = p.isLive g := by
  rw [isLive, isLive, handles_update h, isOpen_update]

theorem peerClosed_update {e : End} {f : Side → Side}
    (h : (f (p.side e)).handles = (p.side e).handles) (g : End) :
    (p.update e f).peerClosed g = p.peerClosed g := by
  rw [peerClosed, peerClosed, isLive_update h]

/-- A packet joins the other end's inbox, or an error is told and nothing is lost. -/
theorem send_effect (p : Pipe) (e : End) (q : Packet) :
    (∃ f, (p.send e q).1 = .error f) ∧ Keeps p (p.send e q).2 ∨
      p.send e q =
        (.ok q.length, p.update e.peer fun s => { s with inbox := s.inbox ++ [q] }) := by
  unfold send
  split
  · exact .inl ⟨⟨_, rfl⟩, keeps_report p e⟩
  · split
    · exact .inl ⟨⟨_, rfl⟩, .refl p⟩
    · split
      · exact .inl ⟨⟨_, rfl⟩, .refl p⟩
      · split
        · exact .inl ⟨⟨_, rfl⟩, .refl p⟩
        · exact .inr rfl

/-- A packet is sent if it is not too large and there is room for it, and somebody is there. -/
theorem send_eq_ok {e : End} (hr : (p.side e).reset = false) (hp : p.peerClosed e = false)
    {q : Packet} (hq : q.length ≤ largestPacket)
    (hroom : charge (p.side e.peer).inbox < sendBuffer) : (p.send e q).1 = .ok q.length := by
  rw [send, if_neg (by simp [hr]), if_neg (Nat.not_lt.mpr hq), if_neg (by simp [hp]),
    if_neg (Nat.not_le.mpr hroom)]

/-- What a receive tells when these packets wait. -/
def next (p : Pipe) (e : End) (left : List Packet) (room : Nat) : Except IoFault Packet :=
  if (p.side e).reset then .error .connectionReset
  else match left with
    | q :: _ => told q room
    | [] =>
      if p.peerClosed e then .ok []
      else .error (if (p.side e).nonblocking then .wouldBlock else .blocks)

theorem receive_of_reset {e : End} (hr : (p.side e).reset = true) (room : Nat) :
    p.receive e room =
      (.error .connectionReset, p.update e fun s => { s with reset := false }) := by
  rw [receive, if_pos hr]

theorem receive_of_nil {e : End} (hr : (p.side e).reset = false) (hi : (p.side e).inbox = [])
    (room : Nat) : p.receive e room = (p.next e [] room, p) := by
  simp only [receive, next, hr, hi, Bool.false_eq_true, if_false]
  split
  · rfl
  · rfl

theorem receive_eq_next (p : Pipe) (e : End) (room : Nat) :
    (p.receive e room).1 = p.next e (p.side e).inbox room := by
  cases hr : (p.side e).reset with
  | true =>
    rw [receive_of_reset hr]
    exact (if_pos hr).symm
  | false =>
    cases hi : (p.side e).inbox with
    | nil => rw [receive_of_nil hr hi]
    | cons q rest =>
      rw [receive_of_cons hr hi]
      exact (if_neg (by simp [hr])).symm

end Pipe

namespace Bench

/-! ### What was sent to an end, and received there -/

/-- The packet that was sent to an end. -/
def arrival (e : End) : Call × Answer → Option Packet
  | (.send _ q, .sent f (.ok _)) => if f.peer = e then some q else none
  | _ => none

/-- A receive took a packet, or the stream was over. -/
def takes : Except IoFault Packet → Bool
  | .ok _ | .error (.truncated _ _) => true
  | .error _ => false

/-- The room and the answer of a receive at an end. -/
def receipt (e : End) : Call × Answer → Option (Nat × Except IoFault Packet)
  | (.receive _ room, .received f r) => if f = e ∧ takes r then some (room, r) else none
  | _ => none

/-- The packets whose sending to an end succeeded. -/
def arrivals (e : End) (history : List (Call × Answer)) : List Packet :=
  history.filterMap (arrival e)

/-- What was received at an end, each time with the room that there was. -/
def receipts (e : End) (history : List (Call × Answer)) : List (Nat × Except IoFault Packet) :=
  history.filterMap (receipt e)

theorem arrivals_append (e : End) (h : List (Call × Answer)) (x : Call × Answer) :
    arrivals e (h ++ [x]) = arrivals e h ++ (arrival e x).toList := by
  rw [arrivals, List.filterMap_append, ← arrivals]
  cases hx : arrival e x <;> simp [List.filterMap, hx]

theorem receipts_append (e : End) (h : List (Call × Answer)) (x : Call × Answer) :
    receipts e (h ++ [x]) = receipts e h ++ (receipt e x).toList := by
  rw [receipts, List.filterMap_append, ← receipts]
  cases hx : receipt e x <;> simp [List.filterMap, hx]

theorem takes_told (q : Packet) (room : Nat) : takes (told q room) = true := by
  rw [told]
  split <;> rfl

theorem receipt_self (e : End) (name : String) (room : Nat) {r : Except IoFault Packet}
    (hr : takes r = true) : receipt e (.receive name room, .received e r) = some (room, r) :=
  if_pos ⟨rfl, hr⟩

theorem receipt_peer (e : End) (name : String) (room : Nat) (r : Except IoFault Packet) :
    receipt e.peer (.receive name room, .received e r) = none :=
  if_neg fun h => End.peer_ne e h.1.symm

/-! ### What one call does -/

variable {b b' : Bench}

/-- What a call does to the packets on their way. -/
inductive Effect (b : Bench) : Call → Answer → Bench → Prop
  /-- No packet is moved. -/
  | quiet {c : Call} {a : Answer} {b' : Bench} (keeps : b.pipe.Keeps b'.pipe)
    (arrival : ∀ e, arrival e (c, a) = none) (receipt : ∀ e, receipt e (c, a) = none) :
    Effect b c a b'
  /-- A packet joins an inbox. -/
  | sent {name : String} {x : Handle} (q : Packet) (handle : b.handle? name = some x) :
    Effect b (.send name q) (.sent x.side (.ok q.length))
      { b with pipe := b.pipe.update x.side.peer fun s => { s with inbox := s.inbox ++ [q] } }
  /-- The oldest packet leaves an inbox. -/
  | taken {name : String} {x : Handle} {q : Packet} {rest : List Packet} (room : Nat)
    (handle : b.handle? name = some x) (inbox : (b.pipe.side x.side).inbox = q :: rest) :
    Effect b (.receive name room) (.received x.side (told q room))
      { b with pipe := b.pipe.update x.side fun s => { s with inbox := rest } }
  /-- The stream is over. -/
  | finished {name : String} {x : Handle} (room : Nat) (handle : b.handle? name = some x)
    (inbox : (b.pipe.side x.side).inbox = []) (closed : b.pipe.peerClosed x.side = true) :
    Effect b (.receive name room) (.received x.side (.ok [])) b

theorem keeps_drop (b : Bench) (name : String) : b.pipe.Keeps (b.drop name).2.pipe := by
  unfold Bench.drop
  cases b.handle? name with
  | some x => exact Pipe.keeps_release ..
  | none => exact .refl _

theorem keeps_put {x : Handle} (h : b.pipe.isLive x.side = true) (name : String) :
    b.pipe.Keeps (b.put name x).pipe :=
  (Pipe.keeps_acquire h).trans (keeps_drop { b with pipe := b.pipe.acquire x.side } name)

theorem keeps_accept_give (b : Bench) (name : String) (x : Handle) :
    b.pipe.Keeps (b.accept (b.give name x)).2.pipe := by
  rw [accept_give]
  split
  · next hopen => exact keeps_put (by rw [Pipe.isLive, hopen, Bool.true_or]) name
  · exact .refl _

theorem send_effect {name : String} {x : Handle} (hx : b.handle? name = some x) (q : Packet) :
    Effect b (.send name q) (b.perform (.send name q)).1 (b.perform (.send name q)).2 := by
  simp only [Bench.perform, through_of_handle hx]
  rcases Pipe.send_effect b.pipe x.side q with ⟨⟨f, hf⟩, hkeeps⟩ | hsent
  · rw [hf]
    exact .quiet hkeeps (fun _ => rfl) fun _ => rfl
  · rw [hsent]
    exact .sent q hx

theorem receive_effect {name : String} {x : Handle} (hx : b.handle? name = some x) (room : Nat) :
    Effect b (.receive name room) (b.perform (.receive name room)).1
      (b.perform (.receive name room)).2 := by
  simp only [Bench.perform, through_of_handle hx]
  cases hr : (b.pipe.side x.side).reset with
  | true =>
    rw [Pipe.receive_of_reset hr]
    exact .quiet (Pipe.keeps_report ..) (fun _ => rfl) fun e => if_neg (by simp [takes])
  | false =>
    cases hi : (b.pipe.side x.side).inbox with
    | cons q rest =>
      rw [Pipe.receive_of_cons hr hi]
      exact .taken room hx hi
    | nil =>
      rw [Pipe.receive_of_nil hr hi, Pipe.next, if_neg (by simp [hr])]
      cases hp : b.pipe.peerClosed x.side with
      | true => exact .finished room hx hi hp
      | false =>
        refine .quiet (.refl _) (fun _ => rfl) fun e => if_neg ?_
        cases (b.pipe.side x.side).nonblocking <;> simp [takes]

/-- Every call has one of these effects. -/
theorem perform_effect (hb : Counted b) (c : Call) :
    Effect b c (b.perform c).1 (b.perform c).2 := by
  cases c with
  | take name e => exact .quiet (keeps_accept_give ..) (fun _ => rfl) fun _ => rfl
  | duplicate name => exact .quiet (keeps_accept_give ..) (fun _ => rfl) fun _ => rfl
  | isAppEnd name =>
    refine .quiet ?_ (fun _ => rfl) fun _ => rfl
    simp only [Bench.perform]
    cases b.isAppEnd name <;> exact .refl _
  | copy source name =>
    refine .quiet ?_ (fun _ => rfl) fun _ => rfl
    simp only [Bench.perform, copy]
    cases hx : b.handle? source with
    | some x => exact keeps_put (hb.isLive hx) name
    | none => exact .refl _
  | drop name => exact .quiet (keeps_drop ..) (fun _ => rfl) fun _ => rfl
  | close => exact .quiet (Pipe.keeps_close _) (fun _ => rfl) fun _ => rfl
  | send name q =>
    cases hx : b.handle? name with
    | some x => exact send_effect hx q
    | none =>
      simp only [Bench.perform, through_of_none hx]
      exact .quiet (.refl _) (fun _ => rfl) fun _ => rfl
  | receive name room =>
    cases hx : b.handle? name with
    | some x => exact receive_effect hx room
    | none =>
      simp only [Bench.perform, through_of_none hx]
      exact .quiet (.refl _) (fun _ => rfl) fun _ => rfl
  | setNonblocking name on =>
    refine .quiet ?_ (fun _ => rfl) fun _ => rfl
    exact through_ind (P := fun b' => b.pipe.Keeps b'.pipe) (.refl _)
      (fun e => Pipe.keeps_setNonblocking _ e on) name
  | peerClosed name =>
    refine .quiet ?_ (fun _ => rfl) fun _ => rfl
    exact through_ind (P := fun b' => b.pipe.Keeps b'.pipe) (.refl _) (fun _ => .refl _) name

/-! ### What is sent is received or waits -/

/-- Of what arrived at an end, `gone` was received and `left` was not. It waits there as long as
the end is held. What was got are those packets, and then perhaps that the stream is over. -/
structure Flow (p : Pipe) (e : End) (arrived : List Packet)
    (got : List (Nat × Except IoFault Packet)) (gone left : List Packet)
    (taken rest : List (Nat × Except IoFault Packet)) : Prop where
  arrived_eq : arrived = gone ++ left
  got_eq : got = taken ++ rest
  whole : List.Forall₂ (fun q r => r.2 = told q r.1) gone taken
  empty : ∀ r ∈ rest, r.2 = .ok []
  finished : rest ≠ [] → left = [] ∧ p.peerClosed e = true
  waiting : p.isLive e = true → (p.side e).inbox = left

section Flow

variable {p p' : Pipe} {e : End} {arrived gone left : List Packet}
  {got taken rest : List (Nat × Except IoFault Packet)}

theorem Flow.keeps (h : Flow p e arrived got gone left taken rest) (hk : p.Keeps p') :
    Flow p' e arrived got gone left taken rest :=
  { h with
    finished := fun hne => (h.finished hne).imp_right hk.peerClosed
    waiting := fun hl => (hk.inbox hl).trans (h.waiting (hk.live hl)) }

/-- What happens in the other end's inbox. -/
theorem Flow.update_peer (h : Flow p e arrived got gone left taken rest) {f : Side → Side}
    (hf : (f (p.side e.peer)).handles = (p.side e.peer).handles) :
    Flow (p.update e.peer f) e arrived got gone left taken rest :=
  { h with
    finished := fun hne => (h.finished hne).imp_right fun hp => by rwa [Pipe.peerClosed_update hf]
    waiting := fun hl => by
      rw [Pipe.isLive_update hf] at hl
      rw [Pipe.side_update_of_peer]
      exact h.waiting hl }

/-- A packet is sent by somebody who holds the other end. -/
theorem Flow.send (h : Flow p e arrived got gone left taken rest)
    (hl : p.isLive e.peer = true) (q : Packet) :
    Flow (p.update e fun s => { s with inbox := s.inbox ++ [q] }) e (arrived ++ [q]) got gone
      (left ++ [q]) taken rest where
  arrived_eq := by rw [h.arrived_eq, List.append_assoc]
  got_eq := h.got_eq
  whole := h.whole
  empty := h.empty
  finished hne := by
    have hclosed := (h.finished hne).2
    rw [Pipe.peerClosed, hl] at hclosed
    exact absurd hclosed (by decide)
  waiting hlive := by
    rw [Pipe.isLive_update rfl] at hlive
    rw [Pipe.side_update_self, h.waiting hlive]

/-- The oldest packet is received. -/
theorem Flow.take (h : Flow p e arrived got gone left taken rest) (hl : p.isLive e = true)
    {q : Packet} {later : List Packet} (hi : (p.side e).inbox = q :: later) (room : Nat) :
    Flow (p.update e fun s => { s with inbox := later }) e arrived (got ++ [(room, told q room)])
      (gone ++ [q]) later (taken ++ [(room, told q room)]) rest := by
  have hleft : left = q :: later := (h.waiting hl).symm.trans hi
  -- the stream was never over, or else nothing would be left
  have hrest : rest = [] := by
    by_contra hne
    exact absurd ((h.finished hne).1.symm.trans hleft) nofun
  subst hleft hrest
  exact {
    arrived_eq := by rw [h.arrived_eq, List.append_assoc, List.singleton_append]
    got_eq := by rw [h.got_eq, List.append_nil, List.append_nil]
    whole := List.rel_append h.whole (.cons rfl .nil)
    empty := nofun
    finished := fun hne => absurd rfl hne
    waiting := fun _ => by rw [Pipe.side_update_self] }

/-- The stream is over. -/
theorem Flow.finish (h : Flow p e arrived got gone left taken rest) (hl : p.isLive e = true)
    (hi : (p.side e).inbox = []) (hp : p.peerClosed e = true) (room : Nat) :
    Flow p e arrived (got ++ [(room, .ok [])]) gone left taken (rest ++ [(room, .ok [])]) :=
  { h with
    got_eq := by rw [h.got_eq, List.append_assoc]
    empty := fun r hr => by
      rcases List.mem_append.mp hr with hr | hr
      · exact h.empty r hr
      · rw [List.mem_singleton.mp hr]
    finished := fun _ => ⟨(h.waiting hl).symm.trans hi, hp⟩ }

end Flow

/-- Handles are counted, nothing is reset but what lost its other end, and at each end what
arrived is received or waits. -/
structure Sound (b : Bench) (history : List (Call × Answer)) : Prop where
  counted : Counted b
  reset : ∀ e, (b.pipe.side e).reset = true → b.pipe.peerClosed e = true
  flow : ∀ e, ∃ gone left taken rest,
    Flow b.pipe e (arrivals e history) (receipts e history) gone left taken rest

theorem Sound.start (blocking : Bool) : Sound (start blocking) [] where
  counted := .start blocking
  reset e hr := by cases e <;> exact absurd hr nofun
  flow e := ⟨[], [], [], [], rfl, rfl, .nil, nofun, fun h => absurd rfl h, fun _ => by
    cases e <;> rfl⟩

variable {history : List (Call × Answer)} {c : Call} {a : Answer}

theorem Effect.reset (he : Effect b c a b')
    (h : ∀ e, (b.pipe.side e).reset = true → b.pipe.peerClosed e = true) (e : End)
    (hr : (b'.pipe.side e).reset = true) : b'.pipe.peerClosed e = true := by
  cases he with
  | quiet keeps _ _ => exact (keeps.reset hr).elim (fun hr => keeps.peerClosed (h e hr)) id
  | @sent _ x q handle =>
    rw [Pipe.peerClosed_update rfl]
    refine h e ?_
    rcases End.eq_or_eq_peer x.side e with rfl | rfl
    · rwa [Pipe.side_update_of_peer] at hr
    · rwa [Pipe.side_update_self] at hr
  | @taken _ x _ _ room handle inbox =>
    rw [Pipe.peerClosed_update rfl]
    refine h e ?_
    rcases End.eq_or_eq_peer x.side e with rfl | rfl
    · rwa [Pipe.side_update_self] at hr
    · rwa [Pipe.side_update_peer] at hr
  | finished room handle inbox closed => exact h e hr

theorem Effect.flow (he : Effect b c a b') (hb : Counted b) {e : End} {gone left : List Packet}
    {taken rest : List (Nat × Except IoFault Packet)}
    (h : Flow b.pipe e (arrivals e history) (receipts e history) gone left taken rest) :
    ∃ gone left taken rest, Flow b'.pipe e (arrivals e (history ++ [(c, a)]))
      (receipts e (history ++ [(c, a)])) gone left taken rest := by
  rw [arrivals_append, receipts_append]
  cases he with
  | quiet keeps harrival hreceipt =>
    rw [harrival, hreceipt, Option.toList_none, Option.toList_none, List.append_nil,
      List.append_nil]
    exact ⟨_, _, _, _, h.keeps keeps⟩
  -- from here on one end has sent or received, and the packets on their way to `e` are in the
  -- inbox of that end, or of its peer
  | @sent name x q handle =>
    have hreceipt : receipt e (.send name q, .sent x.side (.ok q.length)) = none := rfl
    rw [hreceipt, Option.toList_none, List.append_nil]
    rcases End.eq_or_eq_peer x.side e with rfl | rfl
    · have harrival : arrival x.side (.send name q, .sent x.side (.ok q.length)) = none :=
        if_neg (End.peer_ne x.side)
      rw [harrival, Option.toList_none, List.append_nil]
      have hother := h.update_peer (f := fun s => { s with inbox := s.inbox ++ [q] }) rfl
      exact ⟨_, _, _, _, hother⟩
    · have harrival : arrival x.side.peer (.send name q, .sent x.side (.ok q.length)) = some q :=
        if_pos rfl
      rw [harrival, Option.toList_some]
      refine ⟨_, _, _, _, h.send ?_ q⟩
      rw [End.peer_peer]
      exact hb.isLive handle
  | @taken name x q later room handle inbox =>
    have harrival : arrival e (.receive name room, .received x.side (told q room)) = none := rfl
    rw [harrival, Option.toList_none, List.append_nil]
    rcases End.eq_or_eq_peer x.side e with rfl | rfl
    · rw [receipt_self _ _ _ (takes_told q room), Option.toList_some]
      exact ⟨_, _, _, _, h.take (hb.isLive handle) inbox room⟩
    · rw [receipt_peer, Option.toList_none, List.append_nil]
      have hother := h.update_peer (f := fun s => { s with inbox := later }) rfl
      rw [End.peer_peer] at hother
      exact ⟨_, _, _, _, hother⟩
  | @finished name x room handle inbox closed =>
    have harrival : arrival e (.receive name room, .received x.side (.ok [])) = none := rfl
    rw [harrival, Option.toList_none, List.append_nil]
    rcases End.eq_or_eq_peer x.side e with rfl | rfl
    · rw [receipt_self _ _ _ rfl, Option.toList_some]
      exact ⟨_, _, _, _, h.finish (hb.isLive handle) inbox closed room⟩
    · rw [receipt_peer, Option.toList_none, List.append_nil]
      exact ⟨_, _, _, _, h⟩

/-- What is sent and received goes on with each call. -/
theorem Sound.perform (h : Sound b history) (c : Call) :
    Sound (b.perform c).2 (history ++ [(c, (b.perform c).1)]) := by
  have heffect := perform_effect h.counted c
  refine ⟨h.counted.perform c, heffect.reset h.reset, fun e => ?_⟩
  obtain ⟨gone, left, taken, rest, hflow⟩ := h.flow e
  exact heffect.flow h.counted hflow

theorem Sound.run (h : Sound b history) (cs : List Call) :
    Sound (b.run cs).2 (history ++ (b.run cs).1) := by
  induction cs generalizing b history with
  | nil =>
    show Sound b (history ++ [])
    rwa [List.append_nil]
  | cons c cs ih =>
    have hrest := ih (h.perform c)
    rw [List.append_assoc, List.singleton_append] at hrest
    exact hrest

end Bench

/-! ### Those who hold both ends do not notice a close -/

namespace Pipe

variable {p : Pipe}

/-- The pipe no longer holds its ends. -/
def shut (p : Pipe) : Pipe := { p with isOpen := false }

theorem side_shut (p : Pipe) (e : End) : p.shut.side e = p.side e := by cases e <;> rfl

theorem update_shut (p : Pipe) (e : End) (f : Side → Side) :
    p.shut.update e f = (p.update e f).shut := by cases e <;> rfl

/-- There is a handle on each end. -/
def Held (p : Pipe) : Prop := ∀ e, 0 < (p.side e).handles

theorem Held.isLive (h : p.Held) (e : End) : p.isLive e = true := by
  rw [Pipe.isLive, Bool.or_eq_true, decide_eq_true_eq]
  exact .inr (h e)

theorem Held.shut (h : p.Held) : p.shut.Held := fun e => by
  rw [side_shut]
  exact h e

theorem Held.peerClosed (h : p.Held) (e : End) : p.peerClosed e = false := by
  rw [Pipe.peerClosed, h.isLive, Bool.not_true]

theorem Held.settle (h : p.Held) (e : End) : p.settle e = p := if_pos (h.isLive e)

theorem Held.close (h : p.Held) : p.close = p.shut := by
  unfold Pipe.close
  split
  · show (p.shut.settle .engine).settle .app = p.shut
    rw [h.shut.settle, h.shut.settle]
  · next hopen =>
    rw [Bool.not_eq_true] at hopen
    cases p
    cases hopen
    rfl

theorem Held.send_shut (h : p.Held) (e : End) (q : Packet) :
    p.shut.send e q = ((p.send e q).1, (p.send e q).2.shut) := by
  simp only [send, side_shut, update_shut, h.peerClosed, h.shut.peerClosed]
  split
  · rfl
  · split
    · rfl
    · split
      · next hfalse => exact absurd hfalse (by decide)
      · split
        · rfl
        · rfl

theorem Held.receive_shut (h : p.Held) (e : End) (room : Nat) :
    p.shut.receive e room = ((p.receive e room).1, (p.receive e room).2.shut) := by
  simp only [receive, side_shut, update_shut, h.peerClosed, h.shut.peerClosed]
  split
  · rfl
  · split
    · split
      · rfl
      · rfl
    · split
      · next hfalse => exact absurd hfalse (by decide)
      · rfl

end Pipe

namespace Bench

/-- The bench with a pipe that no longer holds its ends. -/
def shut (b : Bench) : Bench := { b with pipe := b.pipe.shut }

theorem through_shut {b : Bench} {u v : End → Answer × Pipe}
    (h : ∀ e, v e = ((u e).1, (u e).2.shut)) (name : String) :
    b.shut.through name v = ((b.through name u).1, (b.through name u).2.shut) := by
  have hsame : b.shut.handle? name = b.handle? name := rfl
  cases hx : b.handle? name with
  | some x =>
    rw [through_of_handle (hsame.trans hx), through_of_handle hx, h]
    rfl
  | none => rw [through_of_none (hsame.trans hx), through_of_none hx]

variable {b : Bench}

/-- The use of a handle leaves all handles where they are. -/
theorem held_perform (h : b.pipe.Held) {c : Call} (hc : c.IsTraffic) :
    (b.perform c).2.pipe.Held := by
  cases c with
  | send name q =>
    exact through_ind (P := fun b' => b'.pipe.Held) h
      (fun e f => by rw [Pipe.handles_send]; exact h f) name
  | receive name room =>
    exact through_ind (P := fun b' => b'.pipe.Held) h
      (fun e f => by rw [Pipe.handles_receive]; exact h f) name
  | setNonblocking name on =>
    exact through_ind (P := fun b' => b'.pipe.Held) h
      (fun e f => Nat.lt_of_lt_of_eq (h f) (Pipe.handles_update rfl f).symm) name
  | peerClosed name => exact through_ind (P := fun b' => b'.pipe.Held) h (fun _ => h) name
  | take _ _ | duplicate _ | isAppEnd _ | copy _ _ | drop _ | close => exact hc.elim

/-- Whoever uses a handle is answered as if nobody had closed the pipe. -/
theorem perform_shut (h : b.pipe.Held) {c : Call} (hc : c.IsTraffic) :
    b.shut.perform c = ((b.perform c).1, (b.perform c).2.shut) := by
  cases c with
  | send name q =>
    exact through_shut (u := fun e => (.sent e (b.pipe.send e q).1, (b.pipe.send e q).2))
      (v := fun e => (.sent e (b.pipe.shut.send e q).1, (b.pipe.shut.send e q).2))
      (fun e => by rw [h.send_shut]) name
  | receive name room =>
    exact through_shut
      (u := fun e => (.received e (b.pipe.receive e room).1, (b.pipe.receive e room).2))
      (v := fun e => (.received e (b.pipe.shut.receive e room).1, (b.pipe.shut.receive e room).2))
      (fun e => by rw [h.receive_shut]) name
  | setNonblocking name on =>
    exact through_shut (u := fun e => (.done, b.pipe.setNonblocking e on))
      (v := fun e => (.done, b.pipe.shut.setNonblocking e on))
      (fun e => by rw [Pipe.setNonblocking, Pipe.update_shut]; rfl) name
  | peerClosed name =>
    exact through_shut (u := fun e => (.gone (b.pipe.peerClosed e), b.pipe))
      (v := fun e => (.gone (b.pipe.shut.peerClosed e), b.pipe.shut))
      (fun e => by rw [h.peerClosed, h.shut.peerClosed]) name
  | take _ _ | duplicate _ | isAppEnd _ | copy _ _ | drop _ | close => exact hc.elim

theorem run_shut (h : b.pipe.Held) {cs : List Call} (hcs : ∀ c ∈ cs, c.IsTraffic) :
    (b.shut.run cs).1 = (b.run cs).1 := by
  induction cs generalizing b with
  | nil => rfl
  | cons c cs ih =>
    have hc := hcs c List.mem_cons_self
    have hrest := ih (held_perform h hc) fun d hd => hcs d (List.mem_cons_of_mem c hd)
    show (c, (b.shut.perform c).1) :: ((b.shut.perform c).2.run cs).1 = _
    rw [perform_shut h hc, hrest]
    rfl

/-- A close makes no difference to those who hold both ends. -/
theorem run_close (h : b.pipe.Held) {cs : List Call} (hcs : ∀ c ∈ cs, c.IsTraffic) :
    ((b.perform .close).2.run cs).1 = (b.run cs).1 := by
  have hclose : (b.perform .close).2 = b.shut := by
    show Bench.mk b.pipe.close b.handles = b.shut
    rw [h.close]
    rfl
  rw [hclose, run_shut h hcs]

theorem Sound.answer_receive (h : Sound b history) {name : String} {x : Handle}
    (hx : b.handle? name = some x) {left : List Packet}
    (hleft : b.pipe.isLive x.side = true → (b.pipe.side x.side).inbox = left) (room : Nat) :
    (b.perform (.receive name room)).1 = .received x.side (b.pipe.next x.side left room) := by
  simp only [Bench.perform, through_of_handle hx]
  rw [Pipe.receive_eq_next, hleft (h.counted.isLive hx)]

theorem Sound.answer_send (h : Sound b history) {name : String} {x : Handle}
    (hx : b.handle? name = some x) {q : Packet} (hp : b.pipe.peerClosed x.side = false)
    (hq : q.length ≤ Pipe.largestPacket)
    (hroom : Pipe.charge (b.pipe.side x.side.peer).inbox < Pipe.sendBuffer) :
    (b.perform (.send name q)).1 = .sent x.side (.ok q.length) := by
  have hr : (b.pipe.side x.side).reset = false :=
    Bool.eq_false_iff.mpr fun hr => Bool.eq_false_iff.mp hp (h.reset _ hr)
  simp only [Bench.perform, through_of_handle hx, Pipe.send_eq_ok hr hp hq hroom]

theorem Counted.held (h : Counted b) (hheld : ∀ e, ∃ name x, b.handle? name = some x ∧ x.side = e) :
    b.pipe.Held := fun e => by
  obtain ⟨name, x, hx, rfl⟩ := hheld e
  rw [h.count]
  exact List.countP_pos_iff.mpr ⟨_, h.mem_iff.mp hx, decide_eq_true rfl⟩

/-- **A pipe carries whole packets in their order, as long as somebody is there.** Whoever makes,
copies and gives back handles, sends and receives, in whatever order, in each direction:

* what was received is, one by one, the first packets that were sent, each as a whole if it fits
  and else told to be too large and lost, and after them at most that the stream is over;
* the next receive is about the next of them, unless a reset is told before, and a reset is told
  only when the other end is gone;
* whoever has a handle sends as long as the other end is there and has room;
* an end is gone for its peer when the pipe was closed and no handle on the end is left.

A closed pipe gives out no end for ever, and may be closed again. Handles stay, nothing that waits
at their ends is lost, and those who hold both ends are answered as before. -/
theorem carries_whole_packets (blocking : Bool) (calls : List Call) :
    let history := ((start blocking).run calls).1
    let b := ((start blocking).run calls).2
    let closed := (b.perform .close).2
    (∀ e, ∃ gone left taken rest,
      arrivals e history = gone ++ left ∧ receipts e history = taken ++ rest ∧
      List.Forall₂ (fun q r => r.2 = told q r.1) gone taken ∧
      (∀ r ∈ rest, r.2 = .ok []) ∧ (rest ≠ [] → left = [] ∧ b.pipe.peerClosed e = true) ∧
      ∀ name x room, b.handle? name = some x → x.side = e →
        (b.perform (.receive name room)).1 = .received e (b.pipe.next e left room)) ∧
    (∀ e, (b.pipe.side e).reset = true → b.pipe.peerClosed e = true) ∧
    (∀ name x q, b.handle? name = some x → b.pipe.peerClosed x.side = false →
      q.length ≤ Pipe.largestPacket →
      Pipe.charge (b.pipe.side x.side.peer).inbox < Pipe.sendBuffer →
        (b.perform (.send name q)).1 = .sent x.side (.ok q.length)) ∧
    (∀ name x, b.handle? name = some x → ∃ gone : Bool,
      (b.perform (.peerClosed name)).1 = .gone gone ∧
      (gone = true ↔ .close ∈ calls ∧
        ∀ other y, b.handle? other = some y → y.side ≠ x.side.peer)) ∧
    (.close ∈ calls → ∀ later c a, (c, a) ∈ (b.run later).1 → c.AsksPipe →
      a = .refused .pipeClosed) ∧
    (closed.perform .close).2 = closed ∧
    (∀ name, closed.handle? name = b.handle? name) ∧
    (∀ name x, b.handle? name = some x →
      (closed.pipe.side x.side).inbox = (b.pipe.side x.side).inbox) ∧
    ((∀ e, ∃ name x, b.handle? name = some x ∧ x.side = e) →
      ∀ later : List Call, (∀ c ∈ later, c.IsTraffic) →
        (closed.run later).1 = (b.run later).1) := by
  intro history b closed
  have hsound : Sound b history := by
    have h := (Sound.start blocking).run calls
    rwa [List.nil_append] at h
  have hopen : b.pipe.isOpen = false ↔ .close ∈ calls := by
    rw [← not_iff_not, Bool.not_eq_false]
    exact (isOpen_run _ _).trans (and_iff_right rfl)
  refine ⟨fun e => ?_, hsound.reset, fun name x q hx hp hq hroom => ?_, fun name x hx => ?_,
    fun hclose later c a hmem hc => ?_, ?_, fun _ => rfl, fun name x hx => ?_,
    fun hheld later hlater => ?_⟩
  · obtain ⟨gone, left, taken, rest, h⟩ := hsound.flow e
    refine ⟨gone, left, taken, rest, h.arrived_eq, h.got_eq, h.whole, h.empty, h.finished, ?_⟩
    rintro name x room hx rfl
    exact hsound.answer_receive hx h.waiting room
  · exact hsound.answer_send hx hp hq hroom
  · refine ⟨b.pipe.peerClosed x.side, ?_, ?_⟩
    · simp only [Bench.perform, through_of_handle hx]
    · rw [hsound.counted.peerClosed_iff, hopen]
  · exact refused_of_mem_run (hopen.mpr hclose) later hmem hc
  · show Bench.mk b.pipe.close.close b.handles = _
    rw [Pipe.close_close]
    rfl
  · refine (Pipe.keeps_close b.pipe).inbox ?_
    have hcounted : Counted closed := hsound.counted.perform .close
    exact hcounted.isLive hx
  · exact run_close (hsound.counted.held hheld) hlater

end Bench

end TunnelRelay.Packet
