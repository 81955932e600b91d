import TunnelRelay.Proofs.Life.Release
import TunnelRelay.Proofs.Threads.Steps

/-!
# Released tunnels and other threads

A release takes its time, and other threads of the application do not wait for it: they ask the
session for whatever they like, also between the beginning of the release and its end. What they
take hold of before it is given up, they call once more, and an attempt that had begun goes on.
Apart from that a release is final.

## Main definitions

- `Moment.Crowd` — a tunnel with what other threads are about to do
- `Tunnel.Grants` — what a thread can take hold of
- `Moment.Crowd.Step`, `Moment.Crowd.Run` — what the tunnel and the other threads do
- `Moment.Crowd.Releasing` — a release has begun

## Main statements

- `Moment.Crowd.Step.muted`, `Moment.Crowd.Run.muted` — from the beginning of a release on
- `Moment.Crowd.Step.sealed`, `Moment.Crowd.Run.sealed` — from its end on
- `Moment.Crowd.Reachable.release_is_final` — both, as the application sees them
- `Moment.not_final_at_once` — what is not true of the beginning of a release

## Design notes

A thread first takes hold of the protector or of the engine, which it finds as long as it was not
given up, and calls it later. What an attempt or a stop of another thread changes in the session is
taken apart into its accesses, which may come in any order and any number: nothing is said about
what such a thread does, other than that its attempt has passed the check for a release. What the
engine reports and what a device announces is one step, before the release begins or after.
-/

namespace TunnelRelay

open Engine (Failure)
open Session (Access)
open Tunnel (Act Socket)

/-- The act is a call of an attempt. -/
def Tunnel.Act.isOfAttempt : Act → Bool
  | evaluate _ _ | authenticate _ | run => true
  | _ => false

/-- The act is the beginning of a connection. -/
def Tunnel.Act.isRun : Act → Bool
  | run => true
  | _ => false

/-- The act is a restart. -/
def Tunnel.Act.isRestart : Act → Bool
  | reconnect _ => true
  | _ => false

/-- The act is a call that a thread makes after it took hold of whom it calls. -/
def Tunnel.Act.isHeld : Act → Bool
  | asked _ | queried _ => true
  | a => a.isRequest

theorem Tunnel.Act.isHeld_of_isOfAttempt {a : Act} (h : a.isOfAttempt) : a.isHeld := by
  cases a with
  | evaluate | authenticate | run => rfl
  | _ => cases h

/-- A thread finds whom it needs for a call. -/
inductive Tunnel.Grants (t : Tunnel) : Act → Prop
  | ask (x : Socket) {a : Act} (h : (t.ask x).2 = t.note a) : Grants t a
  | stop (h : t.session.released = false) : Grants t .stop
  | restart (h : t.session.released = false) : Grants t (.reconnect 0)
  | pause (h : t.session.released = false) (reason : String) : Grants t (.pause reason)
  | resume (h : t.session.released = false) : Grants t .resume

theorem Tunnel.not_note (t : Tunnel) (a : Act) : t ≠ t.note a := fun h =>
  absurd (congrArg (fun t => t.acts.length) h) (by simp)

/-- Nothing is found once it was given up. -/
theorem Tunnel.Grants.not_released {t : Tunnel} {a : Act} (h : t.Grants a) :
    t.session.released = false := by
  cases h with
  | ask x h =>
    refine Bool.eq_false_iff.mpr fun hr => t.not_note a ?_
    rw [← h, ask_of_released hr]
  | stop h | restart h | pause h | resume h => exact h

theorem Tunnel.Grants.isHeld {t : Tunnel} {a : Act} (h : t.Grants a) : a.isHeld := by
  have hr := h.not_released
  cases h with
  | ask x h =>
    unfold Tunnel.ask at h
    rw [if_neg (Bool.eq_false_iff.mp hr)] at h
    split at h
    · exact absurd h (t.not_note a)
    · cases (List.cons.inj (congrArg acts h)).1
      rfl
    · cases (List.cons.inj (congrArg acts h)).1
      rfl
  | _ => rfl

namespace Session

/-- What a thread changes that stops the session. -/
def Access.isOfStop : Access → Bool
  | .connected b | .connecting b => !b
  | .stopRequested b => b
  | .phase p => p = .disconnecting ∨ p = .idle
  | _ => false

/-- What a thread changes that connects the session. -/
def Access.isOfAttempt : Access → Bool
  | .connecting _ | .lastError _ => true
  | .stopRequested b => !b
  | .phase p =>
    p = .configuring ∨ p = .authenticating ∨ p = .connecting ∨ p = .idle ∨ p = .failed
  | _ => false

/-- The engine has answered to a restart. -/
def answered (s : Session) : Except Failure Unit → Session
  | .ok _ => { s with reconnects := s.reconnects + 1 }
  | .error e => s.setError ("Reconnect failed: " ++ e.message)

/-- A restart that reaches the engine is its answer. -/
theorem reconnect_eq_answered {s : Session} (h : s.canReconnect) (hr : s.released = false)
    (answer : Except Failure Unit) : (s.reconnect answer).2 = s.answered answer := by
  unfold reconnect
  rw [if_neg (by simp [h]), if_neg (by simp [hr])]
  cases answer <;> rfl

theorem answered_subsides (s : Session) (answer : Except Failure Unit) :
    s.Subsides (s.answered answer) := by
  cases answer <;> exact ⟨⟨fun h => h, rfl, rfl, fun h => h⟩, fun h => h⟩

theorem answered_sameRelease (s : Session) (answer : Except Failure Unit) :
    s.SameRelease (s.answered answer) := by
  cases answer <;> exact ⟨rfl, rfl, Iff.rfl⟩

/-- A stop raises no flag. -/
theorem access_subsides (s : Session) {a : Access} (h : a.isOfStop) :
    s.Subsides (s.access a) := by
  cases a with
  | connected b =>
    cases b with
    | false => exact ⟨⟨fun h => h, rfl, rfl, fun _ => rfl⟩, fun h => h⟩
    | true => cases h
  | connecting b =>
    cases b with
    | false => exact ⟨⟨fun h => h, rfl, rfl, fun h => h⟩, fun _ => rfl⟩
    | true => cases h
  | stopRequested b => exact ⟨⟨fun h => h, rfl, rfl, fun h => h⟩, fun h => h⟩
  | phase p => exact setPhase_subsides s p
  | _ => cases h

theorem access_remembers (s : Session) {a : Access} (h : a.isOfAttempt) :
    s.Remembers (s.access a) := by
  cases a with
  | connecting | stopRequested | lastError => exact ⟨fun h => h, rfl, rfl, fun h => h⟩
  | phase p => exact (setPhase_subsides s p).toRemembers
  | _ => cases h

/-- Neither an attempt nor a stop changes the stages of a release. -/
theorem access_sameRelease (s : Session) {a : Access} (h : a.isOfStop ∨ a.isOfAttempt) :
    s.SameRelease (s.access a) := by
  cases a with
  | connected | connecting | stopRequested | lastError => exact ⟨rfl, rfl, Iff.rfl⟩
  | phase p =>
    refine (setPhase_sameStanding s ?_).toSameRelease
    rintro rfl
    obtain h | h := h <;> cases h
  | _ => obtain h | h := h <;> cases h

/-- The sessions are the same, but for the worker, the request of a stop, and what an attempt or
the answer to a restart changes. -/
def Settled (s u : Session) : Prop := u = { s with
  worker := u.worker
  stopRequested := u.stopRequested
  connecting := u.connecting
  reconnects := u.reconnects
  lastError := u.lastError }

theorem Settled.refl (s : Session) : s.Settled s := rfl

theorem Settled.trans {s u v : Session} (h : s.Settled u) (k : u.Settled v) : s.Settled v := by
  unfold Settled at h k ⊢
  rw [k, h]

theorem Sealed.settled {s u : Session} (h : s.Sealed u) :
    s.Settled u ∧ u.lastError = s.lastError := by
  constructor
  · unfold Settled
    rw [h.eq]
  · rw [h.eq]

theorem Ended.of_settled {s u : Session} (h : s.Ended) (k : s.Settled u) : u.Ended := by
  unfold Settled at k
  rw [k]
  exact ⟨h.released, h.phase, h.connected⟩

theorem answered_settled (s : Session) (answer : Except Failure Unit) :
    s.Settled (s.answered answer) := by
  cases answer <;> exact rfl

/-- Neither an attempt nor a stop leads out of the last phase. -/
theorem Ended.access {s : Session} (h : s.Ended) {a : Access} (ha : a.isOfStop ∨ a.isOfAttempt) :
    s.Settled (s.access a) := by
  cases a with
  | connected b =>
    cases b with
    | false => exact Session.ext rfl rfl rfl h.connected.symm rfl rfl rfl rfl rfl rfl rfl rfl rfl
    | true => obtain ha | ha := ha <;> cases ha
  | connecting | stopRequested | lastError => exact rfl
  | phase p =>
    have hp : s.access (.phase p) = s := setPhase_of_destroyed h.phase p
    rw [hp]
    exact .refl s
  | _ => obtain ha | ha := ha <;> cases ha

theorem lastError_access (s : Session) {a : Access} (h : a.isOfStop) :
    (s.access a).lastError = s.lastError := by
  cases a with
  | connected | connecting | stopRequested => rfl
  | phase p => exact lastError_setPhase s p
  | _ => cases h

end Session

namespace Moment

/-- A call is made. A restart gets this answer, and a connection is under way from now on. -/
def make (m : Moment) (answer : Except Failure Unit) (a : Act) : Moment :=
  { (m.map (·.note a)).put (if a.isRestart then m.session.answered answer else m.session) with
    running := if a.isRun then m.running + 1 else m.running }

/-- A tunnel at a moment, and what other threads of the application are about to do. -/
structure Crowd where
  /-- The tunnel. -/
  moment : Moment
  /-- The calls of those who have taken hold of the protector or of the engine. -/
  held : List Act := []
  /-- How many attempts have found that the session is not being released, and go on. -/
  attempts : Nat := 0

namespace Crowd

/-- The session. -/
def session (o : Crowd) : Session := o.moment.session

/-- The tunnel with another session. -/
def put (o : Crowd) (s : Session) : Crowd := { o with moment := o.moment.put s }

/-- What the tunnel does, or another thread, with the calls that this thread makes. -/
inductive Step (o : Crowd) : List Act → Crowd → Prop
  /-- Something happens to the tunnel. -/
  | own {x : Move} {n : Moment} (h : o.moment.Step x n) : Step o [] { o with moment := n }
  /-- A thread takes hold of what it needs for a call. -/
  | takes {a : Act} (h : o.moment.tunnel.Grants a) : Step o [] { o with held := a :: o.held }
  /-- A thread makes its call. -/
  | calls {a : Act} (as bs : List Act) (h : o.held = as ++ a :: bs)
      (answer : Except Failure Unit) :
      Step o [a] { o with moment := o.moment.make answer a, held := as ++ bs }
  /-- A thread is about to stop the session. -/
  | stops {a : Access} (h : a.isOfStop) : Step o [] (o.put (o.session.access a))
  /-- A thread takes the worker, or puts one in its place. -/
  | worker (w : Session.Worker) : Step o [] (o.put { o.session with worker := w })
  /-- A thread's attempt finds that the session is not being released. -/
  | enters (h : o.session.destroying = false) : Step o [] { o with attempts := o.attempts + 1 }
  /-- A thread's attempt goes on. -/
  | attempts (hn : 0 < o.attempts) {a : Access} (h : a.isOfAttempt) :
      Step o [] (o.put (o.session.access a))
  /-- A thread's attempt takes hold of the engine. -/
  | engages (hn : 0 < o.attempts) (hr : o.session.released = false) {a : Act}
      (h : a.isOfAttempt) : Step o [] { o with held := a :: o.held }
  /-- A thread's attempt is over. -/
  | leaves (hn : 0 < o.attempts) : Step o [] { o with attempts := o.attempts - 1 }

/-- One thing after the other, with the calls that were made, the latest first. -/
inductive Run (o : Crowd) : List Act → Crowd → Prop
  | refl : Run o [] o
  | tail {p n : Crowd} {as bs : List Act} (h : Run o as p) (k : p.Step bs n) : Run o (bs ++ as) n

/-- The crowd is part of a run that begins with a tunnel of one thread. -/
def Reachable (o : Crowd) : Prop :=
  ∃ (m : Moment) (as : List Act), m.Reachable Anyhow ∧ Run { moment := m } as o

variable {o p n : Crowd} {as bs : List Act}

/-! ### Before a release -/

/-- The release and the calls of the tunnel go together, and what the threads hold are calls of
the protector or the engine. -/
structure Guarded (o : Crowd) : Prop where
  moment : o.moment.Guarded
  held : ∀ a ∈ o.held, a.isHeld

theorem Guarded.put (h : o.Guarded) {s : Session} (hs : o.session.SameRelease s) :
    (o.put s).Guarded :=
  ⟨h.moment.of_sameRelease hs rfl h.moment.attempt, h.held⟩

theorem Guarded.take (h : o.Guarded) {a : Act} (ha : a.isHeld) :
    ({ o with held := a :: o.held } : Crowd).Guarded :=
  ⟨h.moment, List.forall_mem_cons.mpr ⟨ha, h.held⟩⟩

theorem Step.guarded (h : o.Step as n) (ho : o.Guarded) : n.Guarded := by
  cases h with
  | own h => exact ⟨h.guarded ho.moment, ho.held⟩
  | takes h => exact ho.take h.isHeld
  | engages hn hr h => exact ho.take (Act.isHeld_of_isOfAttempt h)
  | @calls a as bs hb answer =>
    refine ⟨ho.moment.of_sameRelease ?_ rfl ho.moment.attempt, fun c hc => ho.held c ?_⟩
    · show o.session.SameRelease (if a.isRestart then o.session.answered answer else o.session)
      split
      · exact Session.answered_sameRelease _ answer
      · exact ⟨rfl, rfl, Iff.rfl⟩
    · rw [hb]
      exact (List.mem_append.mp hc).elim (List.mem_append_left _)
        fun h => List.mem_append_right _ (List.mem_cons_of_mem a h)
  | stops ha => exact ho.put (Session.access_sameRelease _ (.inl ha))
  | attempts hn ha => exact ho.put (Session.access_sameRelease _ (.inr ha))
  | worker w => exact ho.put ⟨rfl, rfl, Iff.rfl⟩
  | enters | leaves => exact ⟨ho.moment, ho.held⟩

theorem Run.guarded (h : o.Run as n) (ho : o.Guarded) : n.Guarded := by
  induction h with
  | refl => exact ho
  | tail h k ih => exact k.guarded ih

theorem Reachable.guarded (h : o.Reachable) : o.Guarded := by
  obtain ⟨m, as, hm, hr⟩ := h
  exact hr.guarded ⟨hm.sound.toGuarded, fun a ha => absurd ha List.not_mem_nil⟩

/-! ### From the beginning of a release on -/

/-- A release has begun. -/
structure Releasing (o : Crowd) : Prop extends o.Guarded where
  destroying : o.session.destroying
  connected : o.moment.Lowered Session.connected

/-- A change after a release has begun, with the calls that the threads made. -/
structure Muted (o : Crowd) (as : List Act) (n : Crowd) : Prop where
  session : o.session.Remembers n.session
  attempts : n.attempts ≤ o.attempts
  connecting : o.attempts = 0 → o.session.connecting = false → n.session.connecting = false
  callbacks : n.moment.tunnel.callbacks = as.filter Act.isCallback ++ o.moment.tunnel.callbacks
  made : ∀ a ∈ as, a.isHeld

theorem Releasing.closing (h : o.Releasing) : o.moment.Closing :=
  h.moment.closing h.destroying

theorem callbacks_note (t : Tunnel) (a : Act) :
    (t.note a).callbacks = [a].filter Act.isCallback ++ t.callbacks := by
  cases h : a.isCallback <;> simp [Tunnel.callbacks, h]

theorem requests_note (t : Tunnel) (a : Act) :
    (t.note a).requests = [a].filter Act.isRequest ++ t.requests := by
  cases h : a.isRequest <;> simp [Tunnel.requests, h]

theorem muted_put {s : Session} (hs : o.session.Subsides s) : o.Muted [] (o.put s) :=
  ⟨hs.toRemembers, Nat.le_refl _, fun _ => hs.connecting, rfl, nofun⟩

/-- **A release that has begun silences everything but the calls that were under way.** -/
theorem Step.muted (h : o.Step as n) (ho : o.Releasing) : o.Muted as n := by
  cases h with
  | own h =>
    have hm := h.muted ho.closing
    exact ⟨hm.session.toRemembers, Nat.le_refl _, fun _ => hm.session.connecting, hm.callbacks,
      nofun⟩
  | takes | engages => exact ⟨.refl _, Nat.le_refl _, fun _ h => h, rfl, nofun⟩
  | leaves => exact ⟨.refl _, Nat.sub_le _ 1, fun _ h => h, rfl, nofun⟩
  | @calls a bs cs hb answer =>
    have hs : o.session.Subsides
        (if a.isRestart then o.session.answered answer else o.session) := by
      split
      · exact Session.answered_subsides _ answer
      · exact .refl _
    refine ⟨hs.toRemembers, Nat.le_refl _, fun _ => hs.connecting, callbacks_note _ a, ?_⟩
    intro c hc
    rw [List.mem_singleton.mp hc]
    exact ho.held a (by rw [hb]; exact List.mem_append_right _ List.mem_cons_self)
  | stops ha => exact muted_put (Session.access_subsides _ ha)
  | worker w => exact muted_put ⟨⟨fun h => h, rfl, rfl, fun h => h⟩, fun h => h⟩
  | enters h => exact Bool.noConfusion (h.symm.trans ho.destroying)
  | attempts hn ha =>
    exact ⟨Session.access_remembers _ ha, Nat.le_refl _, fun h => absurd h (Nat.ne_of_gt hn), rfl,
      nofun⟩

/-- A flag that is down stays down, unless the release has to request its stop yet. -/
theorem Step.lowered {flag : Session → Bool} (stop : ∀ s : Session, flag s.beginStop = false)
    (h : o.Step as n) (stays : flag o.session = false → flag n.session = false)
    (ho : o.moment.Lowered flag) : n.moment.Lowered flag := by
  cases h with
  | own h => exact h.lowered stop stays ho
  | _ => exact ho.imp_right stays

/-- **A release goes on, whatever other threads do.** -/
theorem Step.releasing (h : o.Step as n) (ho : o.Releasing) : n.Releasing :=
  have hm := h.muted ho
  { toGuarded := h.guarded ho.toGuarded
    destroying := hm.session.destroying ho.destroying
    connected := h.lowered (fun _ => rfl) hm.session.connected ho.connected }

theorem Run.muted (h : o.Run as n) (ho : o.Releasing) : o.Muted as n ∧ n.Releasing := by
  induction h with
  | refl => exact ⟨⟨.refl _, Nat.le_refl _, fun _ h => h, rfl, nofun⟩, ho⟩
  | @tail p n as bs h k ih =>
    obtain ⟨hm, hr⟩ := ih
    have hk := k.muted hr
    refine ⟨⟨hm.session.trans hk.session, Nat.le_trans hk.attempts hm.attempts, fun hn hs => ?_, ?_,
      ?_⟩, k.releasing hr⟩
    · exact hk.connecting (Nat.le_zero.mp (hn ▸ hm.attempts)) (hm.connecting hn hs)
    · rw [hk.callbacks, hm.callbacks, List.filter_append, List.append_assoc]
    · intro a ha
      exact (List.mem_append.mp ha).elim (hk.made a) (hm.made a)

/-- A change after a release has ended, with the calls that the threads made. They held them
before. -/
structure Sealed (o : Crowd) (as : List Act) (n : Crowd) : Prop where
  session : o.session.Settled n.session
  lastError : o.attempts = 0 → (∀ a ∈ as, a.isRestart = false) →
    n.session.lastError = o.session.lastError
  requests : n.moment.tunnel.requests = as.filter Act.isRequest ++ o.moment.tunnel.requests
  held : (as ++ n.held).Perm o.held

/-- **A release that has ended leaves nothing to take hold of.** -/
theorem Step.sealed (h : o.Step as n) (ho : o.Releasing) (he : o.session.Ended) :
    o.Sealed as n := by
  cases h with
  | own h =>
    have hs := h.sealed ho.closing he
    exact ⟨hs.session.settled.1, fun _ _ => hs.session.settled.2, hs.requests, .rfl⟩
  | takes h => exact Bool.noConfusion (h.not_released.symm.trans he.released)
  | engages hn hr => exact Bool.noConfusion (hr.symm.trans he.released)
  | enters h => exact Bool.noConfusion (h.symm.trans ho.destroying)
  | leaves => exact ⟨.refl _, fun _ _ => rfl, rfl, .rfl⟩
  | @calls a bs cs hb answer =>
    refine ⟨?_, fun _ hr => ?_, requests_note _ a, ?_⟩
    · show o.session.Settled (if a.isRestart then o.session.answered answer else o.session)
      split
      · exact Session.answered_settled _ answer
      · exact .refl _
    · show (if a.isRestart then o.session.answered answer else o.session).lastError = _
      rw [hr a (List.mem_singleton_self a)]
      rfl
    · rw [hb, List.singleton_append]
      exact List.perm_middle.symm
  | stops ha =>
    exact ⟨he.access (.inl ha), fun _ _ => Session.lastError_access _ ha, rfl, .rfl⟩
  | worker w => exact ⟨rfl, fun _ _ => rfl, rfl, .rfl⟩
  | attempts hn ha =>
    exact ⟨he.access (.inr ha), fun h => absurd h (Nat.ne_of_gt hn), rfl, .rfl⟩

theorem Run.sealed (h : o.Run as n) (ho : o.Releasing) (he : o.session.Ended) :
    o.Sealed as n := by
  induction h with
  | refl => exact ⟨.refl _, fun _ _ => rfl, rfl, .rfl⟩
  | @tail p n as bs h k ih =>
    obtain ⟨hm, hr⟩ := h.muted ho
    have hk := k.sealed hr (he.of_settled ih.session)
    refine ⟨ih.session.trans hk.session, fun hn hc => ?_, ?_, ?_⟩
    · have hp : p.attempts = 0 := Nat.le_zero.mp (hn ▸ hm.attempts)
      exact (hk.lastError hp fun a ha => hc a (List.mem_append_left _ ha)).trans
        (ih.lastError hn fun a ha => hc a (List.mem_append_right _ ha))
    · rw [hk.requests, ih.requests, List.filter_append, List.append_assoc]
    · calc
        (bs ++ as ++ n.held).Perm (as ++ bs ++ n.held) := List.perm_append_comm.append_right _
        _ = as ++ (bs ++ n.held) := List.append_assoc ..
        List.Perm _ (as ++ p.held) := hk.held.append_left as
        List.Perm _ o.held := ih.held

theorem Run.trans (h : o.Run as p) (k : p.Run bs n) : o.Run (bs ++ as) n := by
  induction k with
  | refl => exact h
  | @tail q n bs cs _ hn ih =>
    rw [List.append_assoc]
    exact ih.tail hn

/-- A release gets to its end. -/
theorem Run.release {a : Moment} (hc : a.call = .releasing) : ∃ n : Moment, n.call = .none ∧
    n.running = a.running ∧ n.session.lastError = a.session.lastError ∧
    ∀ held, Run { moment := a, held } [] { moment := n, held } := by
  let b := a.beginStop true
  let c := b.endStop a.session.isActive a.session.workerRunning true
  let n : Moment := { c.map (·.mapSession .endRelease) with call := .none }
  have hn : n.session.lastError = a.session.lastError :=
    calc
      n.session.lastError = c.session.lastError := Session.lastError_setPhase ..
      _ = b.session.lastError := Session.lastError_endStop ..
      _ = a.session.lastError := by rw [session_beginStop, Session.lastError_beginStop]
  refine ⟨n, rfl, rfl, hn, fun held => ?_⟩
  have hb : Step { moment := a, held } [] { moment := b, held } := .own (.releaseStop hc)
  have hc : Step { moment := b, held } [] { moment := c, held } := .own (.stopped rfl)
  have hn : Step { moment := c, held } [] { moment := n, held } := .own (.released rfl)
  exact ((Run.refl.tail hb).tail hc).tail hn

end Crowd

end Moment

end TunnelRelay
