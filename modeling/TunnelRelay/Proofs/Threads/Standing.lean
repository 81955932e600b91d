import TunnelRelay.Proofs.Threads.Steps

/-!
# Where threads stand

No stop is lost as long as an attempt and a stop keep out of each other's way. This module says
what holds then between any two turns: how the workers, the calls and the flags go together.

## Main definitions

- `Threads.Attempt.isPast`, `Threads.Attempt.isLaunching` — how far an attempt got
- `Threads.Stop.isPending`, `Threads.Stop.isPassing` — how far a stop got
- `Threads.Stage.willServe`, `Threads.Stage.outcome` — what a worker will do
- `Threads.HasStop`, `Threads.Pending` — a stop that is queued, and a connection that may obey it
- `Threads.Sound` — the invariant, made of `Threads.Crew`, `Threads.Terms` and `Threads.Heeded`

## Design notes

A call says what it has found by where it stands. An attempt that is launching found neither a
worker nor another attempt, and a stop that passes found no attempt, or one that was told. The
three parts of the invariant need each other, so that every turn keeps all of them at once.
-/

namespace TunnelRelay

open Engine (Command Credentials Event Loopback LoopbackOptions Verdict)
open Session (Access abortion admission farewell response)

namespace Threads

/-! ### Where the threads stand -/

namespace Attempt

/-- The attempt has seen that the session is not being released, and the queue of the engine is
still to be emptied. -/
def isPast : Attempt → Bool
  | looking _ | checking _ | claiming _ | engaging _ | evaluating _ => true
  | doing _ _ next => next.isPast
  | _ => false

/-- The attempt has begun, and the queue of the engine is still to be emptied. -/
def isEarly : Attempt → Bool
  | entering _ => true
  | doing _ _ next => next.isEarly
  | a => a.isPast

/-- The attempt keeps others out, and goes on to a worker. -/
def isLaunching : Attempt → Bool
  | engaging _ | evaluating _ | authenticating _ | spawning => true
  | doing _ _ next => next.isLaunching
  | _ => false

/-- The attempt has seen that there is no worker. -/
def isAlone : Attempt → Bool
  | checking _ | claiming _ => true
  | doing _ _ next => next.isAlone
  | a => a.isLaunching

/-- The accesses that an attempt makes on its way. -/
def suits (next : Attempt) : Access → Bool
  | .phase _ | .lastError _ => true
  | .connecting b => !b && !next.isLaunching
  | .stopRequested b => !b && next.isPast && next.isLaunching
  | _ => false

/-- The attempt only makes such accesses. -/
def isProper : Attempt → Bool
  | doing a as next => (a :: as).all next.suits && next.isProper
  | _ => true

/-- The request of a stop when the accesses are made. -/
def outcome (r : Bool) : Attempt → Bool
  | doing a as next => next.outcome ((a :: as).foldl Access.onStopRequested r)
  | _ => r

variable (as : List Access) (next : Attempt)

theorem suits_cases {next : Attempt} {a : Access} (h : next.suits a) : a.isPlain ∨
    a = .connecting false ∧ next.isLaunching = false ∨
    a = .stopRequested false ∧ next.isPast ∧ next.isLaunching := by
  cases a with
  | connecting b => cases b <;> simp_all [suits]
  | stopRequested b => cases b <;> simp_all [suits]
  | connected | release => cases h
  | _ => exact .inl rfl

theorem isEarly_of_past {a : Attempt} (h : a.isPast) : a.isEarly := by
  induction a with
  | doing _ _ next ih => exact ih h
  | _ => first | rfl | exact h

theorem isAlone_of_launching {a : Attempt} (h : a.isLaunching) : a.isAlone := by
  induction a with
  | doing _ _ next ih => exact ih h
  | _ => first | rfl | exact h

@[simp] theorem isPast_after : (after as next).isPast = next.isPast := by cases as <;> rfl

@[simp] theorem isLaunching_after : (after as next).isLaunching = next.isLaunching := by
  cases as <;> rfl

@[simp] theorem isEarly_after : (after as next).isEarly = next.isEarly := by cases as <;> rfl

@[simp] theorem isAlone_after : (after as next).isAlone = next.isAlone := by cases as <;> rfl

@[simp] theorem isProper_after :
    (after as next).isProper = (as.all next.suits && next.isProper) := by
  cases as <;> rfl

@[simp] theorem outcome_after (r : Bool) :
    (after as next).outcome r = next.outcome (as.foldl Access.onStopRequested r) := by
  cases as <;> rfl

end Attempt

namespace Stop

/-- The stop waits for this worker, or puts it back. -/
def Holds (k : Nat) : Stop → Prop
  | waiting j _ _ | keeping j _ _ => j = k
  | _ => False

/-- The stop puts a worker back. -/
def isKeeping : Stop → Bool
  | keeping _ _ _ => true
  | _ => false

/-- The stop is about to be requested. -/
def isRequesting : Stop → Bool
  | doing (.stopRequested true) _ _ => true
  | _ => false

/-- The stop was requested. -/
def isRequested : Stop → Bool
  | idle => false
  | a => !a.isRequesting

/-- The stop may still be passed on to the engine. -/
def isPending : Stop → Bool
  | asking _ _ | ordering _ => true
  | doing _ _ next => next.isPending
  | _ => false

/-- The stop goes on to take the worker. -/
def isTaking : Stop → Bool
  | taking _ _ => true
  | _ => false

/-- The stop has found no attempt, or has dealt with it. -/
def isPassing : Stop → Bool
  | asking .worker _ => true
  | doing _ _ next => next.isTaking
  | _ => false

/-- The stop belongs to a release that goes on. -/
def isReleasing : Stop → Bool
  | asking _ r | ordering r | taking _ r | waiting _ _ r | keeping _ _ r => r
  | doing a as next => next.isReleasing || (a :: as).any (· matches .release)
  | idle => false

/-- The accesses that a stop makes on its way. -/
def suits (next : Stop) : Access → Bool
  | .phase _ => true
  | .connected b | .connecting b => !b && next.isTaking
  | .stopRequested b => b && next.isPending
  | .release => !next.isPending
  | _ => false

/-- The stop goes on from here after some accesses. -/
def isJunction : Stop → Bool
  | idle | asking .connected _ | ordering _ | taking _ _ => true
  | _ => false

/-- The stop only makes such accesses, and goes on from such a place. -/
def isProper : Stop → Bool
  | doing a as next => (a :: as).all next.suits && next.isJunction
  | _ => true

variable (as : List Access) {next : Stop}

theorem isPending_after (a : Access) : (after as next).isPending = (doing a as next).isPending := by
  cases as <;> rfl

theorem isPassing_of_after (h : next.isJunction) (a : Access) (ha : (after as next).isPassing) :
    (doing a as next).isPassing := by
  cases as with
  | nil =>
    cases next with
    | asking q r =>
      cases q with
      | worker => cases h
      | _ => cases ha
    | doing => cases h
    | _ => cases ha
  | cons => exact ha

theorem isReleasing_of_after (a : Access) (ha : (after as next).isReleasing) :
    (doing a as next).isReleasing := by
  cases as with
  | nil => exact Bool.or_eq_true_iff.mpr (.inl ha)
  | cons b bs =>
    simp only [after, isReleasing, List.any_cons, Bool.or_eq_true] at ha ⊢
    exact ha.imp_right .inr

theorem isKeeping_after (h : next.isJunction) : (after as next).isKeeping = false := by
  cases as with
  | nil => cases next <;> first | rfl | cases h
  | cons => rfl

theorem isProper_after (h : next.isJunction) (has : as.all next.suits) :
    (after as next).isProper := by
  cases as with
  | nil => cases next <;> first | rfl | cases h
  | cons => exact Bool.and_eq_true_iff.mpr ⟨has, h⟩

theorem suits_cases {next : Stop} {a : Access} (h : next.suits a) : a.isPlain ∨
    a = .connected false ∧ next.isTaking ∨ a = .connecting false ∧ next.isTaking ∨
    a = .stopRequested true ∧ next.isPending ∨ a = .release ∧ next.isPending = false := by
  cases a with
  | connected b | connecting b | stopRequested b => cases b <;> simp_all [suits]
  | release => simp_all [suits]
  | _ => exact .inl rfl

theorem ne_idle {b : Stop} (h : b.isRequested) : b ≠ .idle := by
  rintro rfl
  cases h

theorem not_holds_doing {a : Access} {k : Nat} : ¬(doing a as next).Holds k := id

end Stop

/-- The worker obeys commands afterwards. -/
def Goal.isServe : Goal → Bool
  | serve _ => true
  | leave _ => false

namespace Stage

/-- The worker obeys commands, or will. -/
def willServe : Stage → Bool
  | starting | serving _ => true
  | busy _ _ g | noting _ _ g | judging _ _ g => g.isServe
  | leaving _ | ended => false

/-- The flag of a connection after some events that are followed. -/
def hearing (c : Bool) (es : List Event) : Bool :=
  es.foldl (fun c e => (response e).foldl Access.onConnected c) c

/-- The flag of a connection when the worker has reported its events. -/
def outcome (c : Bool) : Stage → Bool
  | starting => true
  | busy as es _ => hearing (as.foldl Access.onConnected c) es
  | noting e es _ | judging e es _ => hearing c (e :: es)
  | _ => c

/-- The worker leaves the request of a stop and the release alone. -/
def isProper : Stage → Bool
  | busy as _ _ | leaving as => as.all Access.isMinor
  | _ => true

end Stage

/-! ### What holds in orderly runs -/

variable (o : Threads)

/-- The engine has a stop to obey. -/
def HasStop : Prop := Command.stop ∈ o.engine.queue

/-- There is a connection that has not obeyed a stop, or there will be one with the commands that
are queued. -/
def Pending : Prop :=
  (∃ st ∈ o.workers, st.willServe) ∨ o.attempt.isLaunching ∧ o.attempt.isPast = false

/-- The workers, as far as the calls know them. -/
structure Crew : Prop where
  alone : ∀ {i j}, o.isAlive i → o.isAlive j → i = j
  known : ∀ {k}, o.isAlive k → o.slot = some k ∨ o.stop.Holds k
  free : o.attempt.isAlone → ∀ k, o.isAlive k = false
  /-- A worker that is put back is the only one, and no other will be started meanwhile. -/
  kept : o.stop.isKeeping →
    o.attempt.isLaunching = false ∧ ∀ {k}, o.isAlive k → o.stop.Holds k

/-- The calls, and how far a release got. -/
structure Terms : Prop where
  early : o.attempt.isEarly → o.stop = .idle
  past : o.attempt.isPast → o.session.destroying = false
  attempt : o.attempt.isProper
  stop : o.stop.isProper
  workers : ∀ st ∈ o.workers, st.isProper
  releasing : o.stop.isReleasing → o.session.destroying
  released : o.session.released → o.session.destroying
  requested : o.stop.isRequested → o.session.stopRequested
  destroying : o.session.destroying → o.session.stopRequested ∨ o.stop.isRequesting

/-- No stop is lost. -/
structure Heeded : Prop where
  /-- An attempt that goes on is seen, or a stop has seen it. -/
  claimed : o.attempt.isLaunching →
    o.session.connecting ∨ o.HasStop ∧ o.attempt.isPast = false
  /-- A stop from before an attempt is forgotten. -/
  cleared : o.attempt.isLaunching → o.attempt.isPast →
    o.attempt.outcome o.session.stopRequested = false
  missed : o.stop.isPassing → o.attempt.isLaunching → o.HasStop
  /-- A stop that was requested will be obeyed. -/
  due : o.session.stopRequested → o.Pending → o.HasStop ∨ o.stop.isPending
  final : o.session.released → o.Pending → o.HasStop
  /-- A connection that nobody wants to stop will be seen. -/
  up : o.session.stopRequested = false → o.session.destroying = false →
    ∀ st ∈ o.workers, st.willServe → st.outcome o.session.connected

/-- What holds in orderly runs. -/
structure Sound : Prop extends Crew o, Terms o, Heeded o

variable {o}

theorem isPast_eq_false {a : Attempt} (h : a.isEarly = false) : a.isPast = false :=
  Bool.eq_false_iff.mpr fun hp => Bool.eq_false_iff.mp h (Attempt.isEarly_of_past hp)

/-- A worker that will obey commands has not ended. -/
theorem exists_isAlive {st : Stage} (hst : st ∈ o.workers) (hw : st.willServe) :
    ∃ k, o.workers[k]? = some st ∧ o.isAlive k := by
  obtain ⟨k, hk⟩ := List.mem_iff_getElem?.mp hst
  refine ⟨k, hk, ?_⟩
  rw [isAlive, hk]
  cases st <;> first | rfl | cases hw

/-- An attempt that is alone finds no worker. -/
theorem Sound.not_willServe (h : o.Sound) (ha : o.attempt.isAlone) {st : Stage}
    (hst : st ∈ o.workers) : st.willServe = false := by
  refine Bool.eq_false_iff.mpr fun hw => ?_
  obtain ⟨k, -, hk⟩ := exists_isAlive hst hw
  exact Bool.noConfusion ((h.free ha k).symm.trans hk)

/-- A turn that leaves the flags alone. -/
theorem Sound.ofFlags (h : o.Sound) {u : Session} (hu : o.session.SameFlags u) :
    ({ o with session := u } : Threads).Sound := by
  obtain ⟨hc, hg, hr, hd, he⟩ := hu
  exact {
    h with
    past := fun hp => hd.trans (h.past hp)
    releasing := fun hs => hd.trans (h.releasing hs)
    released := fun hs => hd.trans (h.released (he.symm.trans hs))
    requested := fun hs => hr.trans (h.requested hs)
    destroying := fun hs => (h.destroying (hd.symm.trans hs)).imp_left hr.trans
    claimed := fun hl => (h.claimed hl).imp_left hg.trans
    cleared := fun hl hp => by
      show o.attempt.outcome u.stopRequested = false
      rw [hr]
      exact h.cleared hl hp
    missed := h.missed
    due := fun hs => h.due (hr.symm.trans hs)
    final := fun hs => h.final (he.symm.trans hs)
    up := fun hs hn st hst hw => by
      show st.outcome u.connected
      rw [hc]
      exact h.up (hr.symm.trans hs) (hd.symm.trans hn) st hst hw }

/-- The engine has at least the stops that it had. -/
theorem Sound.ofQueue (h : o.Sound) {l : Loopback} (hl : o.HasStop → .stop ∈ l.queue) :
    ({ o with engine := l } : Threads).Sound :=
  { h with
    claimed := fun hn => (h.claimed hn).imp_right fun hs => ⟨hl hs.1, hs.2⟩
    missed := fun hs hn => hl (h.missed hs hn)
    due := fun hr hp => (h.due hr hp).imp_left hl
    final := fun hr hp => hl (h.final hr hp)
    cleared := h.cleared
    up := h.up }

theorem Sound.not_early (h : o.Sound) (hs : o.stop ≠ .idle) : o.attempt.isEarly = false :=
  Bool.eq_false_iff.mpr fun he => hs (h.early he)

theorem Sound.upAt (h : o.Sound) {k : Nat} {st : Stage} (hk : o.workers[k]? = some st)
    (hr : o.session.stopRequested = false) (hd : o.session.destroying = false)
    (hw : st.willServe) : st.outcome o.session.connected :=
  h.up hr hd st (List.mem_of_getElem? hk) hw

end Threads

end TunnelRelay
