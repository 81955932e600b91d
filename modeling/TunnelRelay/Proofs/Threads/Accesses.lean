import TunnelRelay.Session.Connecting
import TunnelRelay.Session.Hearing
import TunnelRelay.Session.Stopping

/-!
# What one thread does to a session at a time

The operations of a session are made of single accesses to what its threads share: a store to one
of the flags, or what is done while a lock is held. Between two of them another thread may have its
turn. This module takes the operations apart.

## Main definitions

- `Session.Access`, `Session.access` — an access, and what it changes
- `Session.admission`, `Session.abortion` — how an attempt begins, and how it is given up
- `Session.response`, `Session.farewell` — what an event and a worker's return lead to

## Main statements

- `Session.perform_admission`, `Session.perform_abortion`, `Session.perform_response`,
  `Session.perform_farewell` — without a turn of another thread, the accesses are the operation
-/

namespace TunnelRelay.Session

open Engine (Event Verdict)

/-- An access to what the threads of a session share. -/
inductive Access where
  | connected (b : Bool)
  | connecting (b : Bool)
  | stopRequested (b : Bool)
  | lastError (text : Option String)
  | phase (p : Phase)
  /-- To the phase, after the connection ended. -/
  | rest
  /-- To the phase, while the server wants to know more. -/
  | question
  /-- To the phase and the last error, after the worker returned. -/
  | settle (v : Verdict)
  /-- To the engine and everybody who is called back: they are given up. -/
  | release

/-- The session after an access. -/
def access (s : Session) : Access → Session
  | .connected b => { s with connected := b }
  | .connecting b => { s with connecting := b }
  | .stopRequested b => { s with stopRequested := b }
  | .lastError text => { s with lastError := text }
  | .phase p => s.setPhase p
  | .rest => if s.phase.isSettled then s else { s with phase := .idle }
  | .question => if s.connected then s else s.setPhase .authenticating
  | .settle v => { s with phase := s.phase.afterReturn v, lastError := s.errorAfterReturn v }
  | .release => { s with released := true }

/-- The session after some accesses, one after the other. -/
def perform (s : Session) (as : List Access) : Session := as.foldl access s

/-- What follows when an attempt has set the flag that keeps others out. -/
def admission : List Access := [.stopRequested false, .lastError none, .phase .configuring]

/-- An attempt is given up. -/
def abortion (f : Fault) : List Access :=
  [.connecting false,
    .phase (match f with
      | .invalidParameters _ => .idle
      | _ => .failed),
    .lastError (some f.message)]

/-- The session fails. -/
def failure (text : String) : List Access :=
  [.lastError (some text), .connected false, .connecting false, .phase .failed]

/-- What an event leads to, apart from the history. -/
def response (e : Event) : List Access :=
  match e.kind with
  | .connected => [.connected true, .connecting false, .phase .connected]
  | .disconnected => [.connected false, .connecting false, .rest]
  | .reconnecting => [.phase .reconnecting]
  | .authFailed => failure ("Authentication failed: " ++ e.info)
  | .authPending =>
    if e.fatal then failure ("Authentication pending: " ++ e.info) else [.question]
  | .transportError | .compressError =>
    let text := e.kind.name ++ ": " ++ e.info
    if e.fatal then failure text else [.lastError (some text)]
  | _ => []

/-- What the return of a worker leads to. -/
def farewell (v : Verdict) : List Access := [.connecting false, .connected false, .settle v]

/-! ### Without a turn of another thread -/

@[simp] theorem perform_nil (s : Session) : s.perform [] = s := rfl

@[simp] theorem perform_cons (s : Session) (a : Access) (as : List Access) :
    s.perform (a :: as) = (s.access a).perform as := rfl

theorem perform_admission (s : Session) : { s with connecting := true }.perform admission =
    { s with connecting := true, stopRequested := false, lastError := none }.setPhase
      .configuring := rfl

theorem perform_abortion (s : Session) (f : Fault) : s.perform (abortion f) = s.abort f := by
  cases f <;> rfl

theorem perform_response (s : Session) (e : Event) : s.perform (response e) = s.follow e := by
  obtain ⟨kind, info, error, fatal⟩ := e
  cases kind with
  | connected | disconnected | reconnecting | authFailed => rfl
  | authPending | transportError | compressError => cases fatal <;> rfl
  | _ => rfl

/-- The worker itself ends after its last access. -/
theorem perform_farewell (s : Session) (v : Verdict) :
    { s.perform (farewell v) with worker := s.worker.ended } = s.exit v := rfl

/-! ### The flags -/

/-- The flag of a connection after an access. -/
def Access.onConnected (c : Bool) : Access → Bool
  | .connected b => b
  | _ => c

/-- The flag of an attempt after an access. -/
def Access.onConnecting (c : Bool) : Access → Bool
  | .connecting b => b
  | _ => c

/-- The request of a stop after an access. -/
def Access.onStopRequested (r : Bool) : Access → Bool
  | .stopRequested b => b
  | _ => r

/-- Whether the engine was given up, after an access. -/
def Access.onReleased (r : Bool) : Access → Bool
  | .release => true
  | _ => r

/-- The access concerns neither the request of a stop nor the release. -/
def Access.isMinor : Access → Bool
  | .stopRequested _ | .release => false
  | _ => true

/-- The access concerns no flag. -/
def Access.isPlain : Access → Bool
  | .connected _ | .connecting _ | .stopRequested _ | .release => false
  | _ => true

/-- The sessions have the same flags. -/
structure SameFlags (s u : Session) : Prop where
  connected : u.connected = s.connected
  connecting : u.connecting = s.connecting
  stopRequested : u.stopRequested = s.stopRequested
  destroying : u.destroying = s.destroying
  released : u.released = s.released

@[simp] theorem connected_access (s : Session) (a : Access) :
    (s.access a).connected = a.onConnected s.connected := by
  cases a with
  | phase p => exact connected_setPhase s p
  | rest | question => unfold access; dsimp only; split <;> simp [Access.onConnected]
  | _ => rfl

@[simp] theorem connecting_access (s : Session) (a : Access) :
    (s.access a).connecting = a.onConnecting s.connecting := by
  cases a with
  | phase p => exact connecting_setPhase s p
  | rest | question => unfold access; dsimp only; split <;> simp [Access.onConnecting]
  | _ => rfl

@[simp] theorem stopRequested_access (s : Session) (a : Access) :
    (s.access a).stopRequested = a.onStopRequested s.stopRequested := by
  cases a with
  | phase p => exact stopRequested_setPhase s p
  | rest | question => unfold access; dsimp only; split <;> simp [Access.onStopRequested]
  | _ => rfl

@[simp] theorem released_access (s : Session) (a : Access) :
    (s.access a).released = a.onReleased s.released := by
  cases a with
  | phase p => exact released_setPhase s p
  | rest | question => unfold access; dsimp only; split <;> simp [Access.onReleased]
  | _ => rfl

@[simp] theorem destroying_access (s : Session) (a : Access) :
    (s.access a).destroying = s.destroying := by
  cases a with
  | phase p => exact destroying_setPhase s p
  | rest | question => unfold access; dsimp only; split <;> simp
  | _ => rfl

theorem prefs_access (s : Session) (a : Access) : (s.access a).prefs = s.prefs := by
  cases a with
  | phase p => unfold access setPhase; dsimp only; split <;> rfl
  | rest => unfold access; dsimp only; split <;> rfl
  | question =>
    unfold access setPhase
    dsimp only
    split
    · rfl
    · split <;> rfl
  | _ => rfl

@[simp] theorem prefs_perform (s : Session) (as : List Access) :
    (s.perform as).prefs = s.prefs := by
  induction as generalizing s with
  | nil => rfl
  | cons a as ih => rw [perform_cons, ih, prefs_access]

/-- The accesses do not concern the worker. -/
theorem perform_with_worker (s : Session) (w : Worker) (as : List Access) :
    ({ s with worker := w } : Session).perform as = { s.perform as with worker := w } := by
  induction as generalizing s with
  | nil => rfl
  | cons a as ih =>
    have ha : ({ s with worker := w } : Session).access a = { s.access a with worker := w } := by
      cases a with
      | phase p => unfold access setPhase; dsimp only; split <;> rfl
      | rest => unfold access; dsimp only; split <;> rfl
      | question =>
        unfold access setPhase
        dsimp only
        split
        · rfl
        · split <;> rfl
      | _ => rfl
    rw [perform_cons, ha, ih]
    rfl

theorem access_sameFlags (s : Session) {a : Access} (h : a.isPlain) :
    s.SameFlags (s.access a) := by
  refine ⟨?_, ?_, ?_, s.destroying_access a, ?_⟩
  · rw [connected_access]
    cases a <;> first | rfl | cases h
  · rw [connecting_access]
    cases a <;> first | rfl | cases h
  · rw [stopRequested_access]
    cases a <;> first | rfl | cases h
  · rw [released_access]
    cases a <;> first | rfl | cases h

theorem access_minor (s : Session) {a : Access} (h : a.isMinor) :
    (s.access a).stopRequested = s.stopRequested ∧ (s.access a).destroying = s.destroying ∧
      (s.access a).released = s.released := by
  refine ⟨?_, s.destroying_access a, ?_⟩
  · rw [stopRequested_access]
    cases a <;> first | rfl | cases h
  · rw [released_access]
    cases a <;> first | rfl | cases h

end TunnelRelay.Session
