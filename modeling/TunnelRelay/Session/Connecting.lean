import TunnelRelay.Profile.Normal
import TunnelRelay.Session.Basic
import TunnelRelay.Text.Blank

/-!
# Attempts and soft restarts

An attempt begins if the session is free; then the engine evaluates the profile and takes
the credentials, and a worker is started. What the engine answers is given, and what it is asked
is part of the result.

## Main definitions

- `Session.Answers` — what the engine answers
- `Session.Request` — what the engine is asked
- `Session.begin?` — the checks of an attempt
- `Session.engage`, `Session.evaluated`, `Session.authenticated` — its further stages
- `Session.connect` — an attempt
- `Session.reconnect` — a restart of the transport
-/

namespace TunnelRelay.Session

open Engine (Config Credentials Failure ProfileInfo)

/-- What an engine answers to the requests of an attempt. -/
structure Answers where
  /-- What it learned from a profile. -/
  evaluate : Config → Except Failure ProfileInfo
  /-- Whether it takes credentials. -/
  authenticate : Credentials → Except Failure Unit

/-- What an engine is asked in an attempt. -/
inductive Request where
  /-- To evaluate a profile. -/
  | evaluate (c : Config)
  /-- To take credentials. -/
  | authenticate (c : Credentials)
  /-- To connect, on a worker. -/
  | run
  deriving DecidableEq, Repr

/-- The result of an attempt. -/
structure Attempt where
  /-- The session afterwards. -/
  session : Session
  /-- Success means that the worker runs. -/
  outcome : Except Fault Unit
  /-- What the engine was asked, in order. -/
  requests : List Request

/-- The session with the text of a fault as its last error. -/
def recordFault (s : Session) (f : Fault) : Session := s.setError f.message

/-- The session after an attempt that failed before its worker ran. -/
def abort (s : Session) (f : Fault) : Session :=
  let s := { s with connecting := false }
  let s := match f with
    | .invalidParameters _ => s.setPhase .idle
    | _ => s.setPhase .failed
  s.recordFault f

/-- Words in an engine's message that tell that credentials were refused. -/
def refusalWords : List String := ["auth", "credential", "password", "username", "invalid"]

/-- One text stands inside another. -/
def isInside (needle : List Char) : List Char → Bool
  | [] => needle.isEmpty
  | c :: t => needle.isPrefixOf (c :: t) || isInside needle t

/-- The fault of credentials that the engine did not take. Letters count in either case. Two
letters outside of ASCII have an ASCII letter in lower case, and neither makes a difference: the
Kelvin sign becomes a `k`, which is in none of the words, and `İ` becomes an `i` with a dot that
keeps it apart from the next letter of a word. -/
def credentialsFault (e : Failure) : Fault :=
  let t := e.message.toList.map Char.toLower
  if refusalWords.any fun w => isInside w.toList t then .authFailed e.message
  else .invalidParameters e.message

/-- The checks of an attempt, and its beginning. A fault comes with the session it leaves. -/
def begin? (s : Session) (profile : String) : Except (Fault × Session) Session :=
  if s.destroying then .error (.internal "session is being destroyed", s)
  else if Text.isAllBlank profile.toList then
    let f := Fault.invalidParameters "config is empty"
    .error (f, s.recordFault f)
  else if s.workerRunning || s.connected || s.connecting then .error (.alreadyConnected, s)
  else .ok ({ s with connecting := true, stopRequested := false, lastError := none }.setPhase
    .configuring)

/-- What the engine is given for a profile. -/
def engineConfig (s : Session) (profile : String) : Config :=
  s.prefs.engineConfig (String.ofList (Profile.normalize s.prefs profile.toList))

/-- The session with a worker. -/
def startWorker (s : Session) : Session := { s.setPhase .connecting with worker := .running }

/-- The session after the system had no thread for its worker. -/
def refuseWorker (s : Session) (text : String) : Session :=
  { s.setPhase .connecting with worker := .absent }.abort
    (.internal ("cannot spawn worker: " ++ text))

/-- An attempt that ends with a fault before its worker runs. -/
def giveUp (s : Session) (f : Fault) : Except (Fault × Session) Session := .error (f, s.abort f)

/-- The session takes hold of its engine, if it was not given up. -/
def engage (s : Session) : Except (Fault × Session) Session :=
  if s.released then s.giveUp (.internal "engine client released") else .ok s

/-- What follows the engine's answer to the profile: there have to be credentials. -/
def evaluated (s : Session) (k : Credentials) (r : Except Failure ProfileInfo) :
    Except (Fault × Session) Session :=
  match r with
  | .error e => s.giveUp (.configEvaluation e.message)
  | .ok _ =>
    let s := s.setPhase .authenticating
    if k.username.isEmpty || k.password.isEmpty then
      s.giveUp (.invalidParameters "Credentials are empty")
    else .ok s

/-- What follows the engine's answer to the credentials: a worker is started. -/
def authenticated (s : Session) (r : Except Failure Unit) : Except (Fault × Session) Session :=
  match r with
  | .error e => s.giveUp (credentialsFault e)
  | .ok _ => .ok s.startWorker

/-- An attempt to connect. -/
def connect (s : Session) (a : Answers) (profile username password : String) : Attempt :=
  let c := s.engineConfig profile
  let k : Credentials := ⟨username, password⟩
  match (s.begin? profile).bind engage with
  | .error (f, s) => ⟨s, .error f, []⟩
  | .ok s =>
    match s.evaluated k (a.evaluate c) with
    | .error (f, s) => ⟨s, .error f, [.evaluate c]⟩
    | .ok s =>
      match s.authenticated (a.authenticate k) with
      | .error (f, s) => ⟨s, .error f, [.evaluate c, .authenticate k]⟩
      | .ok s => ⟨s, .ok (), [.evaluate c, .authenticate k, .run]⟩

/-- A restart of the transport has an effect. -/
def canReconnect (s : Session) : Bool := s.connected || s.connecting

/-- Asks the engine to restart the transport, if the session is connected or connecting. The
answer tells whether it did. -/
def reconnect (s : Session) (answer : Except Failure Unit) : Except Fault Bool × Session :=
  if !s.canReconnect then (.ok false, s)
  else if s.released then (.error .notReady, s)
  else match answer with
    | .ok _ => (.ok true, { s with reconnects := s.reconnects + 1 })
    | .error e =>
      let text := "Reconnect failed: " ++ e.message
      (.error (.connectionFailed text), s.setError text)

/-- A restart counts, or leaves an error, and changes nothing else. -/
theorem reconnect_eq (s : Session) (answer : Except Failure Unit) : (s.reconnect answer).2 =
    { s with
      reconnects := (s.reconnect answer).2.reconnects
      lastError := (s.reconnect answer).2.lastError } := by
  unfold reconnect
  split
  · rfl
  · split
    · rfl
    · split <;> rfl

@[simp] theorem connecting_abort (s : Session) (f : Fault) : (s.abort f).connecting = false := by
  cases f <;> simp [abort, recordFault, setError]

@[simp] theorem connected_abort (s : Session) (f : Fault) :
    (s.abort f).connected = s.connected := by
  cases f <;> simp [abort, recordFault, setError]

@[simp] theorem lastError_abort (s : Session) (f : Fault) :
    (s.abort f).lastError = some f.message := rfl

theorem begin?_of_destroying {s : Session} (h : s.destroying) (profile : String) :
    s.begin? profile = .error (.internal "session is being destroyed", s) := by
  simp [begin?, h]

/-- What an attempt finds and leaves when it is admitted. -/
theorem begin?_eq_ok {s u : Session} {profile : String} (h : s.begin? profile = .ok u) :
    s.destroying = false ∧ s.worker ≠ .running ∧ s.connected = false ∧ s.connecting = false ∧
      u = { s with connecting := true, stopRequested := false, lastError := none }.setPhase
        .configuring := by
  unfold begin? at h
  split at h
  · cases h
  · split at h
    · cases h
    · split at h
      · cases h
      · next hd _ hb =>
        cases h
        simp only [Bool.or_eq_true, not_or, Bool.not_eq_true] at hb
        exact ⟨by simpa using hd, by simpa [workerRunning] using hb.1.1, hb.1.2, hb.2, rfl⟩

/-- What an attempt leaves when it is not admitted. -/
theorem begin?_eq_error {s u : Session} {profile : String} {f : Fault}
    (h : s.begin? profile = .error (f, u)) : u = s ∨ u = s.recordFault f := by
  unfold begin? at h
  split at h
  · cases h
    exact .inl rfl
  · split at h
    · cases h
      exact .inr rfl
    · split at h
      · cases h
        exact .inl rfl
      · cases h

/-- With credentials, an attempt goes on to them. -/
theorem evaluated_of_ok {k : Credentials} (hu : k.username ≠ "") (hp : k.password ≠ "")
    (s : Session) (i : ProfileInfo) : s.evaluated k (.ok i) = .ok (s.setPhase .authenticating) := by
  simp [evaluated, hu, hp]

theorem engage_of_held {s : Session} (h : s.released = false) : s.engage = .ok s := by
  simp [engage, h]

/-- An attempt is one too many if and only if there is something already. -/
theorem begin?_eq_alreadyConnected_iff {s : Session} {profile : String}
    (hd : s.destroying = false) (hb : Text.isAllBlank profile.toList = false) :
    s.begin? profile = .error (.alreadyConnected, s) ↔
      s.worker = .running ∨ s.connected ∨ s.connecting := by
  have hc : (s.workerRunning || s.connected || s.connecting) = true ↔
      s.worker = .running ∨ s.connected ∨ s.connecting := by
    simp [workerRunning, or_assoc]
  rw [← hc]
  cases hw : s.workerRunning || s.connected || s.connecting <;> simp [begin?, hd, hb, hw]

theorem exists_begin?_eq_ok {s : Session} {profile : String} (hd : s.destroying = false)
    (hb : Text.isAllBlank profile.toList = false)
    (hc : ¬(s.worker = .running ∨ s.connected ∨ s.connecting)) :
    ∃ u, s.begin? profile = .ok u ∧ u.released = s.released := by
  have hn : (s.workerRunning || s.connected || s.connecting) = false := by
    simp only [not_or, Bool.not_eq_true] at hc
    simp [workerRunning, hc.1, hc.2.1, hc.2.2]
  refine ⟨Session.setPhase { s with connecting := true, stopRequested := false, lastError := none }
    .configuring, ?_, released_setPhase _ _⟩
  simp only [begin?, hd, hb, hn, if_false, Bool.false_eq_true]

theorem credentialsFault_ne (e : Failure) : credentialsFault e ≠ .alreadyConnected := by
  unfold credentialsFault
  dsimp only
  split <;> exact Fault.noConfusion

theorem ne_alreadyConnected_of_evaluated {s u : Session} {k : Credentials}
    {r : Except Failure ProfileInfo} {f : Fault} (h : s.evaluated k r = .error (f, u)) :
    f ≠ .alreadyConnected := by
  rintro rfl
  cases r with
  | error e => cases h
  | ok i =>
    simp only [evaluated] at h
    split at h <;> cases h

theorem ne_alreadyConnected_of_authenticated {s u : Session} {r : Except Failure Unit}
    {f : Fault} (h : s.authenticated r = .error (f, u)) : f ≠ .alreadyConnected := by
  rintro rfl
  cases r with
  | error e =>
    have hf : credentialsFault e = .alreadyConnected := congrArg Prod.fst (Except.error.inj h)
    exact credentialsFault_ne e hf
  | ok _ => cases h

theorem connect_of_refused {s u : Session} {profile : String} {f : Fault}
    (h : s.begin? profile = .error (f, u)) (a : Answers) (username password : String) :
    s.connect a profile username password = ⟨u, .error f, []⟩ := by
  simp [connect, h, Except.bind]

/-- An attempt that was admitted reaches the engine, and is not one too many. -/
theorem connect_of_admitted {s u : Session} {profile : String} (h : s.begin? profile = .ok u)
    (hr : u.released = false) (a : Answers) (username password : String) :
    (s.connect a profile username password).outcome ≠ .error .alreadyConnected ∧
      (s.connect a profile username password).requests.head? =
        some (.evaluate (s.engineConfig profile)) := by
  have hs : (s.begin? profile).bind engage = .ok u := by rw [h]; exact engage_of_held hr
  simp only [connect, hs]
  cases he : u.evaluated ⟨username, password⟩ (a.evaluate (s.engineConfig profile)) with
  | error y => exact ⟨fun hy => ne_alreadyConnected_of_evaluated he (Except.error.inj hy), rfl⟩
  | ok v =>
    cases ha : v.authenticated (a.authenticate ⟨username, password⟩) with
    | error y =>
      refine ⟨fun hy => ne_alreadyConnected_of_authenticated ha ?_, by simp [ha]⟩
      simp only [ha] at hy
      exact Except.error.inj hy
    | ok w => exact ⟨by simp [ha], by simp [ha]⟩

@[simp] theorem connected_reconnect (s : Session) (answer : Except Failure Unit) :
    (s.reconnect answer).2.connected = s.connected := by
  rw [reconnect_eq]

theorem connected_of_begun {s u : Session} {profile : String}
    (h : (s.begin? profile).bind engage = .ok u) :
    u.connected = s.connected ∧ u.released = false := by
  cases hb : s.begin? profile with
  | error x => rw [hb] at h; cases h
  | ok v =>
    rw [hb] at h
    obtain ⟨-, -, -, -, rfl⟩ := begin?_eq_ok hb
    simp only [Except.bind, engage] at h
    split at h
    · cases h
    · next hr =>
      cases h
      exact ⟨by simp, by simpa using hr⟩

theorem connected_of_not_begun {s u : Session} {profile : String} {f : Fault}
    (h : (s.begin? profile).bind engage = .error (f, u)) : u.connected = s.connected := by
  cases hb : s.begin? profile with
  | error x =>
    rw [hb] at h
    cases h
    obtain rfl | rfl := begin?_eq_error hb
    · rfl
    · rfl
  | ok v =>
    rw [hb] at h
    obtain ⟨-, -, -, -, rfl⟩ := begin?_eq_ok hb
    simp only [Except.bind, engage] at h
    split at h
    · cases h
      simp
    · cases h

/-- An attempt makes no connection by itself. If it gets as far as a worker, the worker runs and
the engine is there. -/
theorem connect_requests (s : Session) (a : Answers) (profile username password : String) :
    (s.connect a profile username password).session.connected = s.connected ∧
      (Request.run ∉ (s.connect a profile username password).requests ∨
        (∃ c k, (s.connect a profile username password).requests =
          [.evaluate c, .authenticate k, .run]) ∧
        (s.connect a profile username password).session.worker = .running ∧
        (s.connect a profile username password).session.released = false) := by
  unfold connect
  cases hb : (s.begin? profile).bind engage with
  | error x => exact ⟨connected_of_not_begun hb, .inl (by simp)⟩
  | ok u =>
    obtain ⟨hc, hr⟩ := connected_of_begun hb
    dsimp only
    cases he : a.evaluate (s.engineConfig profile) with
    | error e => exact ⟨by simpa [evaluated, giveUp] using hc, .inl (by simp [evaluated, giveUp])⟩
    | ok i =>
      cases hk : username.isEmpty || password.isEmpty with
      | true =>
        exact ⟨by simp [evaluated, giveUp, hk, hc], .inl (by simp [evaluated, giveUp, hk])⟩
      | false =>
        cases ha : a.authenticate ⟨username, password⟩ with
        | error e =>
          exact ⟨by simp [evaluated, authenticated, giveUp, hk, hc],
            .inl (by simp [evaluated, authenticated, giveUp, hk])⟩
        | ok _ =>
          refine ⟨by simp [evaluated, authenticated, startWorker, hk, hc],
            .inr ⟨⟨s.engineConfig profile, ⟨username, password⟩, ?_⟩, ?_, ?_⟩⟩
          · simp only [evaluated, authenticated, hk, Bool.false_eq_true, if_false]
          · simp [evaluated, authenticated, startWorker, hk]
          · simp [evaluated, authenticated, startWorker, hk, hr]

end TunnelRelay.Session
