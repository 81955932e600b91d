import Mathlib.Data.List.Infix
import TunnelRelay.Proofs.Life.Soundness

/-!
# Attempts that are refused and attempts that are admitted

An attempt is refused before it changes anything, or it is admitted and comes to one of four
ends. Each of the three ends with a fault gives back what the attempt took, so that the next one
is admitted again.

## Main definitions

- `Session.Busy` — there is an attempt, a connection or a worker
- `Session.afterFault`, `Session.withWorker` — the session after an attempt that was admitted
- `Session.Ends` — the ends of an attempt that was admitted

## Main statements

- `Session.connect_ends` — an attempt on an open session
- `Moment.Reachable.connect_all_or_nothing` — attempts at every moment of a run
-/

namespace TunnelRelay

open Engine (Config Credentials Event Failure ProfileInfo)

namespace Session

/-- There is an attempt in flight, a connection, or a worker that runs. -/
def Busy (s : Session) : Prop := s.worker = .running ∨ s.connected ∨ s.connecting

/-- The phase in which a fault leaves an attempt. -/
def restingPhase : Fault → Phase
  | .invalidParameters _ => .idle
  | _ => .failed

/-- The session after an attempt that was admitted and ended with a fault. -/
def afterFault (s : Session) (f : Fault) : Session :=
  { s with phase := restingPhase f, stopRequested := false, lastError := some f.message }

/-- The session after an attempt that was admitted and got its worker. -/
def withWorker (s : Session) : Session :=
  { s with
    phase := .connecting
    connecting := true
    stopRequested := false
    lastError := none
    worker := .running }

/-- The ends of an attempt that was admitted, by the engine's answers. -/
inductive Ends (s : Session) (a : Answers) (c : Config) (k : Credentials) : Attempt → Prop
  /-- The engine does not take the profile. -/
  | rejected {e : Failure} (he : a.evaluate c = .error e) :
      Ends s a c k ⟨s.afterFault (.configEvaluation e.message),
        .error (.configEvaluation e.message), [.evaluate c]⟩
  /-- There are no credentials to provide. -/
  | unnamed {i : ProfileInfo} (he : a.evaluate c = .ok i)
      (hk : k.username = "" ∨ k.password = "") :
      Ends s a c k ⟨s.afterFault (.invalidParameters "Credentials are empty"),
        .error (.invalidParameters "Credentials are empty"), [.evaluate c]⟩
  /-- The engine does not take the credentials. -/
  | declined {i : ProfileInfo} {e : Failure} (he : a.evaluate c = .ok i)
      (hu : k.username ≠ "") (hp : k.password ≠ "") (ha : a.authenticate k = .error e) :
      Ends s a c k ⟨s.afterFault (credentialsFault e), .error (credentialsFault e),
        [.evaluate c, .authenticate k]⟩
  /-- The engine's connection is started on a worker. -/
  | started {i : ProfileInfo} (he : a.evaluate c = .ok i)
      (hu : k.username ≠ "") (hp : k.password ≠ "") (ha : a.authenticate k = .ok ()) :
      Ends s a c k ⟨s.withWorker, .ok (), [.evaluate c, .authenticate k, .run]⟩

/-! ### What the engine says about credentials -/

theorem isInside_iff {w t : List Char} : isInside w t ↔ w <:+: t := by
  induction t with
  | nil => cases w <;> simp [isInside]
  | cons c t ih =>
    rw [isInside, Bool.or_eq_true, ih, List.isPrefixOf_iff_prefix, List.infix_cons_iff]

theorem credentialsFault_eq (e : Failure) :
    credentialsFault e =
      if ∃ w ∈ refusalWords, w.toList <:+: e.message.toList.map Char.toLower then
        .authFailed e.message
      else .invalidParameters e.message := by
  have h : (refusalWords.any fun w => isInside w.toList (e.message.toList.map Char.toLower)) ↔
      ∃ w ∈ refusalWords, w.toList <:+: e.message.toList.map Char.toLower := by
    simp only [List.any_eq_true, isInside_iff]
  rw [credentialsFault]
  exact if_congr h rfl rfl

/-! ### Attempts that are refused -/

variable {s : Session} {profile : String}

theorem begin?_of_blank (hd : s.destroying = false) (hb : Text.isAllBlank profile.toList) :
    s.begin? profile = .error (.invalidParameters "config is empty",
      { s with lastError := some (Fault.invalidParameters "config is empty").message }) := by
  rw [begin?, if_neg (by simp [hd]), if_pos hb]
  rfl

theorem begin?_of_busy (hd : s.destroying = false) (hb : Text.isAllBlank profile.toList = false)
    (hs : s.Busy) : s.begin? profile = .error (.alreadyConnected, s) :=
  (begin?_eq_alreadyConnected_iff hd hb).2 hs

/-- The two sessions differ in the text of the last error, if they differ at all. -/
def SameButError (s u : Session) : Prop := u = { s with lastError := u.lastError }

theorem SameButError.setPhase {s u : Session} (h : s.SameButError u) (p : Phase) :
    (s.setPhase p).SameButError (u.setPhase p) := by
  rw [h]
  unfold Session.setPhase
  split <;> rfl

theorem SameButError.fail {s u : Session} (h : s.SameButError u) (text : String) :
    (s.fail text).SameButError (u.fail text) := by
  apply SameButError.setPhase
  rw [h]
  rfl

theorem SameButError.remember {s u : Session} (h : s.SameButError u) (e : Event) :
    (s.remember e).SameButError (u.remember e) := by
  rw [h]
  unfold Session.remember
  split <;> rfl

theorem SameButError.follow {s u : Session} (h : s.SameButError u) (e : Event) :
    (s.follow e).SameButError (u.follow e) := by
  cases hk : e.kind with
  | connected =>
    simp only [Session.follow, hk]
    apply SameButError.setPhase
    rw [h]
    rfl
  | disconnected =>
    have hp : u.clearFlags.phase = s.clearFlags.phase := by rw [h]; rfl
    simp only [Session.follow, hk, hp]
    split
    all_goals
      rw [h]
      rfl
  | authPending =>
    have hc : u.connected = s.connected := by rw [h]
    simp only [Session.follow, hk, hc]
    split
    · exact h.fail _
    · split
      · exact h
      · exact h.setPhase _
  | reconnecting => simpa only [Session.follow, hk] using h.setPhase .reconnecting
  | authFailed => simpa only [Session.follow, hk] using h.fail _
  | transportError | compressError =>
    simp only [Session.follow, hk]
    split
    · exact h.fail _
    · rw [h]
      rfl
  | _ => simpa only [Session.follow, hk] using h

/-- The text of the last error has no part in what a session hears. -/
theorem SameButError.hear {s u : Session} (h : s.SameButError u) (e : Event) :
    (s.hear e).SameButError (u.hear e) := by
  have hd : u.destroying = s.destroying := by rw [h]
  have hr := h.remember e
  have hi : (u.remember e).ignores e = (s.remember e).ignores e := by rw [hr]; rfl
  simp only [Session.hear, hd, hi]
  split
  · exact h
  · split
    · exact hr
    · exact hr.follow e

theorem SameButError.hearAll {s u : Session} (h : s.SameButError u) (es : List Event) :
    (es.foldl Session.hear s).SameButError (es.foldl Session.hear u) := by
  induction es generalizing s u with
  | nil => exact h
  | cons e es ih => exact ih (h.hear e)

/-! ### Attempts that are admitted -/

/-- An attempt that fails before its worker runs lets go of the session. -/
theorem abort_eq (hp : s.phase ≠ .destroyed) (f : Fault) : s.abort f =
    { s with
      connecting := false
      phase := restingPhase f
      lastError := some f.message } := by
  have h : ∀ p, Session.setPhase { s with connecting := false } p =
      { s with connecting := false, phase := p } := fun p => if_neg hp
  cases f
  all_goals
    simp only [abort, h]
    rfl

/-- A session that takes an attempt. -/
structure Open (s : Session) : Prop where
  destroying : s.destroying = false
  released : s.released = false
  phase : s.phase ≠ .destroyed
  free : ¬s.Busy

/-- The session while the engine has the profile. -/
def engaged (s : Session) : Session :=
  { s with phase := .configuring, connecting := true, stopRequested := false, lastError := none }

theorem Open.begun (h : s.Open) (hb : Text.isAllBlank profile.toList = false) :
    (s.begin? profile).bind engage = .ok s.engaged := by
  obtain ⟨u, hu, hr⟩ := exists_begin?_eq_ok h.destroying hb h.free
  obtain ⟨-, -, -, -, rfl⟩ := begin?_eq_ok hu
  have hs : Session.setPhase
      { s with connecting := true, stopRequested := false, lastError := none } .configuring =
        s.engaged := if_neg h.phase
  rw [hu, hs]
  exact engage_of_held h.released

theorem Open.connecting (h : s.Open) : s.connecting = false := by
  by_contra hc
  exact h.free (.inr (.inr (by simpa using hc)))

/-- The session while the engine has the credentials. -/
def named (s : Session) : Session := { s.engaged with phase := .authenticating }

theorem setPhase_engaged (s : Session) : s.engaged.setPhase .authenticating = s.named :=
  if_neg Phase.noConfusion

/-- A fault gives back what the attempt took, before the credentials and after them. -/
theorem Open.giveUp (h : s.Open) {u : Session} (hu : u = s.engaged ∨ u = s.named) (f : Fault) :
    u.giveUp f = .error (f, s.afterFault f) := by
  have hc := h.connecting
  obtain rfl | rfl := hu
  all_goals
    rw [Session.giveUp, abort_eq Phase.noConfusion]
    simp only [Session.afterFault, engaged, named, hc]

theorem startWorker_named (s : Session) : s.named.startWorker = s.withWorker := by
  have h : s.named.setPhase .connecting = { s.named with phase := .connecting } :=
    if_neg Phase.noConfusion
  rw [startWorker, h]
  rfl

theorem Open.afterFault (h : s.Open) (f : Fault) : (s.afterFault f).Open where
  destroying := h.destroying
  released := h.released
  phase := by cases f <;> exact Phase.noConfusion
  free := h.free

/-- Without a thread for the worker, the session is as open as after any other fault. -/
theorem Open.refuseWorker (h : s.Open) (text : String) :
    ∃ f, f = Fault.internal ("cannot spawn worker: " ++ text) ∧
      s.named.refuseWorker text = { s.afterFault f with worker := .absent } ∧
      (s.named.refuseWorker text).Open := by
  have hc := h.connecting
  have hs : s.named.setPhase .connecting = { s.named with phase := .connecting } :=
    if_neg Phase.noConfusion
  have he : s.named.refuseWorker text =
      { s.afterFault (.internal ("cannot spawn worker: " ++ text)) with worker := .absent } := by
    rw [Session.refuseWorker, hs, abort_eq Phase.noConfusion]
    simp only [Session.afterFault, engaged, named, hc]
  refine ⟨_, rfl, he, ?_⟩
  rw [he]
  refine ⟨h.destroying, h.released, Phase.noConfusion, ?_⟩
  rintro (hw | hcc | hk)
  · cases hw
  · exact h.free (.inr (.inl hcc))
  · exact h.free (.inr (.inr hk))

/-- **An attempt on an open session comes to one of its ends**, whatever the engine answers. -/
theorem connect_ends (h : s.Open) (hb : Text.isAllBlank profile.toList = false) (a : Answers)
    (username password : String) : s.Ends a (s.engineConfig profile) ⟨username, password⟩
      (s.connect a profile username password) := by
  have hbegun := h.begun hb
  cases he : a.evaluate (s.engineConfig profile) with
  | error e =>
    have hv : s.engaged.evaluated ⟨username, password⟩ (.error e) = _ := h.giveUp (.inl rfl) _
    simp only [connect, hbegun, he, hv]
    exact .rejected he
  | ok i =>
    by_cases hk : username = "" ∨ password = ""
    · let f := Fault.invalidParameters "Credentials are empty"
      have hv : s.engaged.evaluated ⟨username, password⟩ (.ok i) = .error (f, s.afterFault f) := by
        have hk : (username.isEmpty || password.isEmpty) = true := by simpa using hk
        simp only [evaluated, hk, if_true, setPhase_engaged]
        exact h.giveUp (.inr rfl) _
      simp only [connect, hbegun, he, hv]
      exact .unnamed he hk
    · obtain ⟨hu, hp⟩ := not_or.1 hk
      have hv : s.engaged.evaluated ⟨username, password⟩ (.ok i) = .ok s.named := by
        rw [← setPhase_engaged]
        exact evaluated_of_ok hu hp s.engaged i
      cases ha : a.authenticate ⟨username, password⟩ with
      | error e =>
        have hw : s.named.authenticated (.error e) = _ := h.giveUp (.inr rfl) _
        simp only [connect, hbegun, he, hv, ha, hw]
        exact .declined he hu hp ha
      | ok x =>
        have hw : s.named.authenticated (.ok x) = .ok s.withWorker :=
          congrArg Except.ok (startWorker_named s)
        simp only [connect, hbegun, he, hv, ha, hw]
        exact .started he hu hp ha

theorem Ends.authenticate_mem_iff {a : Answers} {c : Config} {k : Credentials} {r : Attempt}
    (h : s.Ends a c k r) : (∃ k', .authenticate k' ∈ r.requests) ↔
      (∃ i, a.evaluate c = .ok i) ∧ k.username ≠ "" ∧ k.password ≠ "" := by
  cases h with
  | rejected he =>
    refine iff_of_false (by simp) ?_
    rintro ⟨⟨i, hi⟩, -⟩
    cases he.symm.trans hi
  | unnamed he hk => exact iff_of_false (by simp) fun ⟨_, hu, hp⟩ => hk.elim hu hp
  | declined he hu hp | started he hu hp => exact iff_of_true ⟨k, by simp⟩ ⟨⟨_, he⟩, hu, hp⟩

theorem Ends.run_mem_iff {a : Answers} {c : Config} {k : Credentials} {r : Attempt}
    (h : s.Ends a c k r) :
    .run ∈ r.requests ↔ .authenticate k ∈ r.requests ∧ a.authenticate k = .ok () := by
  cases h with
  | rejected | unnamed => simp
  | declined _ _ _ ha => simp [ha]
  | started _ _ _ ha => simp [ha]

theorem Ends.engineConfig_of_error {a : Answers} {c : Config} {k : Credentials} {r : Attempt}
    (h : s.Ends a c k r) {f : Fault} (hf : r.outcome = .error f) (profile : String) :
    r.session.engineConfig profile = s.engineConfig profile := by
  cases h with
  | started => cases hf
  | _ => rfl

/-- After a fault of an attempt that was admitted, the next attempt is admitted, too. -/
theorem Ends.open_of_error {a : Answers} {c : Config} {k : Credentials} {r : Attempt}
    (h : s.Open) (hr : s.Ends a c k r) {f : Fault} (hf : r.outcome = .error f) :
    r.session.Open := by
  cases hr with
  | started => cases hf
  | _ => exact h.afterFault _

end Session

namespace Moment

/-- A reachable session is open unless it is being released or there is something already. -/
theorem Sound.open {m : Moment} (h : m.Sound) (hd : m.session.destroying = false)
    (hb : ¬m.session.Busy) : m.session.Open := by
  have hr : m.session.released = false := by
    by_contra hr
    exact Bool.false_ne_true (hd.symm.trans (h.released (by simpa using hr)))
  refine ⟨hd, hr, ?_, hb⟩
  intro hp
  exact Bool.false_ne_true (hr.symm.trans (h.phase.1 hp))

/-- **An attempt is all or nothing**, at every moment of a run and whatever the engine answers. A
session that is being released, a blank profile and a session that is busy are refused, in this
order, without a request to the engine. Otherwise the engine gets the normalised profile, then the
credentials if there are both, then its worker, each only after it took what came before. A fault
leaves the session as open as it was. -/
theorem Reachable.connect_all_or_nothing {m : Moment} (hm : m.Reachable Anyhow)
    (a : Session.Answers) (profile username password : String) :
    let s := m.session
    let c := s.engineConfig profile
    let k : Credentials := ⟨username, password⟩
    let r := s.connect a profile username password
    (s.destroying → r = ⟨s, .error (.internal "session is being destroyed"), []⟩) ∧
    (s.destroying = false → Text.isAllBlank profile.toList →
      r = ⟨{ s with lastError := some "Invalid parameters: config is empty" },
        .error (.invalidParameters "config is empty"), []⟩ ∧
      ∀ es : List Event, (es.foldl Session.hear s).SameButError (es.foldl Session.hear r.session)) ∧
    (s.destroying = false → Text.isAllBlank profile.toList = false → s.Busy →
      r = ⟨s, .error .alreadyConnected, []⟩) ∧
    (s.destroying = false → Text.isAllBlank profile.toList = false → ¬s.Busy →
      c.content = String.ofList (Profile.normalize s.prefs profile.toList) ∧ s.Ends a c k r ∧
      ((∃ k', .authenticate k' ∈ r.requests) ↔
        (∃ i, a.evaluate c = .ok i) ∧ username ≠ "" ∧ password ≠ "") ∧
      (.run ∈ r.requests ↔ .authenticate k ∈ r.requests ∧ a.authenticate k = .ok ()) ∧
      ∀ f, r.outcome = .error f → ∀ (b : Session.Answers) (profile' username' password' : String),
        Text.isAllBlank profile'.toList = false →
        r.session.Ends b (s.engineConfig profile') ⟨username', password'⟩
          (r.session.connect b profile' username' password')) ∧
    ∀ e : Failure, Session.credentialsFault e =
      if ∃ w ∈ ["auth", "credential", "password", "username", "invalid"],
          w.toList <:+: e.message.toList.map Char.toLower then .authFailed e.message
      else .invalidParameters e.message := by
  refine ⟨fun hd => ?_, fun hd hb => ?_, fun hd hb hs => ?_, fun hd hb hs => ?_,
    Session.credentialsFault_eq⟩
  · exact Session.connect_of_refused (Session.begin?_of_destroying hd profile) a username password
  · rw [Session.connect_of_refused (Session.begin?_of_blank hd hb) a username password]
    refine ⟨rfl, fun es => ?_⟩
    apply Session.SameButError.hearAll
    rfl
  · exact Session.connect_of_refused (Session.begin?_of_busy hd hb hs) a username password
  · have ho := hm.sound.open hd hs
    have he := Session.connect_ends ho hb a username password
    refine ⟨rfl, he, he.authenticate_mem_iff, he.run_mem_iff, ?_⟩
    intro f hf b profile' username' password' hb'
    have hn := Session.connect_ends (he.open_of_error ho hf) hb' b username' password'
    rwa [he.engineConfig_of_error hf] at hn

theorem connect_all_or_nothing_of_refusal :
    let a : Session.Answers := ⟨fun _ => .ok {}, fun _ => .error { message := "Bad PASSWORD" }⟩
    let s := fresh.session
    fresh.Reachable Anyhow ∧
      (s.connect a "client" "user" "secret").outcome = .error (.authFailed "Bad PASSWORD") ∧
      (s.connect a "client" "user" "secret").session =
        s.afterFault (.authFailed "Bad PASSWORD") := by
  intro a s
  obtain ⟨-, -, -, hopen, hword⟩ :=
    (reachable_fresh (P := Anyhow)).connect_all_or_nothing a "client" "user" "secret"
  have hf : Session.credentialsFault { message := "Bad PASSWORD" } =
      .authFailed "Bad PASSWORD" := by
    rw [hword]
    exact if_pos (by decide +kernel)
  have hs : s.Ends a _ _ _ := (hopen rfl rfl (by rintro (h | h | h) <;> cases h)).2.1
  refine ⟨reachable_fresh, ?_⟩
  generalize s.connect a "client" "user" "secret" = r at hs ⊢
  cases hs with
  | rejected he => cases he
  | unnamed _ hk => exact absurd hk (by decide)
  | declined _ _ _ ha =>
    cases ha
    exact ⟨congrArg Except.error hf, congrArg s.afterFault hf⟩
  | started _ _ _ ha => cases ha

end Moment

end TunnelRelay
