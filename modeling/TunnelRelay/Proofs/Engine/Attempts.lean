import Mathlib.Data.List.Induction
import TunnelRelay.Engine.Loopback

/-!
# Attempts of a loopback engine

A loopback engine evaluates profiles, takes credentials, queues commands and connects, one after
the other and as often as it is asked. Each connection goes by one of three courses, whatever its
surroundings answer, and obeys the commands up to the first stop.

## Main definitions

- `Engine.Contact`, `Engine.Transcript` — what an engine calls, with the answers
- `Engine.Loopback.Course` — how a connection can go
- `Engine.Loopback.Deed`, `Engine.Loopback.after` — what is done with an engine

## Main statements

- `Engine.Loopback.connect_watched` — a connection goes by its course
- `Engine.Loopback.after_grounded` — what an engine knows after all that was done with it
- `Engine.Loopback.attempt_follows_course` — every connection of every history

## Design notes

The surroundings answer as they like, and each answer may depend on all that they were told
before. A connection that no stop waits for does not come back, so it is not among the deeds.
-/

namespace TunnelRelay.Engine

/-- What a loopback engine calls, with the answer. -/
inductive Contact where
  | event (e : Event)
  | line (text : String)
  /-- A socket was to be protected. -/
  | protection (remote : String) (ipv6 granted : Bool)
  /-- A TUN was built and started with these directives, and this was its first report. -/
  | device (ds : List Directive) (report : Except String String)
  /-- The TUN was stopped and given up. -/
  | tearDown

/-- The surroundings as they are, with what they were called for, the latest last. -/
structure Transcript (σ : Type) where
  rest : σ
  contacts : List Contact := []

variable {σ : Type}

def Transcript.add (x : Transcript σ) (c : Contact) : Transcript σ :=
  { x with contacts := x.contacts ++ [c] }

/-- The host, and what it is told and answers is written down. -/
def Host.watched (h : Host σ) : Host (Transcript σ) where
  event e x := { x with rest := h.event e x.rest }.add (.event e)
  log text x := { x with rest := h.log text x.rest }.add (.line text)
  protect remote ipv6 x :=
    let (granted, s) := h.protect remote ipv6 x.rest
    (granted, { x with rest := s }.add (.protection remote ipv6 granted))
  tearDown x := { x with rest := h.tearDown x.rest }.add .tearDown

/-- The TUN is built and started, and its first report is written down. -/
def watched (b : BringUp σ) : BringUp (Transcript σ) := fun ds x =>
  let (r, s) := b ds x.rest
  (r, { x with rest := s }.add (.device ds r))

namespace Loopback

/-! ### The courses of a connection -/

/-- What is logged about a transport that stays in the tunnel. -/
def refusalLine (remote : String) : String := "transport socket to " ++ remote ++ " not protected"

/-- A transport is opened. -/
def opening (remote : String) (granted : Bool) : List Contact :=
  .protection remote false granted :: if granted then [] else [.line (refusalLine remote)]

/-- The server is looked up, and a transport to it opened. -/
def reaching (remote : String) (granted : Bool) : List Contact :=
  .event ⟨.resolve, remote, false, false⟩ :: .event ⟨.wait, "", false, false⟩ ::
    opening remote granted

/-- The credentials are accepted, and the reply is pushed. -/
def negotiating (reply : String) : List Contact :=
  [.event ⟨.authOk, "", false, false⟩, .event ⟨.pushRequest, "", false, false⟩,
    .event ⟨.pushReply, reply, false, false⟩]

/-- A command is obeyed by a connection with the TUN of this name. -/
def obeying (remote name : String) (c : Command) (granted : Bool) : List Contact :=
  match c with
  | .stop => []
  | .reconnect =>
    .event ⟨.reconnecting, "", false, false⟩ :: opening remote granted ++
      [.event ⟨.connected, name, false, false⟩]
  | .pause reason => [.event ⟨.other "PAUSE", reason, false, false⟩]
  | .resume => [.event ⟨.other "RESUME", "", false, false⟩]

/-- The connection ends. -/
def ending : List Contact := [.tearDown, .event ⟨.disconnected, "", false, false⟩]

/-- How a connection to a server can be established with these options and credentials: what is
called, and the name of the TUN or why there is no connection. -/
inductive Establishes (o : LoopbackOptions) (k : Credentials) (remote : String) :
    List Contact → Except Failure String → Prop where
  /-- Other credentials are expected. -/
  | refused (granted : Bool) (hk : ∃ e, o.expected = some e ∧ e ≠ k) :
      Establishes o k remote
        (reaching remote granted ++ [.event ⟨.authFailed, "credentials rejected", true, true⟩])
        (.error ⟨"AUTH_FAILED", true⟩)
  /-- The first report of the TUN is an error. -/
  | failed (granted : Bool) (text : String) (hk : ∀ e, o.expected = some e → e = k) :
      Establishes o k remote
        (reaching remote granted ++ (negotiating o.pushReply ++
          [.device (Directive.ofPushReply o.pushReply.toList) (.error text), .tearDown,
            .event ⟨.transportError, text, true, true⟩]))
        (.error ⟨text, true⟩)
  /-- The TUN runs. -/
  | established (granted : Bool) (name : String) (hk : ∀ e, o.expected = some e → e = k) :
      Establishes o k remote
        (reaching remote granted ++ (negotiating o.pushReply ++
          [.device (Directive.ofPushReply o.pushReply.toList) (.ok name),
            .event ⟨.connected, name, false, false⟩]))
        (.ok name)

/-- How a connection to a server can go with these options and credentials, while the commands
`now` wait before a stop and the commands `later` behind it: what is called, how it ends, and
which commands wait afterwards. -/
inductive Course (o : LoopbackOptions) (k : Credentials) (remote : String)
    (now later : List Command) : List Contact → Except Failure Unit → List Command → Prop where
  /-- It is not established, and obeys nothing. -/
  | broken {cs : List Contact} {e : Failure} (h : Establishes o k remote cs (.error e)) :
      Course o k remote now later cs (.error e) (now ++ .stop :: later)
  /-- It is established, and obeys up to the stop. Each command has an answer to the request that
  it may bring. -/
  | served {cs : List Contact} {name : String} (h : Establishes o k remote cs (.ok name))
      (answers : List Bool) (ha : answers.length = now.length) :
      Course o k remote now later
        (cs ++ ((List.zipWith (obeying remote name) now answers).flatten ++ ending)) (.ok ()) later

theorem accepts_iff (l : Loopback) :
    l.accepts = true ↔ ∀ e, l.options.expected = some e → e = l.credentials := by
  cases h : l.options.expected <;> simp [accepts, h]

section Watched

variable (h : Host σ) (b : BringUp σ) (l : Loopback) (remote name : String) (x : Transcript σ)

theorem openTransport_watched : ∃ granted, openTransport h.watched remote x =
    ⟨openTransport h remote x.rest, x.contacts ++ opening remote granted⟩ := by
  obtain ⟨granted, s, hp⟩ : ∃ granted s, h.protect remote false x.rest = (granted, s) :=
    ⟨_, _, rfl⟩
  have hw : h.watched.protect remote false x =
      (granted, ⟨s, x.contacts ++ [.protection remote false granted]⟩) := by
    simp only [Host.watched, hp]
    rfl
  refine ⟨granted, ?_⟩
  cases granted with
  | true =>
    simp only [openTransport, hp, hw]
    rfl
  | false =>
    simp only [openTransport, hp, hw]
    show (⟨_, (x.contacts ++ [_]) ++ [_]⟩ : Transcript σ) = _
    rw [List.append_assoc]
    rfl

theorem reach_watched : ∃ granted, reach h.watched remote x =
    ⟨reach h remote x.rest, x.contacts ++ reaching remote granted⟩ := by
  obtain ⟨granted, ho⟩ := openTransport_watched h remote
    (h.watched.event ⟨.wait, "", false, false⟩
      (h.watched.event ⟨.resolve, remote, false, false⟩ x))
  refine ⟨granted, ho.trans ?_⟩
  show (⟨_, (x.contacts ++ [_]) ++ [_] ++ _⟩ : Transcript σ) = _
  rw [List.append_assoc, List.append_assoc]
  rfl

theorem negotiate_watched : l.negotiate h.watched x =
    ⟨l.negotiate h x.rest, x.contacts ++ negotiating l.options.pushReply⟩ := by
  show (⟨_, x.contacts ++ [_] ++ [_] ++ [_]⟩ : Transcript σ) = _
  rw [List.append_assoc, List.append_assoc]
  rfl

theorem obey_watched (c : Command) : ∃ granted, obey h.watched remote name c x =
    ⟨obey h remote name c x.rest, x.contacts ++ obeying remote name c granted⟩ := by
  cases c with
  | stop => exact ⟨true, by simp [obey, obeying]⟩
  | reconnect =>
    obtain ⟨granted, ho⟩ := openTransport_watched h remote
      (h.watched.event ⟨.reconnecting, "", false, false⟩ x)
    refine ⟨granted, ?_⟩
    simp only [obey, ho]
    show (⟨_, (x.contacts ++ [_] ++ _) ++ [_]⟩ : Transcript σ) = _
    rw [List.append_assoc, List.append_assoc]
    rfl
  | pause reason => exact ⟨true, rfl⟩
  | resume => exact ⟨true, rfl⟩

/-- Commands are obeyed in their order whatever is answered. -/
theorem foldl_obey_watched (cs : List Command) :
    ∃ answers : List Bool, answers.length = cs.length ∧
      cs.foldl (fun x c => obey h.watched remote name c x) x =
        ⟨cs.foldl (fun s c => obey h remote name c s) x.rest,
          x.contacts ++ (List.zipWith (obeying remote name) cs answers).flatten⟩ := by
  induction cs generalizing x with
  | nil => exact ⟨[], rfl, by simp⟩
  | cons c cs ih =>
    obtain ⟨granted, hc⟩ := obey_watched h remote name x c
    obtain ⟨answers, hlength, hcs⟩ := ih (obey h.watched remote name c x)
    refine ⟨granted :: answers, by simp [hlength], ?_⟩
    rw [List.foldl_cons, hcs, hc]
    simp

theorem finish_watched : finish h.watched x = ⟨finish h x.rest, x.contacts ++ ending⟩ := by
  show (⟨_, x.contacts ++ [_] ++ [_]⟩ : Transcript σ) = _
  rw [List.append_assoc]
  rfl

/-- The connection obeys up to the stop, and leaves what is behind it. -/
theorem serve_watched {now : List Command} (hn : Command.stop ∉ now) (later : List Command) :
    ∃ answers : List Bool, answers.length = now.length ∧
      serve h.watched remote name (now ++ .stop :: later) x =
        (some later, ⟨(serve h remote name (now ++ .stop :: later) x.rest).2, x.contacts ++
          ((List.zipWith (obeying remote name) now answers).flatten ++ ending)⟩) := by
  obtain ⟨answers, hlength, hfold⟩ := foldl_obey_watched h remote name x now
  refine ⟨answers, hlength, ?_⟩
  simp only [serve, splitAtStop_append now later hn, hfold, finish_watched, List.append_assoc]

theorem bringUp_watched (ds : List Directive) : watched b ds x =
    ((b ds x.rest).1, ⟨(b ds x.rest).2, x.contacts ++ [.device ds (b ds x.rest).1]⟩) := rfl

theorem establish_watched (hr : l.remote = some remote) :
    ∃ cs, Establishes l.options l.credentials remote cs (l.establish h b x.rest).1 ∧
      l.establish h.watched (watched b) x = ((l.establish h b x.rest).1,
        ⟨(l.establish h b x.rest).2, x.contacts ++ cs⟩) := by
  obtain ⟨granted, hreach⟩ := reach_watched h remote x
  cases ha : l.accepts with
  | false =>
    have hk : ∃ e, l.options.expected = some e ∧ e ≠ l.credentials := by
      have := mt (accepts_iff l).2 (by simp [ha])
      simpa using this
    simp only [establish, hr, hreach, ha, Bool.false_eq_true, if_false]
    refine ⟨_, .refused granted hk, ?_⟩
    show (_, (⟨_, x.contacts ++ _ ++ [_]⟩ : Transcript σ)) = _
    rw [List.append_assoc]
  | true =>
    have hk := (accepts_iff l).1 ha
    simp only [establish, hr, hreach, ha, if_true, negotiate_watched, bringUp_watched]
    obtain ⟨r, s, hb⟩ : ∃ r s, b (Directive.ofPushReply l.options.pushReply.toList)
      (l.negotiate h (reach h remote x.rest)) = (r, s) := ⟨_, _, rfl⟩
    rw [hb]
    cases r with
    | error text =>
      refine ⟨_, .failed granted text hk, ?_⟩
      show (_, (⟨_, x.contacts ++ _ ++ _ ++ [_] ++ [_] ++ [_]⟩ : Transcript σ)) = _
      simp only [List.append_assoc]
      rfl
    | ok name =>
      refine ⟨_, .established granted name hk, ?_⟩
      show (_, (⟨_, x.contacts ++ _ ++ _ ++ [_] ++ [_]⟩ : Transcript σ)) = _
      simp only [List.append_assoc]
      rfl

/-- **A connection goes by its course**, and does to its surroundings what it does when nothing is
written down. -/
theorem connect_watched (hr : l.remote = some remote) {now later : List Command}
    (hq : l.queue = now ++ .stop :: later) (hn : Command.stop ∉ now) :
    ∃ cs result queue s, Course l.options l.credentials remote now later cs result queue ∧
      l.connect h b x.rest = (some result, { l with queue }, s) ∧
      l.connect h.watched (watched b) x =
        (some result, { l with queue }, ⟨s, x.contacts ++ cs⟩) := by
  obtain ⟨cs, hcs, hestablish⟩ := establish_watched h b l remote x hr
  obtain ⟨r, s, hs⟩ : ∃ r s, l.establish h b x.rest = (r, s) := ⟨_, _, rfl⟩
  rw [hs] at hcs hestablish
  cases r with
  | error e =>
    refine ⟨cs, _, _, s, .broken hcs, ?_, ?_⟩
    · rw [← hq]
      simp only [connect, hs]
    · rw [← hq]
      simp only [connect, hestablish]
  | ok name =>
    obtain ⟨answers, hlength, hserve⟩ :=
      serve_watched h remote name ⟨s, x.contacts ++ cs⟩ hn later
    have hplain : serve h remote name (now ++ .stop :: later) s =
        (some later, (serve h remote name (now ++ .stop :: later) s).2) := by
      simp only [serve, splitAtStop_append now later hn]
    refine ⟨_, _, later, (serve h remote name (now ++ .stop :: later) s).2,
      .served hcs answers hlength, ?_, ?_⟩
    · simp only [connect, hs, hr, Option.getD_some, hq]
      rw [hplain]
    · simp only [connect, hestablish, hr, Option.getD_some, hq, hserve, List.append_assoc]

end Watched

/-! ### Histories -/

/-- What is done with an engine. -/
inductive Deed where
  | evaluate (c : Config)
  | authenticate (k : Credentials)
  /-- A command is queued. -/
  | command (c : Command)
  /-- A restart is queued, and asked to wait for so many seconds. -/
  | reconnect (delay : Nat)
  | connect

/-- An engine with its surroundings, and how its connections ended, the latest last. -/
structure Trial (σ : Type) where
  engine : Loopback
  surroundings : Transcript σ
  results : List (Except Failure Unit) := []

/-- What a deed does. A connection that does not come back is none. -/
def perform (h : Host σ) (b : BringUp σ) (x : Trial σ) : Deed → Trial σ
  | .evaluate c => { x with engine := (x.engine.evaluate c).2 }
  | .authenticate k => { x with engine := (x.engine.authenticate k).2 }
  | .command c => { x with engine := x.engine.push c }
  | .reconnect delay =>
    let (l, s) := reconnect h.watched delay x.engine x.surroundings
    { x with engine := l, surroundings := s }
  | .connect =>
    match x.engine.connect h.watched (watched b) x.surroundings with
    | (some r, l, s) => ⟨l, s, x.results ++ [r]⟩
    | (none, _, _) => x

/-- One deed after the other. -/
def after (h : Host σ) (b : BringUp σ) (ds : List Deed) (x : Trial σ) : Trial σ :=
  ds.foldl (perform h b) x

/-- An engine as it is built, and nothing was written down. -/
def fresh (o : LoopbackOptions) (s : σ) : Trial σ :=
  { engine := { options := o }, surroundings := ⟨s, []⟩ }

/-- The server that a profile names. -/
def server? (c : Config) : Option String :=
  (Directive.first? "remote" (Directive.ofLines c.content.toList)).bind (·.word? 1)

/-- The server of a profile that the engine takes. -/
def Deed.server? : Deed → Option String
  | .evaluate c => Loopback.server? c
  | _ => none

/-- Credentials that the engine takes. -/
def Deed.credentials? : Deed → Option Credentials
  | .authenticate k => if k.username = "" then none else some k
  | _ => none

/-- A profile is taken if and only if it names a server; then nothing waits any more. -/
theorem evaluate_cases (l : Loopback) (c : Config) :
    (server? c = none ∧ ∃ e, l.evaluate c = (.error e, l)) ∨
      ∃ remote i, server? c = some remote ∧
        l.evaluate c = (.ok i, { l with remote := some remote, queue := [] }) := by
  unfold server?
  cases hd : Directive.first? "remote" (Directive.ofLines c.content.toList) with
  | none => exact .inl ⟨rfl, _, by simp only [evaluate, hd]; rfl⟩
  | some d =>
    cases hw : d.word? 1 with
    | none => exact .inl ⟨hw, _, by simp only [evaluate, hd, hw]; rfl⟩
    | some remote => exact .inr ⟨remote, _, hw, by simp only [evaluate, hd, hw]; rfl⟩

-- an empty name is no name, so that such credentials are refused
theorem authenticate_cases (l : Loopback) (k : Credentials) :
    (k.username = "" ∧ (l.authenticate k).2 = l) ∨
      (k.username ≠ "" ∧ (l.authenticate k).2 = { l with credentials := k }) := by
  by_cases hk : k.username = ""
  · exact .inl ⟨hk, by simp [authenticate, hk]⟩
  · exact .inr ⟨hk, by rw [authenticate_of_name l hk]⟩

/-- A connection changes the queue of the engine at most. -/
theorem connect_keeps {h : Host σ} {b : BringUp σ} {l u : Loopback} {s t : σ}
    {r : Option (Except Failure Unit)} (hc : l.connect h b s = (r, u, t)) :
    u.options = l.options ∧ u.remote = l.remote ∧ u.credentials = l.credentials := by
  unfold connect at hc
  split at hc
  · cases hc
    exact ⟨rfl, rfl, rfl⟩
  · split at hc
    · cases hc
      exact ⟨rfl, rfl, rfl⟩
    · cases hc
      exact ⟨rfl, rfl, rfl⟩

/-- What an engine was made with, and the server and the credentials that it took last. -/
structure Grounded (o : LoopbackOptions) (ds : List Deed) (l : Loopback) : Prop where
  options : l.options = o
  remote : l.remote = ds.reverse.findSome? Deed.server?
  credentials : l.credentials = (ds.reverse.findSome? Deed.credentials?).getD {}

section Grounded

variable {o : LoopbackOptions} {ds : List Deed} {l u : Loopback}

theorem Grounded.add (hl : Grounded o ds l) (d : Deed) (ho : u.options = l.options)
    (hr : u.remote = d.server?.or l.remote)
    (hk : u.credentials = d.credentials?.getD l.credentials) : Grounded o (ds ++ [d]) u where
  options := ho.trans hl.options
  remote := by
    rw [hr, hl.remote]
    cases hd : d.server? <;> simp [hd]
  credentials := by
    rw [hk, hl.credentials]
    cases hd : d.credentials? <;> simp [hd]

theorem Grounded.evaluate (hl : Grounded o ds l) (c : Config) :
    Grounded o (ds ++ [.evaluate c]) (l.evaluate c).2 := by
  obtain ⟨hs, e, he⟩ | ⟨remote, i, hs, he⟩ := evaluate_cases l c
  · exact hl.add _ (by rw [he]) (by rw [he, Deed.server?, hs]; rfl) (by rw [he]; rfl)
  · exact hl.add _ (by rw [he]) (by rw [he, Deed.server?, hs]; rfl) (by rw [he]; rfl)

theorem Grounded.authenticate (hl : Grounded o ds l) (k : Credentials) :
    Grounded o (ds ++ [.authenticate k]) (l.authenticate k).2 := by
  obtain ⟨hk, ha⟩ | ⟨hk, ha⟩ := authenticate_cases l k
  · exact hl.add _ (by rw [ha]) (by rw [ha]; rfl) (by rw [ha, Deed.credentials?, if_pos hk]; rfl)
  · exact hl.add _ (by rw [ha]) (by rw [ha]; rfl) (by rw [ha, Deed.credentials?, if_neg hk]; rfl)

end Grounded

/-- **What an engine knows** after all that was done with it. -/
theorem after_grounded (h : Host σ) (b : BringUp σ) (o : LoopbackOptions) (s : σ)
    (ds : List Deed) : Grounded o ds (after h b ds (fresh o s)).engine := by
  induction ds using List.reverseRecOn with
  | nil => exact ⟨rfl, rfl, rfl⟩
  | append_singleton ds d ih =>
    have hd : after h b (ds ++ [d]) (fresh o s) = perform h b (after h b ds (fresh o s)) d := by
      simp [after]
    rw [hd]
    generalize after h b ds (fresh o s) = x at ih
    -- only a profile and credentials that are taken change what the engine knows
    cases d with
    | evaluate c => exact ih.evaluate c
    | authenticate k => exact ih.authenticate k
    | command c => exact ih.add _ rfl rfl rfl
    | reconnect delay => exact ih.add _ rfl rfl rfl
    | connect =>
      obtain ⟨r, l, y, hx⟩ : ∃ r l y, x.engine.connect h.watched (watched b) x.surroundings =
        (r, l, y) := ⟨_, _, _, rfl⟩
      obtain ⟨ho, hr, hk⟩ := connect_keeps hx
      simp only [perform, hx]
      cases r with
      | none => exact ih.add _ rfl rfl rfl
      | some r => exact ih.add _ ho hr hk

/-- Whatever was done with an engine before, a connection that a stop waits for comes back, and
goes by its course: to the server of the last profile that was taken, with the credentials that
were taken last. Commands that it did not obey wait for the next connection, unless a profile is
taken before. -/
theorem attempt_follows_course (h : Host σ) (b : BringUp σ) (o : LoopbackOptions) (s : σ)
    (ds : List Deed) {remote : String} (hr : ds.reverse.findSome? Deed.server? = some remote)
    {now later : List Command} (hn : Command.stop ∉ now)
    (hq : (after h b ds (fresh o s)).engine.queue = now ++ .stop :: later) :
    let x := after h b ds (fresh o s)
    let y := after h b (ds ++ [.connect]) (fresh o s)
    ∃ cs result queue,
      Course o ((ds.reverse.findSome? Deed.credentials?).getD {}) remote now later cs result
        queue ∧
      y.results = x.results ++ [result] ∧
      y.surroundings.contacts = x.surroundings.contacts ++ cs ∧
      y.engine = { x.engine with queue } ∧
      x.engine.connect h b x.surroundings.rest = (some result, y.engine, y.surroundings.rest) ∧
      ∀ c, ((y.engine.evaluate c).2.queue = [] ↔ server? c ≠ none ∨ queue = []) := by
  intro x y
  have hx := after_grounded h b o s ds
  obtain ⟨cs, result, queue, t, hcourse, hplain, hconnect⟩ := connect_watched h b x.engine remote
    x.surroundings (hx.remote.trans hr) hq hn
  have hy : y = ⟨{ x.engine with queue }, ⟨t, x.surroundings.contacts ++ cs⟩,
      x.results ++ [result]⟩ := by
    have hd : y = perform h b x .connect := by simp [y, x, after]
    rw [hd]
    simp only [perform, hconnect]
  refine ⟨cs, result, queue, ?_, by rw [hy], by rw [hy], by rw [hy], ?_, fun c => ?_⟩
  · have ho : x.engine.options = o := hx.options
    have hk : x.engine.credentials = _ := hx.credentials
    rwa [ho, hk] at hcourse
  · rw [hy]
    exact hplain
  · have hqueue : y.engine.queue = queue := by rw [hy]
    obtain ⟨hs, e, he⟩ | ⟨remote, i, hs, he⟩ := evaluate_cases y.engine c
    · simp [he, hs, hqueue]
    · simp [he, hs]

/-- A host that grants every other request. -/
def fickleHost : Host Nat where
  event _ n := n
  log _ n := n
  protect _ _ n := (n % 2 = 0, n + 1)
  tearDown n := n

/-- A connection that finds what an earlier one has left behind its stop. -/
theorem attempt_follows_course_of_leftovers :
    let o : LoopbackOptions := { expected := some ⟨"alice", "right"⟩ }
    let ds : List Deed := [.authenticate ⟨"alice", "right"⟩,
      .evaluate (Preferences.engineConfig {} "client\nremote vpn.example 443\n"), .reconnect 3,
      .command .stop, .command .resume, .command .reconnect, .command .stop, .connect]
    let x := after fickleHost (fun _ n => (.ok "tun0", n)) ds (fresh o 0)
    let y := after fickleHost (fun _ n => (.ok "tun0", n)) (ds ++ [.connect]) (fresh o 0)
    x.engine.queue = [.resume, .reconnect] ++ .stop :: [] ∧
      ∃ cs, Course o ⟨"alice", "right"⟩ "vpn.example" [.resume, .reconnect] [] cs (.ok ()) [] ∧
        y.surroundings.contacts = x.surroundings.contacts ++ cs ∧ cs.length = 15 := by
  intro o ds x y
  have hremote : ds.reverse.findSome? Deed.server? = some "vpn.example" := by decide +kernel
  have hq : x.engine.queue = [.resume, .reconnect] ++ .stop :: [] := by decide +kernel
  obtain ⟨cs, result, queue, hcourse, hresults, hcontacts, hy, -, -⟩ :=
    attempt_follows_course fickleHost (fun _ n => (.ok "tun0", n)) o 0 ds
      hremote (by decide) hq
  have hresult : result = .ok () := by
    have hx : x.results = [.ok ()] := by decide +kernel
    have hy : y.results = [.ok (), .ok ()] := by decide +kernel
    have hr : y.results = x.results ++ [result] := hresults
    rw [hx, hy] at hr
    simpa using hr.symm
  have hqueue : queue = [] := by
    have hy : y.engine = { x.engine with queue } := hy
    have hempty : y.engine.queue = [] := by decide +kernel
    rwa [hy] at hempty
  subst hresult hqueue
  have hlength : x.surroundings.contacts.length + 15 = y.surroundings.contacts.length := by
    decide +kernel
  have hcontacts : y.surroundings.contacts = x.surroundings.contacts ++ cs := hcontacts
  refine ⟨hq, cs, hcourse, hcontacts, ?_⟩
  rw [hcontacts, List.length_append] at hlength
  omega

end Loopback

end TunnelRelay.Engine
