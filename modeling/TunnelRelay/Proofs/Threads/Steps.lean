import TunnelRelay.Engine.Loopback
import TunnelRelay.Proofs.Threads.Accesses

/-!
# Threads of a session

One thread of an application connects a session over a loopback engine, over and over, and another
one stops it, and may release it. The connections of the engine run on workers. This module says
what each of them does when it has its turn, so that a run is a list of turns in any order.

## Main definitions

- `Threads` — a session with its engine, its workers and the two threads
- `Threads.Attempt`, `Threads.Stop`, `Threads.Stage` — where an attempt, a stop and a worker stand
- `Turn`, `Threads.step?` — who has a turn, and what happens in it
- `Threads.run?`, `Threads.Reachable` — one turn after the other

## Design notes

A turn is one access to what is shared, one request to the engine, or the part of a call in which
it holds the lock of the worker. All flags are read and written in one order that all threads
agree on, so that nothing else can be seen. A worker's connection is the one of the loopback
engine: the events that it reports are those that `Loopback.establish`, `Loopback.obey` and
`Loopback.finish` report to a host that only writes them down. The engine takes part in a turn as
a whole.

The worker is not known by its state but by its number, since it is the question here whether there
is more than one. A thread that waits for a lock waits for its turn; starting a worker joins the
one before, and has no turn until that one has ended. A stop from inside a callback leaves what a
stop leaves that does not wait long enough, and is not a case of its own.
-/

namespace TunnelRelay

open Engine (Command Credentials Event Loopback LoopbackOptions Verdict)
open Session (Access abortion admission farewell response)

/-- What an application wants to connect with. -/
structure Threads.Order where
  profile : String
  credentials : Credentials

/-- Where an attempt stands: what it does in its next turn. -/
inductive Threads.Attempt where
  /-- There is none. -/
  | idle
  /-- It looks whether the session is being released. -/
  | entering (x : Order)
  /-- It looks for a worker. -/
  | looking (x : Order)
  /-- It looks for a connection. -/
  | checking (x : Order)
  /-- It sets the flag that keeps others out, unless the flag is set. -/
  | claiming (x : Order)
  /-- It takes hold of the engine. -/
  | engaging (x : Order)
  /-- The engine evaluates the profile. -/
  | evaluating (x : Order)
  /-- The engine takes the credentials. -/
  | authenticating (x : Order)
  /-- It starts a worker. -/
  | spawning
  /-- It makes an access, and others before it goes on. -/
  | doing (a : Access) (as : List Access) (next : Attempt)

/-- What a stop looks for. -/
inductive Threads.Question where
  | connected
  | connecting
  | worker

/-- Where a stop stands: what it does in its next turn. It may belong to a release. -/
inductive Threads.Stop where
  /-- There is none. -/
  | idle
  /-- It looks whether there is something to stop. -/
  | asking (q : Question) (release : Bool)
  /-- It stops the engine. -/
  | ordering (release : Bool)
  /-- It takes the worker. There may have been something to stop. -/
  | taking (active release : Bool)
  /-- It waits for this worker. -/
  | waiting (k : Nat) (active release : Bool)
  /-- It puts this worker back, which did not end in time. -/
  | keeping (k : Nat) (active release : Bool)
  /-- It makes an access, and others before it goes on. -/
  | doing (a : Access) (as : List Access) (next : Stop)

/-- What a worker is about when it has reported some events. -/
inductive Threads.Goal where
  /-- The connection is established, and commands are obeyed. The TUN has this name. -/
  | serve (device : String)
  /-- The connection ends. -/
  | leave (v : Verdict)

/-- Where a worker stands. -/
inductive Threads.Stage where
  /-- It has not begun the connection. -/
  | starting
  /-- It makes some accesses, and reports some events. -/
  | busy (as : List Access) (es : List Event) (g : Goal)
  /-- The session has heard of an event, and will remember it. -/
  | noting (e : Event) (es : List Event) (g : Goal)
  /-- The session will follow an event or not. -/
  | judging (e : Event) (es : List Event) (g : Goal)
  /-- It waits for a command. -/
  | serving (device : String)
  /-- The connection has ended, and some accesses are left. -/
  | leaving (as : List Access)
  /-- It has ended. -/
  | ended

/-- A session over a loopback engine, with the threads that use it. -/
structure Threads where
  /-- The session, apart from its worker. -/
  session : Session
  /-- The engine. -/
  engine : Loopback
  /-- All workers that were ever started. -/
  workers : List Threads.Stage := []
  /-- The worker that the session knows. -/
  slot : Option Nat := none
  /-- The thread that connects. -/
  attempt : Threads.Attempt := .idle
  /-- The thread that stops. -/
  stop : Threads.Stop := .idle

/-- Who has a turn, and what becomes of it where that is not settled. -/
inductive Turn where
  /-- An attempt begins. -/
  | connect (x : Threads.Order)
  /-- The attempt goes on. -/
  | attempt
  /-- There is no thread for a worker. -/
  | unstarted (text : String)
  /-- A stop begins. -/
  | disconnect
  /-- A release begins. -/
  | destroy
  /-- The stop or the release goes on. -/
  | stop
  /-- The stop has waited for long enough. -/
  | timeout
  /-- The connection of this worker begins. If a TUN is brought up for it, this is the answer. -/
  | opened (k : Nat) (answer : Except String String)
  /-- This worker goes on. -/
  | worker (k : Nat)
  /-- A restart of the transport is asked for. -/
  | restart
  /-- A pause is ordered. -/
  | pause (reason : String)
  /-- The end of a pause is ordered. -/
  | resume

namespace Threads

/-- The accesses come first. -/
def Attempt.after : List Access → Attempt → Attempt
  | [], next => next
  | a :: as, next => .doing a as next

/-- The accesses come first. -/
def Stop.after : List Access → Stop → Stop
  | [], next => next
  | a :: as, next => .doing a as next

/-- There is no attempt. -/
def Attempt.isIdle : Attempt → Bool
  | idle => true
  | _ => false

/-- There is no stop. -/
def Stop.isIdle : Stop → Bool
  | idle => true
  | _ => false

/-- The attempt fails. -/
def Attempt.failing (f : Fault) : Attempt := .after (abortion f) .idle

/-- The stop clears the flags before it takes the worker. -/
def Stop.clearing (active release : Bool) : Stop :=
  .after [.connected false, .connecting false] (.taking active release)

/-- The stop ends when there is nothing to wait for, and the release that it belongs to. -/
def Stop.ending (active release : Bool) : Stop :=
  .after ((if active then [.phase .idle] else []) ++
    if release then [.release, .phase .destroyed] else []) .idle

/-- What a stop does after it has looked for something in vain. -/
def Question.next (release : Bool) : Question → Stop
  | connected => .asking .connecting release
  | connecting => .asking .worker release
  | worker => .clearing false release

/-- A host that writes down what is reported. -/
def recorder : Engine.Host (List Event) where
  event e es := es ++ [e]
  log _ es := es
  protect _ _ es := (true, es)
  tearDown es := es

/-- A connection begins. If a TUN is brought up for it, that gives the answer. -/
def Stage.opened (l : Loopback) (answer : Except String String) : Stage :=
  match l.establish recorder (fun _ es => (answer, es)) [] with
  | (.ok device, es) => .busy [] es (.serve device)
  | (.error e, es) => .busy [] es (.leave (.error e))

/-- A connection has got a command. -/
def Stage.obeying (device : String) : Command → Stage
  | .stop => .busy [] (Loopback.finish recorder []) (.leave (.ok ()))
  | c => .busy [] (Loopback.obey recorder "" device c []) (.serve device)

/-- The worker runs the engine's connection. -/
def Stage.isInside : Stage → Bool
  | leaving _ | ended => false
  | _ => true

/-- The worker has not ended. -/
def Stage.isAlive : Stage → Bool
  | ended => false
  | _ => true

/-- The worker has ended, or it waits for a command in vain. -/
def Stage.isQuiet (queue : List Command) : Stage → Bool
  | ended => true
  | serving _ => queue.isEmpty
  | _ => false

variable (o : Threads)

/-- A worker has not ended. -/
def isAlive (k : Nat) : Bool := o.workers[k]?.any Stage.isAlive

/-- A worker runs the engine's connection. -/
def isInside (k : Nat) : Bool := o.workers[k]?.any Stage.isInside

/-- The session knows a worker that has not ended. -/
def isOccupied : Bool := o.slot.any o.isAlive

/-- The threads after an access. -/
def write (a : Access) : Threads := { o with session := o.session.access a }

/-- The threads with a worker elsewhere. -/
def move (k : Nat) (st : Stage) : Threads := { o with workers := o.workers.set k st }

/-- There is what a stop looks for. -/
def finds : Question → Bool
  | .connected => o.session.connected
  | .connecting => o.session.connecting
  | .worker => o.isOccupied

/-- A turn of the attempt. -/
def stepAttempt : Option Threads :=
  match o.attempt with
  | .idle => none
  | .doing a as next => some { o with session := o.session.access a, attempt := .after as next }
  | .entering x =>
    some { o with
      attempt :=
        if o.session.destroying then .idle
        else if Text.isAllBlank x.profile.toList then
          .after [.lastError (some (Fault.invalidParameters "config is empty").message)] .idle
        else .looking x }
  | .looking x => some { o with attempt := if o.isOccupied then .idle else .checking x }
  | .checking x =>
    some { o with attempt := if o.session.connected then .idle else .claiming x }
  | .claiming x =>
    some (if o.session.connecting then { o with attempt := .idle }
      else { o with
        session := o.session.access (.connecting true)
        attempt := .after admission (.engaging x) })
  | .engaging x =>
    some { o with
      attempt :=
        if o.session.released then .failing (.internal "engine client released")
        else .evaluating x }
  | .evaluating x =>
    let (r, l) := o.engine.evaluate (o.session.engineConfig x.profile)
    some { o with
      engine := l
      attempt :=
        match r with
        | .error e => .failing (.configEvaluation e.message)
        | .ok _ =>
          if x.credentials.username.isEmpty || x.credentials.password.isEmpty then
            .after (.phase .authenticating ::
              abortion (.invalidParameters "Credentials are empty")) .idle
          else .after [.phase .authenticating] (.authenticating x) }
  | .authenticating x =>
    let (r, l) := o.engine.authenticate x.credentials
    some { o with
      engine := l
      attempt :=
        match r with
        | .error e => .failing (Session.credentialsFault e)
        | .ok _ => .after [.phase .connecting] .spawning }
  | .spawning =>
    if o.isOccupied then none
    else some { o with
      workers := o.workers ++ [.starting]
      slot := some o.workers.length
      attempt := .idle }

/-- There is no thread for the worker of the attempt. -/
def refuseThread (text : String) : Option Threads :=
  match o.attempt with
  | .spawning =>
    if o.isOccupied then none
    else some { o with
      slot := none
      attempt := .failing (.internal ("cannot spawn worker: " ++ text)) }
  | _ => none

/-- A turn of the stop. -/
def stepStop : Option Threads :=
  match o.stop with
  | .idle => none
  | .doing a as next => some { o with session := o.session.access a, stop := .after as next }
  | .asking q release =>
    some { o with
      stop :=
        if o.finds q then .after [.phase .disconnecting] (.ordering release)
        else q.next release }
  | .ordering release =>
    some { o with
      engine := if o.session.released then o.engine else o.engine.push .stop
      stop := .clearing true release }
  | .taking active release =>
    some { o with
      slot := none
      stop :=
        match o.slot with
        | none => .ending active release
        | some k => .waiting k active release }
  | .waiting k active release =>
    if o.isAlive k then none else some { o with stop := .ending active release }
  | .keeping k active release => some { o with slot := some k, stop := .ending active release }

/-- The stop has waited for long enough. -/
def giveUp : Option Threads :=
  match o.stop with
  | .waiting k active release =>
    if o.isAlive k then some { o with stop := .keeping k active release } else none
  | _ => none

/-- A turn of a worker. -/
def stepWorker (k : Nat) : Option Threads :=
  match o.workers[k]? with
  | some (.busy (a :: as) es g) => some ((o.write a).move k (.busy as es g))
  | some (.busy [] (e :: es) g) =>
    some (o.move k (if o.session.destroying then .busy [] es g else .noting e es g))
  | some (.busy [] [] (.serve device)) => some (o.move k (.serving device))
  | some (.busy [] [] (.leave v)) => some (o.move k (.leaving (farewell v)))
  | some (.noting e es g) =>
    some ({ o with session := o.session.remember e }.move k (.judging e es g))
  | some (.judging e es g) =>
    some (o.move k (.busy (if o.session.ignores e then [] else response e) es g))
  | some (.serving device) =>
    match o.engine.queue with
    | [] => none
    | c :: cs =>
      some ({ o with engine := { o.engine with queue := cs } }.move k (.obeying device c))
  | some (.leaving (a :: as)) => some ((o.write a).move k (.leaving as))
  | some (.leaving []) => some (o.move k .ended)
  | some .starting | some .ended | none => none

/-- The connection of a worker begins. -/
def openWorker (k : Nat) (answer : Except String String) : Option Threads :=
  match o.workers[k]? with
  | some .starting => some (o.move k (.opened o.engine answer))
  | _ => none

/-- The engine gets a command, unless it was given up. -/
def command (c : Command) : Threads :=
  if o.session.released then o else { o with engine := o.engine.push c }

/-- A turn, if there is something to do in it. -/
def step? : Turn → Option Threads
  | .connect x =>
    match o.attempt with
    | .idle => some { o with attempt := .entering x }
    | _ => none
  | .attempt => o.stepAttempt
  | .unstarted text => o.refuseThread text
  | .disconnect =>
    match o.stop with
    | .idle => some { o with stop := .after [.stopRequested true] (.asking .connected false) }
    | _ => none
  | .destroy =>
    match o.stop with
    | .idle =>
      if o.session.destroying then none
      else some { o with
        session := o.session.beginRelease
        stop := .after [.stopRequested true] (.asking .connected true) }
    | _ => none
  | .stop => o.stepStop
  | .timeout => o.giveUp
  | .opened k answer => o.openWorker k answer
  | .worker k => o.stepWorker k
  | .restart =>
    let o' := if o.session.canReconnect then o.command .reconnect else o
    some { o' with session := (o.session.reconnect (.ok ())).2 }
  | .pause reason => some (o.command (.pause reason))
  | .resume => some (o.command .resume)

/-- One turn after the other, each at a moment when it is allowed. -/
def run? (allowed : Threads → Turn → Bool) : List Turn → Threads → Option Threads
  | [], o => some o
  | t :: ts, o => if allowed o t then (o.step? t).bind (run? allowed ts) else none

/-- Whenever it likes. -/
def anytime (_ : Threads) (_ : Turn) : Bool := true

/-- A new session over a new engine. -/
def new (id : String) (prefs : Preferences) (options : LoopbackOptions) : Threads where
  session := { id, prefs }
  engine := { options }

/-- The threads of a new session have got there. -/
def Reachable (allowed : Threads → Turn → Bool) : Prop :=
  ∃ id prefs options ts, run? allowed ts (new id prefs options) = some o

/-- No call is in progress. -/
def isFree : Bool := o.attempt.isIdle && o.stop.isIdle

/-- No call is in progress, and each worker has ended, or waits for a command in vain. -/
def isAtRest : Bool := o.isFree && o.workers.all (·.isQuiet o.engine.queue)

/-- What the office connects with. -/
def office : Order := ⟨"remote vpn.example 1194", ⟨"user", "secret"⟩⟩

theorem Stop.isIdle_iff {b : Stop} : b.isIdle ↔ b = .idle := by
  cases b <;> simp [isIdle]

variable {o}

theorem run?_append {allowed : Threads → Turn → Bool} (ts us : List Turn) :
    run? allowed (ts ++ us) o = (run? allowed ts o).bind (run? allowed us) := by
  induction ts generalizing o with
  | nil => rfl
  | cons t ts ih =>
    simp only [List.cons_append, run?]
    split
    · rw [Option.bind_assoc]
      exact Option.bind_congr fun n _ => ih
    · rfl

end Threads

end TunnelRelay
