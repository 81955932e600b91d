import TunnelRelay.Engine.Contract

/-!
# The scripted engine

An engine that plays a part: its answers are laid down in a script, and a connection lasts until
it is told how to end. With it, everything around an engine is tried out without one.

## Main definitions

- `Engine.Script` — the answers, and what a stop does
- `Engine.Scripted` — an engine with a script, and where its connection stands
- `Engine.Scripted.start`, `Engine.Scripted.proceed`, `Engine.Scripted.conclude` — the
  life of a connection
-/

namespace TunnelRelay.Engine

/-- What a stop does to a connection. -/
inductive StopReaction where
  /-- The connection ends well. -/
  | ends
  /-- Nothing happens. -/
  | ignored
  /-- The connection fails with this text. -/
  | fails (text : String)
  deriving DecidableEq, Repr

/-- The answers of an engine. An answer with a text is a failure. -/
structure Script where
  /-- The answer to being built. -/
  build : Option String := none
  /-- The answer to a profile. -/
  evaluate : Option String := none
  /-- The answer to credentials. -/
  authenticate : Option String := none
  /-- The answer to a restart of the transport. -/
  reconnect : Option String := none
  /-- Profiles are said to need no credentials. -/
  autologin : Bool := false
  /-- What a stop does. -/
  onStop : StopReaction := .ends
  /-- A connection begins with the request to protect a socket. -/
  protectsFirst : Bool := false
  deriving DecidableEq, Repr

/-- An answer of a script. -/
def Script.answer {α : Type} (text : Option String) (a : α) : Except Failure α :=
  match text with
  | none => .ok a
  | some t => .error ⟨t, false⟩

/-- Where the connection of a scripted engine stands. -/
inductive Scripted.Stage where
  /-- There is none. -/
  | none
  /-- It waits for the answer to its first request. How it is to end may be known already. -/
  | asking (verdict : Option Verdict)
  /-- It waits to be told how to end. -/
  | running

/-- An engine with a script. -/
structure Scripted where
  /-- The script. -/
  script : Script := {}
  /-- Where the connection stands. -/
  stage : Scripted.Stage := .none

namespace Scripted

/-- There is a connection. -/
def isBusy (e : Scripted) : Bool :=
  match e.stage with
  | .none => false
  | _ => true

/-- The connection waits for the answer to its first request. -/
def isAsking (e : Scripted) : Bool :=
  match e.stage with
  | .asking _ => true
  | _ => false

/-- The answer to a profile. -/
def evaluate (e : Scripted) (_ : Config) : Except Failure ProfileInfo :=
  Script.answer e.script.evaluate { autologin := e.script.autologin }

/-- The answer to credentials. -/
def authenticate (e : Scripted) (_ : Credentials) : Except Failure Unit :=
  Script.answer e.script.authenticate ()

/-- The answer to a restart of the transport. -/
def reconnect (e : Scripted) : Except Failure Unit := Script.answer e.script.reconnect ()

/-- The beginning of a connection. -/
def start (e : Scripted) : Scripted :=
  { e with stage := if e.script.protectsFirst then .asking none else .running }

/-- The connection got the answer to its first request. If it is known how it is to end, it ends. -/
def proceed (e : Scripted) : Option Verdict × Scripted :=
  match e.stage with
  | .asking (some v) => (some v, { e with stage := .none })
  | .asking none => (none, { e with stage := .running })
  | _ => (none, e)

/-- The connection is told how to end. One that waits for an answer ends afterwards, as it was
told first. -/
def conclude (e : Scripted) (v : Verdict) : Option Verdict × Scripted :=
  match e.stage with
  | .none => (none, e)
  | .asking none => (none, { e with stage := .asking (some v) })
  | .asking (some _) => (none, e)
  | .running => (some v, { e with stage := .none })

/-- The connection is stopped. -/
def stop (e : Scripted) : Option Verdict × Scripted :=
  match e.script.onStop with
  | .ends => e.conclude (.ok ())
  | .ignored => (none, e)
  | .fails t => e.conclude (.error ⟨t, true⟩)

/-- An engine that was busy gives a verdict and is free, or it gives none and is as busy as it
was. -/
def Answers (e : Scripted) (x : Option Verdict × Scripted) : Prop :=
  (x.1 = none → x.2.isBusy = e.isBusy) ∧
    ∀ v, x.1 = some v → e.isBusy = true ∧ x.2.isBusy = false

theorem conclude_answers (e : Scripted) (v : Verdict) : e.Answers (e.conclude v) := by
  unfold conclude
  split <;> simp_all [Answers, isBusy]

theorem proceed_answers (e : Scripted) : e.Answers e.proceed := by
  unfold proceed
  split <;> simp_all [Answers, isBusy]

theorem stop_answers (e : Scripted) : e.Answers e.stop := by
  unfold stop
  split
  · exact conclude_answers e _
  · exact ⟨fun _ => rfl, fun v h => nomatch h⟩
  · exact conclude_answers e _

end Scripted

end TunnelRelay.Engine
