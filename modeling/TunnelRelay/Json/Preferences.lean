import TunnelRelay.Json.Reader
import TunnelRelay.Preferences

/-!
# Preferences in JSON

Preferences are an object whose members have fixed names, or a list of the same values in a fixed
order. What is left out keeps its default; members with other names are passed over; a member
given twice is refused.

## Main definitions

- `Preferences.Field` — the members
- `Preferences.ofJson` — the preferences that a text writes
- `Preferences.ReadFailure` — why there are none
-/

namespace TunnelRelay.Preferences

open Json (Reader Failure)

/-- The members of the preferences. -/
inductive Field where
  | connectTimeout
  | compression
  | keepTun
  | autologin
  | grace
  | blocking
  | forcedVerb
  | unsupported
  | history
  deriving DecidableEq, Repr

/-- The members in the order in which a list gives them. -/
def Field.all : List Field :=
  [.connectTimeout, .compression, .keepTun, .autologin, .grace, .blocking, .forcedVerb,
    .unsupported, .history]

/-- The name of a member. -/
def Field.key : Field → String
  | connectTimeout => "conn_timeout_secs"
  | compression => "compression_mode"
  | keepTun => "tun_persist"
  | autologin => "autologin_sessions"
  | grace => "disconnect_grace_ms"
  | blocking => "app_end_blocking"
  | forcedVerb => "force_verb"
  | unsupported => "unsupported_directives"
  | history => "event_history"

/-- The member with a name. -/
def Field.ofKey? (key : String) : Option Field := Field.all.find? (·.key == key)

/-- The preferences with one member read from the text. -/
def readField (p : Preferences) : Field → Reader Preferences
  | .connectTimeout => return { p with connectTimeout := ← Json.natural (Nat.pow 2 32) }
  | .compression => return { p with compression := ← Json.text }
  | .keepTun => return { p with keepTun := ← Json.boolean }
  | .autologin => return { p with autologin := ← Json.boolean }
  | .grace => return { p with grace := ← Json.natural (Nat.pow 2 64) }
  | .blocking => return { p with blocking := ← Json.boolean }
  | .forcedVerb => return { p with forcedVerb := ← Json.optional (Json.natural 256) }
  | .unsupported => return { p with unsupported := ← Json.list Json.text }
  | .history => return { p with history := ← Json.natural (Nat.pow 2 64) }

/-- The members of an object, up to its end. `seen` holds the members that were given. -/
def readMembers : (fuel : Nat) → (first : Bool) → (seen : List Field) → Preferences →
    Reader Preferences
  | 0, _, _, _ => throw .truncated
  | fuel + 1, first, seen, p => do
    if ← Json.hasMember first then
      let key := String.ofList (← Json.finishString)
      match Field.ofKey? key with
      | some f =>
        if f ∈ seen then throw .mismatched
        Json.colon
        readMembers fuel false (f :: seen) (← readField p f)
      | none =>
        Json.colon
        Json.skip
        readMembers fuel false seen p
    else return p

/-- The values of a list, in the order of the members. Values may be missing at the end. -/
def readValues : (first : Bool) → List Field → Preferences → Reader Preferences
  | _, [], p => return p
  | first, f :: fs, p => do
    if ← Json.hasElement first then readValues false fs (← readField p f)
    else return p

/-- Preferences at the start of a text. -/
def read : Reader Preferences := do
  let c ← Json.valueStart
  if c = '[' then
    Json.advance
    let p ← readValues true Field.all {}
    Json.endList
    return p
  else if c = '\x7b' then
    Json.advance
    let p ← fun t => readMembers (t.length + 1) true [] {} t
    Json.advance
    return p
  else Json.mismatch c

/-- Why a text gives no preferences. -/
inductive ReadFailure where
  /-- The text could not be read. -/
  | unreadable (f : Failure)
  /-- The text was read, but the preferences are refused. -/
  | rejected (r : Rejection)
  deriving DecidableEq, Repr

/-- The preferences that a text writes. -/
def ofJson (t : String) : Except ReadFailure Preferences :=
  match Json.readAll read t.toList with
  | .error f => .error (.unreadable f)
  | .ok p =>
    match p.check with
    | .error r => .error (.rejected r)
    | .ok p => .ok p

/-- Why a file gives no preferences. -/
inductive LoadFailure where
  /-- There is no such file. -/
  | absent
  /-- The file is not text in UTF-8. -/
  | undecodable
  /-- The text gives no preferences. -/
  | refused (f : ReadFailure)
  deriving DecidableEq, Repr

/-- What was tried when loading failed, for the file at a path. -/
def LoadFailure.context (path : String) : LoadFailure → String
  | absent | undecodable => "Failed to read config file: " ++ path
  | refused _ => "Failed to parse config file: " ++ path

/-- The preferences in a file with the given bytes, if there is a file. -/
def load (file : Option (List UInt8)) : Except LoadFailure Preferences :=
  match file with
  | none => .error .absent
  | some bytes =>
    match String.fromUTF8? ⟨bytes.toArray⟩ with
    | none => .error .undecodable
    | some t => (ofJson t).mapError .refused

end TunnelRelay.Preferences
