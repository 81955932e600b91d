import TunnelRelay.CommandLine.Invocation
import TunnelRelay.Json.Preferences
import TunnelRelay.Profile.Normal
import TunnelRelay.Profile.Redaction
import TunnelRelay.Selftest

/-!
# Outcomes of an invocation

Files are given as what they hold. The program reads the preferences at the path that is given, or
else those in the usual place if there are any.

## Main definitions

- `CommandLine.Files` — the files that there are
- `CommandLine.Outcome` — what an invocation shows, and its exit code
- `CommandLine.run` — an invocation
-/

namespace TunnelRelay.CommandLine

/-- What the file at a path holds, if there is one. -/
abbrev Files := String → Option (List UInt8)

/-- What an invocation comes to. -/
inductive Outcome where
  /-- It shows a text. -/
  | done (text : String)
  /-- It was not understood. -/
  | misuse
  /-- It failed, for this reason. -/
  | failed (message : String)
  deriving DecidableEq, Repr

namespace Outcome

/-- The exit code. -/
def code : Outcome → Nat
  | done _ => 0
  | failed _ => 1
  | misuse => 2

/-- What is shown as output. -/
def output : Outcome → String
  | done text => text
  | _ => ""

/-- What is shown as an error. -/
def errorText : Outcome → String
  | done _ => ""
  | misuse => usage
  | failed message => "Error: " ++ message ++ "\n"

end Outcome

/-- The usual place of the preferences. -/
def defaultConfig : String := "ovpn-bridge.json"

/-- The preferences at a path, or why there are none. -/
def loadFrom (files : Files) (path : String) : Except String Preferences :=
  (Preferences.load (files path)).mapError (·.context path)

/-- The preferences of an invocation. -/
def preferences (files : Files) (g : General) : Except String Preferences :=
  match g.config with
  | some path => loadFrom files path
  | none => if (files defaultConfig).isSome then loadFrom files defaultConfig else .ok {}

/-- The text in a file, if there is a file and it holds text. -/
def fileText? (files : Files) (path : String) : Option (List Char) :=
  (files path).bind fun bytes => (String.fromUTF8? ⟨bytes.toArray⟩).map String.toList

/-- What a command shows, or why it failed. -/
def perform (files : Files) (prefs : Preferences) : Command → Except String String
  | .selftest tunnels packets =>
    match Selftest.run prefs tunnels packets with
    | .ok _ => .ok ""
    | .error f => .error f.message
  | .normalize path =>
    match fileText? files path with
    | none => .error ("Failed to read profile: " ++ path)
    | some t => .ok (String.ofList (Profile.redact (Profile.normalize prefs t)))

/-- An invocation with these arguments. -/
def run (files : Files) (args : List String) : Outcome :=
  match parse args with
  | .display text => .done text
  | .misuse => .misuse
  | .run g c =>
    match (do perform files (← preferences files g) c) with
    | .ok text => .done text
    | .error message => .failed message

/-- The paths that an invocation may read. -/
def paths (args : List String) : List String :=
  match parse args with
  | .run g c =>
    g.config.getD defaultConfig :: match c with
      | .selftest _ _ => []
      | .normalize path => [path]
  | _ => []

end TunnelRelay.CommandLine
