import TunnelRelay.CommandLine.Arguments
import TunnelRelay.CommandLine.Help
import TunnelRelay.Text.Number

/-!
# Invocations

The program is invoked with a command, which may be preceded by switches that concern all
commands. A switch is given once at most.

## Main definitions

- `CommandLine.Command` — a command
- `CommandLine.Request` — what an invocation asks for
- `CommandLine.parse` — the request of the arguments
-/

namespace TunnelRelay.CommandLine

/-- A command. -/
inductive Command where
  /-- The self-test. -/
  | selftest (tunnels packets : Nat)
  /-- Show the normal form of the profile at a path. -/
  | normalize (profile : String)
  deriving DecidableEq, Repr

/-- The switches that concern all commands. -/
structure General where
  /-- The path of the preferences, if one is given. -/
  config : Option String := none
  /-- More is logged. -/
  verbose : Bool := false
  deriving DecidableEq, Repr

/-- What an invocation asks for. -/
inductive Request where
  /-- To run a command. -/
  | run (g : General) (c : Command)
  /-- To show a text. -/
  | display (text : String)
  /-- The arguments are not understood. -/
  | misuse
  deriving DecidableEq, Repr

/-- The switches that concern all commands. -/
def generalSwitches : List Switch :=
  [⟨"config", 'c', true⟩, ⟨"verbose", 'v', false⟩, ⟨"help", 'h', false⟩, ⟨"version", 'V', false⟩]

/-- The switches of the self-test. -/
def selftestSwitches : List Switch :=
  [⟨"tunnels", 't', true⟩, ⟨"packets", 'p', true⟩, ⟨"help", 'h', false⟩]

/-- The switches of the normal form. -/
def normalizeSwitches : List Switch := [⟨"help", 'h', false⟩]

/-- A number of tunnels or packets. -/
def count? (text : String) : Option Nat := Text.unsigned? (Nat.pow 2 64) text.toList

/-- The request of the pieces after the name of the self-test. -/
def readSelftest (g : General) (tunnels packets : Option Nat) : List Piece → Request
  | [] => .run g (.selftest (tunnels.getD 2) (packets.getD 8))
  | .flag "help" :: _ => .display helpSelftest
  | .value "tunnels" v :: ps =>
    match tunnels, count? v with
    | none, some n => readSelftest g (some n) packets ps
    | _, _ => .misuse
  | .value "packets" v :: ps =>
    match packets, count? v with
    | none, some n => readSelftest g tunnels (some n) ps
    | _, _ => .misuse
  | _ => .misuse

/-- The request of the pieces after the name of the normal form. -/
def readNormalize (g : General) (profile : Option String) : List Piece → Request
  | [] => profile.elim .misuse fun p => .run g (.normalize p)
  | .flag "help" :: _ => .display helpNormalize
  | .word w _ :: ps =>
    if profile.isSome || w.isEmpty then .misuse else readNormalize g (some w) ps
  | .literal w :: ps =>
    if profile.isSome || w.isEmpty then .misuse else readNormalize g (some w) ps
  | _ => .misuse

/-- The request of the names after the name of the help. -/
def readHelp : List String → Request
  | [] => .display help
  | [name] => (helpOf? name).elim .misuse .display
  | _ => .misuse

/-- The request of the name of a command and the arguments after it. -/
def readCommand (g : General) (name : String) (rest : List String) : Request :=
  match name with
  | "selftest" => readSelftest g none none (scan selftestSwitches rest)
  | "normalize" => readNormalize g none (scan normalizeSwitches rest)
  | "help" => readHelp rest
  | _ => .misuse

/-- The request of the pieces of an invocation. -/
def readGeneral (g : General) : List Piece → Request
  | .flag "help" :: _ => .display help
  | .flag "version" :: _ => .display version
  | .flag "verbose" :: ps => if g.verbose then .misuse else readGeneral { g with verbose := true } ps
  | .value "config" v :: ps =>
    if g.config.isSome || v.isEmpty then .misuse else readGeneral { g with config := some v } ps
  | .word name rest :: _ => readCommand g name rest
  | _ => .misuse

/-- The request of the arguments. -/
def parse (args : List String) : Request := readGeneral {} (scan generalSwitches args)

end TunnelRelay.CommandLine
