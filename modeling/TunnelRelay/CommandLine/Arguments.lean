/-!
# Arguments of a command line

A command line is read from left to right into pieces: switches, switches with a value, and words.
A switch has a long name after two dashes and a letter after one; letters may stand in a row.

## Main definitions

- `CommandLine.Switch` — a switch that is known
- `CommandLine.Piece` — a piece of a command line
- `CommandLine.scan` — the pieces of the arguments

## Design notes

What follows a malformed piece does not matter, and what stands before it does: a request for help
in front of it is answered. So malformed pieces are pieces like others.
-/

namespace TunnelRelay.CommandLine

/-- A switch that is known. -/
structure Switch where
  /-- Its name after two dashes. -/
  long : String
  /-- Its letter after one dash. -/
  short : Char
  /-- A value follows. -/
  valued : Bool := false
  deriving DecidableEq, Repr

/-- A piece of a command line. -/
inductive Piece where
  /-- A switch, by its long name. -/
  | flag (name : String)
  /-- A switch with its value. -/
  | value (name text : String)
  /-- A word, and the arguments after it. -/
  | word (text : String) (rest : List String)
  /-- A word after two dashes that stand alone. -/
  | literal (text : String)
  /-- Anything else. -/
  | malformed
  deriving DecidableEq, Repr

/-- The argument is meant as a switch. One dash alone is a word. -/
def isSwitch (w : String) : Bool :=
  match w.toList with
  | '-' :: _ :: _ => true
  | _ => false

/-- The pieces of letters in a row, and the switch that still needs its value. -/
def letters (ss : List Switch) : List Char → List Piece × Option String
  | [] => ([], none)
  | c :: cs =>
    match ss.find? (·.short = c) with
    | none => ([.malformed], none)
    | some s =>
      if s.valued then
        match cs with
        | [] => ([], some s.long)
        | '=' :: v => ([.value s.long (String.ofList v)], none)
        | v => ([.value s.long (String.ofList v)], none)
      else
        let r := letters ss cs
        (.flag s.long :: r.1, r.2)

/-- The piece of a long name, with a value behind an equals sign if there is one; and the switch
that still needs its value. -/
def longName (ss : List Switch) (t : List Char) : List Piece × Option String :=
  let name := String.ofList (t.takeWhile (· ≠ '='))
  let value := t.dropWhile (· ≠ '=')
  match ss.find? (·.long = name) with
  | none => ([.malformed], none)
  | some s =>
    match s.valued, value with
    | true, [] => ([], some s.long)
    | true, _ :: v => ([.value s.long (String.ofList v)], none)
    | false, [] => ([.flag s.long], none)
    | false, _ :: _ => ([.malformed], none)

/-- The pieces of the arguments, after a switch that still needs its value if there is one. -/
def scanFrom (ss : List Switch) : Option String → List String → List Piece
  | none, [] => []
  | some _, [] => [.malformed]
  | some name, w :: ws =>
    if isSwitch w then [.malformed] else .value name w :: scanFrom ss none ws
  | none, w :: ws =>
    match w.toList with
    | ['-', '-'] => ws.map .literal
    | '-' :: '-' :: t => let r := longName ss t; r.1 ++ scanFrom ss r.2 ws
    | '-' :: c :: t => let r := letters ss (c :: t); r.1 ++ scanFrom ss r.2 ws
    | _ => .word w ws :: scanFrom ss none ws

/-- The pieces of the arguments. -/
def scan (ss : List Switch) (ws : List String) : List Piece := scanFrom ss none ws

end TunnelRelay.CommandLine
