/-!
# Directives

A directive is a name followed by its arguments. Profiles and pushed options are lists of
directives.

## Main definitions

- `Directive` — one directive
- `Directive.first?`, `Directive.named` — look-up by name in a list
-/

namespace TunnelRelay

/-- A name and its arguments. The name is the first word; without words it is empty. -/
structure Directive where
  /-- The name and the arguments, in order. -/
  words : List String
  deriving DecidableEq, Repr, Inhabited

namespace Directive

/-- The first word. -/
def name (d : Directive) : String := d.words.headD ""

/-- The word at a place, where the name is at place zero. -/
def word? (d : Directive) (i : Nat) : Option String := d.words[i]?

/-- The words after the name. -/
def arguments (d : Directive) : List String := d.words.tail

/-- The directive has no words. -/
def isEmpty (d : Directive) : Bool := d.words.isEmpty

/-- The first directive with the given name. -/
def first? (name : String) (ds : List Directive) : Option Directive :=
  ds.find? (·.name == name)

/-- All directives with the given name, in order. -/
def named (name : String) (ds : List Directive) : List Directive :=
  ds.filter (·.name == name)

end Directive

end TunnelRelay
