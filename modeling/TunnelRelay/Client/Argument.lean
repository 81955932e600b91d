/-!
# Arguments from outside

Callers that know bytes only hand texts over as bytes that end before the first zero byte, or hand
over nothing.

## Main definitions

- `Client.Argument` — what is handed over
- `Client.Argument.text?` — the text that it stands for
- `Client.withoutNul` — a text that can be handed back
-/

namespace TunnelRelay.Client

/-- A text as it is handed over, if one is. -/
abbrev Argument := Option (List UInt8)

/-- The text of an argument, if the bytes before the first zero byte are one. -/
def Argument.text? (a : Argument) : Option String :=
  a.bind fun bytes => String.fromUTF8? ⟨(bytes.takeWhile (· ≠ 0)).toArray⟩

/-- A text holds the character that would end it outside. -/
def hasNul (s : String) : Bool := s.toList.contains '\x00'

/-- A text with spaces in place of the characters that would end it outside. -/
def withoutNul (s : String) : String :=
  String.ofList (s.toList.map fun c => if c = '\x00' then ' ' else c)

end TunnelRelay.Client
