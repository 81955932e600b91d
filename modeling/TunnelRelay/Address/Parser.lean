import TunnelRelay.Address.Basic
import TunnelRelay.Text.Number

/-!
# Reading addresses

A dotted address has four decimal octets without padding. A grouped address has up to eight
groups of one to four hexadecimal digits; one double colon may stand for one or more zero groups,
and a dotted address for the last two groups.

## Main definitions

- `Address.V4.ofText?`, `Address.V6.ofText?`, `Address.ofText?` — a whole text as an address
- `Address.ofEndpoint?` — the address of an endpoint, such as `[fd00::1]:53`

## Design notes

A reader takes what it can from the start of a text and returns the rest; a whole text is read
when nothing is left.
-/

namespace TunnelRelay.Address

open Text (readNumber? NumberRule)

/-- An octet: up to three decimal digits without padding, below 256. -/
def octetRule : NumberRule := ⟨10, some 3, 256, false⟩

/-- A group: up to four hexadecimal digits. -/
def groupRule : NumberRule := ⟨16, some 4, 65536, true⟩

/-- A port: decimal digits, below 65536. -/
def portRule : NumberRule := ⟨10, none, 65536, true⟩

/-- A scope: decimal digits, below 2³². -/
def scopeRule : NumberRule := ⟨10, none, 4294967296, true⟩

/-- The text after one given character. -/
def skip? (c : Char) : List Char → Option (List Char)
  | d :: t => if c = d then some t else none
  | [] => none

/-- A dotted address at the start of a text. -/
def readV4? (t : List Char) : Option (V4 × List Char) := do
  let (a, t) ← readNumber? octetRule t
  let (b, t) ← readNumber? octetRule (← skip? '.' t)
  let (c, t) ← readNumber? octetRule (← skip? '.' t)
  let (d, t) ← readNumber? octetRule (← skip? '.' t)
  return (V4.ofOctets a b c d, t)

/-- What `readGroups` found: the groups, whether they end in a dotted address, and the rest. -/
structure Groups where
  /-- The groups, in order. -/
  groups : List UInt16
  /-- The last two were written as a dotted address. -/
  dotted : Bool
  /-- What follows them. -/
  rest : List Char

/-- At most `room` groups with colons between them. Where two groups fit, a dotted address may
end the row. -/
def readGroups : Nat → Bool → List Char → Groups
  | 0, _, t => ⟨[], false, t⟩
  | room + 1, first, t =>
    let here? := if first then some t else skip? ':' t
    match (if room = 0 then none else here?.bind readV4?) with
    | some (a, rest) =>
      ⟨[UInt16.ofNat (a.octet 0 * 256 + a.octet 1), UInt16.ofNat (a.octet 2 * 256 + a.octet 3)],
        true, rest⟩
    | none =>
      match here?.bind (readNumber? groupRule) with
      | some (g, rest) =>
        let more := readGroups room false rest
        ⟨UInt16.ofNat g :: more.groups, more.dotted, more.rest⟩
      | none => ⟨[], false, t⟩

/-- A grouped address at the start of a text. -/
def readV6? (t : List Char) : Option (V6 × List Char) :=
  let head := readGroups 8 true t
  if head.groups.length = 8 then some (V6.ofGroups head.groups, head.rest)
  else if head.dotted then none
  else do
    let t ← skip? ':' (← skip? ':' head.rest)
    let tail := readGroups (7 - head.groups.length) true t
    let gap := List.replicate (8 - head.groups.length - tail.groups.length) 0
    return (V6.ofGroups (head.groups ++ gap ++ tail.groups), tail.rest)

/-- What was read, if nothing is left. -/
def whole? {α : Type} : Option (α × List Char) → Option α
  | some (a, []) => some a
  | _ => none

/-- The text as a dotted address. -/
def V4.ofText? (t : List Char) : Option V4 := whole? (readV4? t)

/-- The text as a grouped address. -/
def V6.ofText? (t : List Char) : Option V6 := whole? (readV6? t)

/-- The text as an address of either family. -/
def ofText? (t : List Char) : Option Address :=
  match V4.ofText? t with
  | some a => some (.v4 a)
  | none => (V6.ofText? t).map .v6

/-- The text after a colon and a port. -/
def readPort? (t : List Char) : Option (Nat × List Char) := do
  readNumber? portRule (← skip? ':' t)

/-- The text after a scope, if there is one. -/
def skipScope (t : List Char) : List Char :=
  match (skip? '%' t).bind (readNumber? scopeRule) with
  | some (_, rest) => rest
  | none => t

/-- The address of an endpoint: a dotted address or a bracketed grouped one, then a port. -/
def ofEndpoint? (t : List Char) : Option Address :=
  let dotted := do
    let (a, t) ← readV4? t
    let (_, t) ← readPort? t
    return (Address.v4 a, t)
  match dotted with
  | some r => whole? (some r)
  | none => whole? do
    let (a, t) ← readV6? (← skip? '[' t)
    let (_, t) ← readPort? (← skip? ']' (skipScope t))
    return (Address.v6 a, t)

end TunnelRelay.Address
