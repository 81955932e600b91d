import TunnelRelay.Address.Basic

/-!
# How addresses are written

An IPv4 address is four decimal octets. An IPv6 address is its groups in hexadecimal, in lower
case and without padding, where the longest run of at least two zero groups (the first of the
longest) is left out; one that maps an IPv4 address ends in the dotted form.

## Main definitions

- `Address.render`, `Subnet.render`
- `Address.longestZeroRun` — where groups are left out
-/

namespace TunnelRelay.Address

/-- Four decimal octets with points between them. -/
def V4.render (a : V4) : String := ".".intercalate (a.octets.map toString)

/-- How many groups are zero before the first one that is not. -/
def leadingZeros (gs : List UInt16) : Nat := (gs.takeWhile (· == 0)).length

/-- Start and length of the longest run of zero groups, the first of the longest. -/
def longestZeroRun (gs : List UInt16) : Nat × Nat :=
  (List.range gs.length).foldl
    (fun best i => if best.2 < leadingZeros (gs.drop i) then (i, leadingZeros (gs.drop i)) else best)
    (0, 0)

/-- Groups in hexadecimal with colons between them. -/
def renderGroups (gs : List UInt16) : String :=
  ":".intercalate (gs.map fun g => String.ofList (Nat.toDigits 16 g.toNat))

/-- The groups, the longest run of zero groups left out. -/
def V6.render (a : V6) : String :=
  match a.mapped? with
  | some b => "::ffff:" ++ b.render
  | none =>
    let gs := a.groups.toList
    let run := longestZeroRun gs
    if 1 < run.2 then
      renderGroups (gs.take run.1) ++ "::" ++ renderGroups (gs.drop (run.1 + run.2))
    else renderGroups gs

/-- The text of an address. -/
def render : Address → String
  | v4 a => a.render
  | v6 a => a.render

end TunnelRelay.Address

/-- The address, a slash and the prefix length. -/
def TunnelRelay.Subnet.render (s : TunnelRelay.Subnet) : String :=
  s.address.render ++ "/" ++ toString s.prefixLen
