import TunnelRelay.Address.Basic

/-!
# Netmasks

A netmask is contiguous when its set bits are the highest ones. Only a contiguous mask has a
prefix length.

## Main definitions

- `Netmask.prefixLen?` — the prefix length of a contiguous mask
- `Netmask.ofPrefixLen` — the mask with so many highest bits set
-/

namespace TunnelRelay.Netmask

open Address (V4)

/-- How many bits are set before the highest one that is clear. -/
def leadingOnes (m : UInt32) : Nat :=
  ((List.range 32).takeWhile fun i => m.toBitVec.getMsbD i).length

/-- How many bits are clear below the lowest one that is set. -/
def trailingZeros (m : UInt32) : Nat :=
  ((List.range 32).takeWhile fun i => !m.toBitVec.getLsbD i).length

/-- The prefix length of a mask, if the set bits and the clear bits are one run each. -/
def prefixLen? (m : V4) : Option Nat :=
  if leadingOnes m.bits + trailingZeros m.bits = 32 then some (leadingOnes m.bits) else none

/-- The mask whose `p` highest bits are set and whose other bits are clear. -/
def ofPrefixLen (p : Nat) : V4 := ⟨UInt32.ofNat (Nat.pow 2 32 - Nat.pow 2 (32 - p))⟩

theorem leadingOnes_le (m : UInt32) : leadingOnes m ≤ 32 :=
  Nat.le_trans (List.takeWhile_sublist _).length_le (by simp)

end TunnelRelay.Netmask
