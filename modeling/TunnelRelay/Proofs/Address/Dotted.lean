import TunnelRelay.Address.Parser
import TunnelRelay.Address.Printer

/-!
# Dotted addresses

An IPv4 address that is written down is read again, so that every address can be an argument of a
directive, and so can every mask.

## Main statements

- `Address.V4.ofOctets_octets` — an address is given by its octets
- `Address.readNumber?_octet` — an octet at the start of a text
- `Address.V4.ofText?_render` — the whole of an address
-/

namespace TunnelRelay.Address

open Text (isDigit readNumber?)

namespace V4

theorem octet_lt (x : V4) (i : Nat) : x.octet i < 256 := Nat.mod_lt _ (by decide)

/-- An address is given by its octets. -/
theorem ofOctets_octets (x : V4) :
    ofOctets (x.octet 0) (x.octet 1) (x.octet 2) (x.octet 3) = x := by
  obtain ⟨bits⟩ := x
  have hlt : bits.toNat < 4294967296 := bits.toNat_lt
  have hsum : ((bits.toNat / 16777216 % 256 * 256 + bits.toNat / 65536 % 256) * 256 +
      bits.toNat / 256 % 256) * 256 + bits.toNat / 1 % 256 = bits.toNat := by omega
  have hnumber : ofOctets (octet ⟨bits⟩ 0) (octet ⟨bits⟩ 1) (octet ⟨bits⟩ 2) (octet ⟨bits⟩ 3) =
      ⟨UInt32.ofNat bits.toNat⟩ := congrArg (fun n => V4.mk (UInt32.ofNat n)) hsum
  rw [hnumber, UInt32.ofNat_toNat]

theorem toList_render (x : V4) : x.render.toList =
    Nat.toDigits 10 (x.octet 0) ++ '.' :: (Nat.toDigits 10 (x.octet 1) ++ '.' ::
      (Nat.toDigits 10 (x.octet 2) ++ '.' :: (Nat.toDigits 10 (x.octet 3) ++ []))) := by
  simp [render, octets, Nat.toString_eq_repr, Nat.toList_repr]

end V4

/-! ### Octets in a text -/

theorem isDigit_of_mem_toDigits {n : Nat} {c : Char} (hc : c ∈ Nat.toDigits 10 n) :
    isDigit 10 c := by
  rw [isDigit, Text.digitValue?_of_isDigit (Nat.isDigit_of_mem_toDigits (by decide) (by decide) hc)]
  rfl

/-- An octet is not padded, and it has three digits at most. -/
theorem allows_toDigits {n : Nat} (hn : n < 256) : octetRule.allows (Nat.toDigits 10 n) := by
  revert n
  decide +kernel

/-- An octet at the start of a text ends where the digits do. -/
theorem readNumber?_octet {n : Nat} (hn : n < 256) (rest : List Char)
    (hrest : ∀ c ∈ rest.head?, isDigit 10 c = false) :
    readNumber? octetRule (Nat.toDigits 10 n ++ rest) = some (n, rest) := by
  have hdigits : ∀ c ∈ Nat.toDigits 10 n, isDigit octetRule.base c :=
    fun c => isDigit_of_mem_toDigits
  have hstop : rest.takeWhile (isDigit octetRule.base) = [] ∧
      rest.dropWhile (isDigit octetRule.base) = rest := by
    cases rest with
    | nil => exact ⟨rfl, rfl⟩
    | cons c rest =>
      have hc : isDigit octetRule.base c = false := hrest c rfl
      simp [hc]
  rw [readNumber?, List.takeWhile_append_of_pos hdigits, List.dropWhile_append_of_pos hdigits,
    hstop.1, hstop.2, List.append_nil, if_pos (allows_toDigits hn)]
  exact congrArg (fun k => some (k, rest)) (Text.ofDigits_toDigits n)

theorem readNumber?_octet_dot {n : Nat} (hn : n < 256) (rest : List Char) :
    readNumber? octetRule (Nat.toDigits 10 n ++ '.' :: rest) = some (n, '.' :: rest) :=
  readNumber?_octet hn _ fun c hc => by
    obtain rfl : '.' = c := Option.some.inj hc
    decide

/-- **An address that is written down is read again.** -/
theorem V4.ofText?_render (x : V4) : V4.ofText? x.render.toList = some x := by
  have hread : readV4? x.render.toList = some (x, []) := by
    rw [V4.toList_render]
    simp only [readV4?, readNumber?_octet_dot (x.octet_lt _), skip?, Option.bind_eq_bind,
      Option.bind_some, if_true]
    rw [readNumber?_octet (x.octet_lt 3) [] nofun]
    exact congrArg (fun y => some (y, [])) x.ofOctets_octets
  rw [V4.ofText?, hread]
  rfl

end TunnelRelay.Address
