import TunnelRelay.Proofs.Address.Dotted
import TunnelRelay.Settings

/-!
# Contiguous masks

A mask is contiguous when its bits are a run of set bits followed by a run of clear ones. The two
runs are counted from the two ends, and only for such a mask do the counts meet.

## Main definitions

- `Netmask.Covers` — the highest bits of a mask are set, and no others

## Main statements

- `Netmask.prefixLen?_eq_some_iff` — the prefix length of a mask is the number of bits it covers
- `Netmask.covers_iff_eq` — for each number of bits there is one such mask
- `Netmask.recognises_contiguous` — so it is for a mask that is the argument of a directive
-/

namespace TunnelRelay.Netmask

open Address (V4)
open Settings (maskLen?)

variable {m : V4} {p : Nat}

/-- The `p` highest bits of the mask are set, and all others are clear. -/
def Covers (m : V4) (p : Nat) : Prop :=
  p ≤ 32 ∧ ∀ i < 32, m.bits.toBitVec.getMsbD i = decide (i < p)

theorem of_lt_length_takeWhile {q : Nat → Bool} {n i : Nat}
    (h : i < ((List.range n).takeWhile q).length) : q i := by
  have hlt : i < n := by
    have hle := (List.takeWhile_sublist q (l := List.range n)).length_le
    rw [List.length_range] at hle
    omega
  have happend : ((List.range n).takeWhile q ++ (List.range n).dropWhile q)[i]? =
      ((List.range n).takeWhile q)[i]? := List.getElem?_append_left h
  rw [List.takeWhile_append_dropWhile, List.getElem?_range hlt] at happend
  exact List.all_eq_true.1 List.all_takeWhile i (List.mem_of_getElem? happend.symm)

theorem length_takeWhile_range {q : Nat → Bool} {n k : Nat} (hk : k ≤ n)
    (hbelow : ∀ i < k, q i) (hend : k < n → q k = false) :
    ((List.range n).takeWhile q).length = k := by
  obtain ⟨r, rfl⟩ := Nat.exists_eq_add_of_le hk
  have hrest : ((List.range r).map (k + ·)).takeWhile q = [] := by
    cases r with
    | zero => rfl
    | succ r =>
      rw [List.range_succ_eq_map, List.map_cons, List.takeWhile_cons_of_neg]
      rw [Nat.add_zero, hend (by omega)]
      exact Bool.false_ne_true
  have hrange : ∀ i ∈ List.range k, q i := fun i hi => hbelow i (List.mem_range.1 hi)
  rw [List.range_add, List.takeWhile_append_of_pos hrange, hrest, List.append_nil,
    List.length_range]

theorem covers_leadingOnes (h : leadingOnes m.bits + trailingZeros m.bits = 32) :
    Covers m (leadingOnes m.bits) := by
  refine ⟨leadingOnes_le _, fun i hi => ?_⟩
  by_cases hset : i < leadingOnes m.bits
  · rw [decide_eq_true hset]
    exact of_lt_length_takeWhile hset
  · rw [decide_eq_false hset]
    -- Counted from the low end the bit is at `31 - i`, where the clear ones are.
    have hclear : 31 - i < trailingZeros m.bits := by omega
    have hbit := of_lt_length_takeWhile hclear
    rw [Bool.not_eq_true', BitVec.getLsbD_eq_getMsbD] at hbit
    have hplace : 32 - 1 - (31 - i) = i := by omega
    have hlt : 31 - i < 32 := by omega
    rwa [hplace, decide_eq_true hlt, Bool.true_and] at hbit

theorem Covers.leadingOnes_eq (h : Covers m p) : leadingOnes m.bits = p := by
  refine length_takeWhile_range h.1 (fun i hi => ?_) fun hp => ?_
  · rw [h.2 i (Nat.lt_of_lt_of_le hi h.1)]
    exact decide_eq_true hi
  · rw [h.2 p hp]
    exact decide_eq_false (Nat.lt_irrefl p)

theorem Covers.trailingZeros_eq (h : Covers m p) : trailingZeros m.bits = 32 - p := by
  have hbit {j : Nat} (hj : j < 32) : m.bits.toBitVec.getLsbD j = decide (31 - j < p) := by
    have hlt : 32 - 1 - j < 32 := by omega
    rw [BitVec.getLsbD_eq_getMsbD, decide_eq_true hj, Bool.true_and, h.2 _ hlt]
  have hp := h.1
  refine length_takeWhile_range (Nat.sub_le 32 p) (fun j hj => ?_) fun hlt => ?_
  · have hclear : ¬31 - j < p := by omega
    rw [hbit (by omega), decide_eq_false hclear]
    rfl
  · have hset : 31 - (32 - p) < p := by omega
    rw [hbit hlt, decide_eq_true hset]
    rfl

theorem prefixLen?_eq_some_iff : prefixLen? m = some p ↔ Covers m p := by
  rw [prefixLen?, Option.ite_none_right_eq_some, Option.some.injEq]
  constructor
  · rintro ⟨hmeet, rfl⟩
    exact covers_leadingOnes hmeet
  · intro h
    have hp := h.1
    rw [h.leadingOnes_eq, h.trailingZeros_eq]
    exact ⟨by omega, rfl⟩

theorem prefixLen?_eq_none_iff : prefixLen? m = none ↔ ∀ p, ¬Covers m p := by
  rw [Option.eq_none_iff_forall_ne_some]
  exact forall_congr' fun p => not_congr prefixLen?_eq_some_iff

/-! ### One mask for each length -/

theorem getMsbD_ofPrefixLen (hp : p ≤ 32) {i : Nat} (hi : i < 32) :
    (ofPrefixLen p).bits.toBitVec.getMsbD i = decide (i < p) := by
  have hnumber : Nat.pow 2 32 - Nat.pow 2 (32 - p) = 2 ^ (32 - p) * (2 ^ p - 1) := by
    show 2 ^ 32 - 2 ^ (32 - p) = _
    rw [Nat.mul_sub_one, ← Nat.pow_add, Nat.sub_add_cancel hp]
  have hplace : 32 - 1 - i < 32 := by omega
  show (BitVec.ofNat 32 (Nat.pow 2 32 - Nat.pow 2 (32 - p))).getMsbD i = _
  rw [hnumber, BitVec.getMsbD_eq_getLsbD, BitVec.getLsbD_ofNat, Nat.testBit_two_pow_mul,
    Nat.testBit_two_pow_sub_one, decide_eq_true hi, decide_eq_true hplace, Bool.true_and,
    Bool.true_and, ← Bool.decide_and, decide_eq_decide]
  omega

theorem covers_ofPrefixLen (hp : p ≤ 32) : Covers (ofPrefixLen p) p :=
  ⟨hp, fun _ hi => getMsbD_ofPrefixLen hp hi⟩

/-- A mask is given by what it covers. -/
theorem Covers.eq {m' : V4} (h : Covers m p) (h' : Covers m' p) : m = m' := by
  have hbits : m.bits.toBitVec = m'.bits.toBitVec :=
    BitVec.eq_of_getMsbD_eq fun i hi => (h.2 i hi).trans (h'.2 i hi).symm
  obtain ⟨bits⟩ := m
  obtain ⟨bits'⟩ := m'
  exact congrArg V4.mk (UInt32.toBitVec_inj.1 hbits)

theorem covers_iff_eq : Covers m p ↔ p ≤ 32 ∧ m = ofPrefixLen p := by
  constructor
  · intro h
    exact ⟨h.1, h.eq (covers_ofPrefixLen h.1)⟩
  · rintro ⟨hp, rfl⟩
    exact covers_ofPrefixLen hp

/-! ### Masks as arguments -/

theorem maskLen?_of_ofText? {s : String} (h : V4.ofText? s.toList = some m) :
    maskLen? (some s) = some ((prefixLen? m).getD 32) := by
  rw [maskLen?, h]
  rfl

theorem maskLen?_render (m : V4) : maskLen? (some m.render) = some ((prefixLen? m).getD 32) :=
  maskLen?_of_ofText? m.ofText?_render

/-- **Exactly the contiguous masks are recognised.** The prefix length of a mask is the number of
its highest bits that are set, if all others are clear, and there is one such mask for each length
up to 32. Any other mask has none, and counts as that of a single host where it is the argument of
a directive; a contiguous one counts for what it covers, and for nothing longer or shorter. -/
theorem recognises_contiguous (m : V4) :
    (∀ p, prefixLen? m = some p ↔ Covers m p) ∧
    (∀ p, Covers m p ↔ p ≤ 32 ∧ m = ofPrefixLen p) ∧
    ((∀ p, ¬Covers m p) → prefixLen? m = none ∧ maskLen? (some m.render) = some 32) ∧
    (∀ p, Covers m p → ∀ q, maskLen? (some m.render) = some q ↔ q = p) ∧
    ∀ s : String, V4.ofText? s.toList = some m →
      maskLen? (some s) = maskLen? (some m.render) := by
  refine ⟨fun p => prefixLen?_eq_some_iff, fun p => covers_iff_eq, fun hole => ?_,
    fun p hp q => ?_, fun s hs => ?_⟩
  · have hnone : prefixLen? m = none := prefixLen?_eq_none_iff.2 hole
    rw [maskLen?_render, hnone]
    exact ⟨rfl, rfl⟩
  · rw [maskLen?_render, prefixLen?_eq_some_iff.2 hp, Option.getD_some, Option.some.injEq]
    exact eq_comm
  · rw [maskLen?_of_ofText? hs, maskLen?_render]

/-- A mask with a hole, one that is all set, and a text that is a mask. -/
theorem recognises_contiguous_of_hole :
    ((∀ p, ¬Covers (V4.ofOctets 255 0 255 0) p) ∧
      prefixLen? (V4.ofOctets 255 0 255 0) = none ∧
      maskLen? (some (V4.ofOctets 255 0 255 0).render) = some 32) ∧
    (Covers (V4.ofOctets 255 255 255 255) 32 ∧
      ∀ q, maskLen? (some (V4.ofOctets 255 255 255 255).render) = some q ↔ q = 32) ∧
    V4.ofText? "255.255.0.0".toList = some (V4.ofOctets 255 255 0 0) ∧
      maskLen? (some "255.255.0.0") = maskLen? (some (V4.ofOctets 255 255 0 0).render) := by
  have hhole : ∀ p, ¬Covers (V4.ofOctets 255 0 255 0) p := prefixLen?_eq_none_iff.1 (by decide)
  have hfull : Covers (V4.ofOctets 255 255 255 255) 32 := prefixLen?_eq_some_iff.1 (by decide)
  have htext : V4.ofText? "255.255.0.0".toList = some (V4.ofOctets 255 255 0 0) := by decide
  exact ⟨⟨hhole, (recognises_contiguous _).2.2.1 hhole⟩,
    ⟨hfull, (recognises_contiguous _).2.2.2.1 32 hfull⟩,
    htext, (recognises_contiguous _).2.2.2.2 _ htext⟩

end TunnelRelay.Netmask
