/-!
# Numbers in text

## Main definitions

- `digitValue?` — the value of a digit in a base up to sixteen, in either case
- `ofDigits` — the number that a row of digits writes
- `readNumber?` — a number at the start of a text, with limits on its digits and its value
- `unsigned?` — a text that is a decimal number below a bound, with or without a plus sign
-/

namespace TunnelRelay.Text

/-- The value of a digit in the given base. -/
def digitValue? (base : Nat) (c : Char) : Option Nat :=
  let n := c.toNat
  let v :=
    if 48 ≤ n && n ≤ 57 then some (n - 48)
    else if 97 ≤ n && n ≤ 102 then some (n - 87)
    else if 65 ≤ n && n ≤ 70 then some (n - 55)
    else none
  v.filter (· < base)

/-- A digit of the given base. -/
def isDigit (base : Nat) (c : Char) : Bool := (digitValue? base c).isSome

/-- The number that a row of digits writes; a character that is no digit counts as zero. -/
def ofDigits (base : Nat) (ds : List Char) : Nat :=
  ds.foldl (fun n c => n * base + (digitValue? base c).getD 0) 0

/-- Limits on a written number. -/
structure NumberRule where
  /-- The base of the digits. -/
  base : Nat
  /-- At most so many digits, if there is a limit. -/
  digits : Option Nat
  /-- The number is smaller than this. -/
  bound : Nat
  /-- More than one digit may begin with a zero. -/
  paddable : Bool

/-- The digits at the start of a text do not break the rule. -/
def NumberRule.allows (r : NumberRule) (ds : List Char) : Bool :=
  !ds.isEmpty && r.digits.all (ds.length ≤ ·) && ofDigits r.base ds < r.bound &&
    (r.paddable || ds.length == 1 || ds.head? != some '0')

/-- The number at the start of a text, with what follows it. All digits that stand there
belong to the number, so one digit too many is a failure. -/
def readNumber? (r : NumberRule) (t : List Char) : Option (Nat × List Char) :=
  let ds := t.takeWhile (isDigit r.base)
  if r.allows ds then some (ofDigits r.base ds, t.dropWhile (isDigit r.base)) else none

/-- The text as a decimal number below the bound. One plus sign may stand in front. -/
def unsigned? (bound : Nat) (t : List Char) : Option Nat :=
  let ds := match t with
    | '+' :: r => r
    | _ => t
  if !ds.isEmpty && ds.all (isDigit 10) && ofDigits 10 ds < bound then some (ofDigits 10 ds)
  else none

theorem unsigned?_lt {bound n : Nat} {t : List Char} (h : unsigned? bound t = some n) :
    n < bound := by
  simp only [unsigned?, Option.ite_none_right_eq_some, Bool.and_eq_true, decide_eq_true_eq] at h
  obtain ⟨⟨_, h⟩, he⟩ := h
  cases he
  exact h

theorem digitValue?_of_isDigit {c : Char} (h : c.isDigit) :
    digitValue? 10 c = some (c.toNat - 48) := by
  simp only [Char.isDigit, Bool.and_eq_true, decide_eq_true_eq] at h
  have hlow : 48 ≤ c.toNat := h.1
  have hhigh : c.toNat ≤ 57 := h.2
  simp only [digitValue?, hlow, hhigh, decide_true, Bool.and_self, if_true]
  rw [Option.filter_some, if_pos (by simp only [decide_eq_true_eq]; omega)]

theorem ofDigits_toDigits (n : Nat) : ofDigits 10 (Nat.toDigits 10 n) = n := by
  have hfold (ds : List Char) (k : Nat) (h : ∀ c ∈ ds, c.isDigit) :
      ds.foldl (fun n c => n * 10 + (digitValue? 10 c).getD 0) k = Nat.ofDigitChars 10 ds k := by
    induction ds generalizing k with
    | nil => rfl
    | cons c ds ih =>
      rw [List.foldl_cons, ih _ fun d hd => h d (List.mem_cons_of_mem c hd),
        digitValue?_of_isDigit (h c List.mem_cons_self), Nat.mul_comm]
      rfl
  rw [ofDigits, hfold _ _ fun c => Nat.isDigit_of_mem_toDigits (by decide) (by decide)]
  exact Nat.ofDigitChars_toDigits (by decide) (by decide)

/-- A number that is written down is read again. -/
theorem unsigned?_toString {bound n : Nat} (h : n < bound) :
    unsigned? bound (toString n).toList = some n := by
  have hdigit {c : Char} (hc : c ∈ Nat.toDigits 10 n) : c.isDigit :=
    Nat.isDigit_of_mem_toDigits (by decide) (by decide) hc
  have hall : (Nat.toDigits 10 n).all (isDigit 10) := List.all_eq_true.mpr fun c hc => by
    rw [isDigit, digitValue?_of_isDigit (hdigit hc)]
    rfl
  -- a plus sign is no digit
  have hplus (r : List Char) (hr : Nat.toDigits 10 n = '+' :: r) : False :=
    absurd (hdigit (hr ▸ List.mem_cons_self)) (by decide)
  rw [Nat.toString_eq_repr, Nat.toList_repr, unsigned?]
  · simp [hall, Nat.toDigits_ne_nil, ofDigits_toDigits, h]
  · exact hplus

end TunnelRelay.Text
