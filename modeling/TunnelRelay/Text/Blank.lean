/-!
# Blank characters

Texts are lists of characters. A character is blank when it has the Unicode property
`White_Space`; blanks at the ends of a text are trimmed, and blanks inside it separate words.

## Main definitions

- `isBlank` — the characters with the property `White_Space`
- `trimStart`, `trimEnd`, `trim` — a text without the blanks at its ends
- `word`, `afterWord` — the first word of a text, and what follows it

## Design notes

`Char.isWhitespace` knows ASCII only and leaves out the vertical tab and the form feed, so the
property is listed here.
-/

namespace TunnelRelay.Text

/-- The characters with the Unicode property `White_Space`. -/
def isBlank (c : Char) : Bool :=
  let n := c.toNat
  (9 ≤ n && n ≤ 13) || n == 0x20 || n == 0x85 || n == 0xa0 || n == 0x1680 ||
    (0x2000 ≤ n && n ≤ 0x200a) || n == 0x2028 || n == 0x2029 || n == 0x202f || n == 0x205f ||
    n == 0x3000

/-- The text without the blanks at its start. -/
def trimStart (t : List Char) : List Char := t.dropWhile isBlank

/-- The text without the blanks at its end. -/
def trimEnd (t : List Char) : List Char := (t.reverse.dropWhile isBlank).reverse

/-- The text without the blanks at either end. -/
def trim (t : List Char) : List Char := trimEnd (trimStart t)

/-- The first word: what stands before the first blank once the text is trimmed. -/
def word (t : List Char) : List Char := (trimStart t).takeWhile (!isBlank ·)

/-- What follows the first word, from the next word on; empty when there is only one word. -/
def afterWord (t : List Char) : List Char := trimStart ((trimStart t).dropWhile (!isBlank ·))

/-- A text is blank when it has no word. -/
def isAllBlank (t : List Char) : Bool := t.all isBlank

@[simp] theorem trimStart_nil : trimStart [] = [] := rfl

@[simp] theorem trimEnd_nil : trimEnd [] = [] := rfl

@[simp] theorem trim_nil : trim [] = [] := rfl

theorem trimStart_cons (c : Char) (t : List Char) :
    trimStart (c :: t) = if isBlank c then trimStart t else c :: t := by
  simp [trimStart, List.dropWhile_cons]

/-- What is left after trimming the start does not begin with a blank. -/
theorem isBlank_head_trimStart {t r : List Char} {c : Char} (h : trimStart t = c :: r) :
    isBlank c = false := by
  induction t with
  | nil => simp at h
  | cons d t ih =>
    rw [trimStart_cons] at h
    split at h
    · exact ih h
    · next hd => cases h; simpa using hd

theorem trimStart_trimStart (t : List Char) : trimStart (trimStart t) = trimStart t := by
  cases h : trimStart t with
  | nil => rfl
  | cons c r => simp [trimStart_cons, isBlank_head_trimStart h]

theorem reverse_trimEnd (t : List Char) : (trimEnd t).reverse = trimStart t.reverse := by
  simp [trimEnd, trimStart]

theorem trimEnd_trimEnd (t : List Char) : trimEnd (trimEnd t) = trimEnd t := by
  rw [← List.reverse_inj, reverse_trimEnd, reverse_trimEnd, trimStart_trimStart]

theorem trimStart_of_blank {t : List Char} (h : ∀ c ∈ t, isBlank c) : trimStart t = [] := by
  induction t with
  | nil => rfl
  | cons c t ih =>
    rw [trimStart_cons, if_pos (h c List.mem_cons_self)]
    exact ih fun d hd => h d (List.mem_cons_of_mem c hd)

theorem blank_of_trimStart_eq_nil {t : List Char} (h : trimStart t = []) : ∀ c ∈ t, isBlank c := by
  induction t with
  | nil => exact nofun
  | cons c t ih =>
    rw [trimStart_cons] at h
    split at h
    · next hc => exact List.forall_mem_cons.2 ⟨hc, ih h⟩
    · cases h

/-- Blanks before a text are trimmed away with its own. -/
theorem trimStart_append_of_blank {bs : List Char} (h : ∀ c ∈ bs, isBlank c) (t : List Char) :
    trimStart (bs ++ t) = trimStart t := List.dropWhile_append_of_pos h

theorem trimEnd_append_of_blank {bs : List Char} (h : ∀ c ∈ bs, isBlank c) (t : List Char) :
    trimEnd (t ++ bs) = trimEnd t := by
  rw [← List.reverse_inj, reverse_trimEnd, reverse_trimEnd, List.reverse_append]
  exact trimStart_append_of_blank (fun c hc => h c (List.mem_reverse.1 hc)) t.reverse

/-- Blanks behind a text do not change its trimmed form. -/
theorem trim_append_of_blank {bs : List Char} (h : ∀ c ∈ bs, isBlank c) (t : List Char) :
    trim (t ++ bs) = trim t := by
  induction t with
  | nil =>
    rw [List.nil_append, trim, trimStart_of_blank h]
    rfl
  | cons c t ih =>
    rw [List.cons_append, trim, trim, trimStart_cons, trimStart_cons]
    by_cases hc : isBlank c
    · rw [if_pos hc, if_pos hc]
      exact ih
    · rw [if_neg hc, if_neg hc]
      exact trimEnd_append_of_blank h (c :: t)

theorem exists_eq_trimEnd_append (t : List Char) :
    ∃ bs, t = trimEnd t ++ bs ∧ ∀ c ∈ bs, isBlank c := by
  refine ⟨(t.reverse.takeWhile isBlank).reverse, ?_, fun c hc => ?_⟩
  · rw [trimEnd, ← List.reverse_append, List.takeWhile_append_dropWhile, List.reverse_reverse]
  · exact List.all_eq_true.1 List.all_takeWhile c (List.mem_reverse.1 hc)

/-- Blanks behind a text do not change its first word. -/
theorem word_append_of_blank {bs : List Char} (h : ∀ c ∈ bs, isBlank c) (t : List Char) :
    word (t ++ bs) = word t := by
  have hword : bs.takeWhile (!isBlank ·) = [] := by
    cases bs with
    | nil => rfl
    | cons b bs => simp [h b List.mem_cons_self]
  induction t with
  | nil => simp [word, trimStart_of_blank h]
  | cons c t ih =>
    by_cases hc : isBlank c
    · simpa [word, trimStart_cons, hc] using ih
    · simp only [word, List.cons_append, trimStart_cons, if_neg hc]
      rw [← List.cons_append, List.takeWhile_append, hword, List.append_nil]
      split
      · next hall => exact ((List.takeWhile_sublist _).eq_of_length hall).symm
      · rfl

theorem word_trimEnd (t : List Char) : word (trimEnd t) = word t := by
  obtain ⟨bs, ht, hbs⟩ := exists_eq_trimEnd_append t
  have hword := word_append_of_blank hbs (trimEnd t)
  rw [← ht] at hword
  exact hword.symm

theorem word_trim (t : List Char) : word (trim t) = word t := by
  rw [trim, word_trimEnd, word, trimStart_trimStart, word]

theorem trim_trimEnd (t : List Char) : trim (trimEnd t) = trim t := by
  obtain ⟨bs, ht, hbs⟩ := exists_eq_trimEnd_append t
  have htrim := trim_append_of_blank hbs (trimEnd t)
  rw [← ht] at htrim
  exact htrim.symm

theorem trimStart_trim (t : List Char) : trimStart (trim t) = trim t := by
  cases h : trim t with
  | nil => rfl
  | cons c r =>
    obtain ⟨bs, hbs, -⟩ := exists_eq_trimEnd_append (trimStart t)
    have hstart : trimStart t = c :: (r ++ bs) := by rw [hbs, ← List.cons_append, ← h, trim]
    rw [trimStart_cons, isBlank_head_trimStart hstart]
    rfl

theorem word_eq_takeWhile_trim (t : List Char) : word t = (trim t).takeWhile (!isBlank ·) := by
  rw [← word_trim, word, trimStart_trim]

/-- A trimmed text begins with its first word. -/
theorem head?_word (t : List Char) : (word t).head? = (trim t).head? := by
  rw [word_eq_takeWhile_trim]
  cases h : trim t with
  | nil => rfl
  | cons c r =>
    have hc := isBlank_head_trimStart ((trimStart_trim t).trans h)
    rw [List.takeWhile_cons_of_pos (by rw [hc]; rfl)]
    rfl

theorem trim_trim (t : List Char) : trim (trim t) = trim t :=
  calc trim (trim t) = trim (trimStart t) := trim_trimEnd (trimStart t)
    _ = trim t := by rw [trim, trimStart_trimStart, trim]

theorem trimEnd_sublist (t : List Char) : (trimEnd t).Sublist t := by
  have h := (List.dropWhile_sublist (l := t.reverse) isBlank).reverse
  rwa [List.reverse_reverse] at h

theorem trim_sublist (t : List Char) : (trim t).Sublist t :=
  (trimEnd_sublist _).trans (List.dropWhile_sublist _)

/-- The first word of a text that begins with one. -/
theorem word_append {w : List Char} (hne : w ≠ []) (hw : ∀ c ∈ w, isBlank c = false) {b : Char}
    (hb : isBlank b) (t : List Char) : word (w ++ b :: t) = w := by
  have hstart : trimStart (w ++ b :: t) = w ++ b :: t := by
    cases w with
    | nil => exact absurd rfl hne
    | cons c w => rw [List.cons_append, trimStart_cons, hw c List.mem_cons_self]; rfl
  rw [word, hstart, List.takeWhile_append_of_pos fun c hc => by rw [hw c hc]; rfl,
    List.takeWhile_cons_of_neg (by simp [hb]), List.append_nil]

/-- Blanks behind a text with only one word are no further word. -/
theorem afterWord_append_of_blank {bs : List Char} (h : ∀ c ∈ bs, isBlank c) {t : List Char}
    (ht : afterWord t = []) : afterWord (t ++ bs) = [] := by
  induction t with
  | nil =>
    rw [List.nil_append, afterWord, trimStart_of_blank h]
    rfl
  | cons c t ih =>
    by_cases hc : isBlank c
    · simp only [afterWord, List.cons_append, trimStart_cons, if_pos hc] at ht ih ⊢
      exact ih ht
    · simp only [afterWord, List.cons_append, trimStart_cons, if_neg hc] at ht ⊢
      have hrest : ∀ d ∈ (c :: t).dropWhile (!isBlank ·), isBlank d :=
        blank_of_trimStart_eq_nil ht
      rw [← List.cons_append, List.dropWhile_append]
      split
      · exact trimStart_of_blank fun d hd => h d ((List.dropWhile_sublist _).subset hd)
      · exact trimStart_of_blank fun d hd => (List.mem_append.1 hd).elim (hrest d) (h d)

end TunnelRelay.Text
