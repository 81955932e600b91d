/-!
# Lines

A text is read line by line: a line ends at a line feed, and a carriage return right before the
line feed belongs to the line's end. A line feed at the end of the text opens no further line.

## Main definitions

- `lines` — the lines of a text, without their ends
- `joinLines` — lines put together with a line feed between them
- `withoutReturn` — what is left of a line when a line feed is put behind it
-/

namespace TunnelRelay.Text

/-- The lines of a text, without their ends. -/
def lines : List Char → List (List Char)
  | [] => []
  | '\n' :: t => [] :: lines t
  | '\r' :: '\n' :: t => [] :: lines t
  | c :: t =>
    match lines t with
    | [] => [[c]]
    | l :: ls => (c :: l) :: ls

/-- The lines with a line feed between each and the next. -/
def joinLines : List (List Char) → List Char
  | [] => []
  | [l] => l
  | l :: m :: ls => l ++ '\n' :: joinLines (m :: ls)

/-- The line without a carriage return at its end. -/
def withoutReturn (l : List Char) : List Char :=
  if l.getLast? = some '\r' then l.dropLast else l

/-- A character that belongs to no line's end stands at the front of the first line. -/
theorem lines_cons {c : Char} {t : List Char} (hn : c ≠ '\n')
    (hr : c = '\r' → t.head? ≠ some '\n') :
    lines (c :: t) = match lines t with | [] => [[c]] | l :: ls => (c :: l) :: ls := by
  rw [lines]
  · exact hn
  · rintro t hc rfl
    exact hr hc rfl

/-- No line has a line feed. -/
theorem newline_not_mem_of_mem_lines {t l : List Char} (h : l ∈ lines t) : '\n' ∉ l := by
  fun_induction lines t generalizing l with
  | case1 => cases h
  | case2 t ih | case3 t ih =>
    obtain rfl | h := List.mem_cons.1 h
    · exact List.not_mem_nil
    · exact ih h
  | case4 c t hn _ _ _ =>
    obtain rfl := List.mem_singleton.1 h
    exact fun hc => hn (List.mem_singleton.1 hc).symm
  | case5 c t hn _ m ls hls ih =>
    rw [hls] at ih
    obtain rfl | h := List.mem_cons.1 h
    · intro hc
      obtain hc | hc := List.mem_cons.1 hc
      · exact hn hc.symm
      · exact ih List.mem_cons_self hc
    · exact ih (List.mem_cons_of_mem _ h)

/-- What stands before the first line feed is the first line. -/
theorem lines_append_newline {l : List Char} (hl : '\n' ∉ l) (t : List Char) :
    lines (l ++ '\n' :: t) = withoutReturn l :: lines t := by
  induction l with
  | nil => rfl
  | cons c l ih =>
    have hc : c ≠ '\n' := fun h => hl (h ▸ List.mem_cons_self)
    specialize ih fun h => hl (List.mem_cons_of_mem c h)
    by_cases hr : c = '\r' ∧ l = []
    · obtain ⟨rfl, rfl⟩ := hr
      rfl
    · have hhead : c = '\r' → (l ++ '\n' :: t).head? ≠ some '\n' := by
        intro h
        cases l with
        | nil => exact absurd ⟨h, rfl⟩ hr
        | cons d l =>
          intro hd
          exact hl (by simp [Option.some.inj hd])
      have hreturn : withoutReturn (c :: l) = c :: withoutReturn l := by
        cases l with
        | nil => simpa [withoutReturn] using hr
        | cons d l =>
          rw [withoutReturn, withoutReturn, List.getLast?_cons_cons, List.dropLast_cons_cons]
          split <;> rfl
      rw [List.cons_append, lines_cons hc hhead, ih, hreturn]

/-- A text whose lines have their ends is read line by line. -/
theorem lines_flatMap_newline {ls : List (List Char)} (h : ∀ l ∈ ls, '\n' ∉ l) :
    lines (ls.flatMap (· ++ ['\n'])) = ls.map withoutReturn := by
  induction ls with
  | nil => rfl
  | cons l ls ih =>
    rw [List.flatMap_cons, List.append_assoc, List.singleton_append,
      lines_append_newline (h l List.mem_cons_self), ih fun k hk => h k (List.mem_cons_of_mem l hk)]
    rfl

theorem withoutReturn_of_getLast? {l : List Char} (h : l.getLast? ≠ some '\r') :
    withoutReturn l = l := if_neg h

theorem exists_eq_withoutReturn_append (l : List Char) :
    ∃ bs, l = withoutReturn l ++ bs ∧ ∀ c ∈ bs, c = '\r' := by
  by_cases h : l.getLast? = some '\r'
  · obtain ⟨k, rfl⟩ := List.getLast?_eq_some_iff.1 h
    exact ⟨['\r'], by simp [withoutReturn], fun c hc => List.mem_singleton.1 hc⟩
  · exact ⟨[], by rw [withoutReturn_of_getLast? h, List.append_nil], nofun⟩

@[simp] theorem joinLines_singleton (l : List Char) : joinLines [l] = l := rfl

theorem joinLines_cons {l : List Char} {ls : List (List Char)} (h : ls ≠ []) :
    joinLines (l :: ls) = l ++ '\n' :: joinLines ls := by
  cases ls with
  | nil => exact absurd rfl h
  | cons m ls => rfl

end TunnelRelay.Text
