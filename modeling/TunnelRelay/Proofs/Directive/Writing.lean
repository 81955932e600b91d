import TunnelRelay.Proofs.Profile.Reader

/-!
# Writing directives

A directive is written as its words with blanks between them. Every word without a double quote can
be put in quotes, and one without blanks can stand as it is. What is written in this way is read
again, from a page with one directive a line as well as from a push reply.

## Main definitions

- `Directive.WritesWord`, `Directive.WritesWords` — the written forms of words
- `Directive.WritesPage` — a page of directives, with empty lines and comments between them

## Main statements

- `Directive.scan_of_writesWords` — the words of a written directive are read again
- `Directive.reading_undoes_writing` — so are the directives of a page and of a push reply
-/

namespace TunnelRelay.Directive

open Text (isBlank trim trimStart trimEnd lines joinLines withoutReturn)
open Profile (reading?)

variable {w t u : List Char} {ws : List String} {d : Directive} {ds : List Directive}
  {ls ts : List (List Char)}

/-- All characters are blanks other than a line feed. -/
def IsGap (t : List Char) : Prop := ∀ c ∈ t, isBlank c ∧ c ≠ '\n'

instance (t : List Char) : Decidable (IsGap t) := List.decidableBAll _ t

/-- The forms in which a word can be written: in quotes, or as it is. -/
inductive WritesWord (w : List Char) : List Char → Prop
  | quoted : '"' ∉ w → WritesWord w ('"' :: (w ++ ['"']))
  | bare : w ≠ [] → '"' ∉ w → (∀ c ∈ w, isBlank c = false) → WritesWord w w

/-- The forms in which a row of words can be written, with a gap between each and the next. -/
inductive WritesWords : List String → List Char → Prop
  | single {w : String} {t : List Char} : WritesWord w.toList t → WritesWords [w] t
  | cons {w : String} {ws : List String} {t gap u : List Char} : WritesWord w.toList t →
      gap ≠ [] → IsGap gap → WritesWords ws u → WritesWords (w :: ws) (t ++ (gap ++ u))

/-- The lines of a page on which the directives are written. Empty lines and comments can stand
anywhere, and gaps around what is written. -/
inductive WritesPage : List Directive → List (List Char) → Prop
  | nil : WritesPage [] []
  | blank {l : List Char} {ds : List Directive} {ls : List (List Char)} : IsGap l →
      WritesPage ds ls → WritesPage ds (l :: ls)
  | comment {before t : List Char} {ds : List Directive} {ls : List (List Char)} : IsGap before →
      isComment t → '\n' ∉ t → WritesPage ds ls → WritesPage ds ((before ++ t) :: ls)
  | directive {before t after : List Char} {d : Directive} {ds : List Directive}
      {ls : List (List Char)} : IsGap before → IsGap after → WritesWords d.words t →
      isComment t = false → WritesPage ds ls →
      WritesPage (d :: ds) ((before ++ (t ++ after)) :: ls)

/-! ### The scanner -/

theorem scan_append_of_blank {b : List Char} (h : ∀ c ∈ b, isBlank c) (t : List Char) :
    scan (b ++ t) = scan t := by
  induction b with
  | nil => rfl
  | cons c b ih =>
    rw [List.forall_mem_cons] at h
    have hc : c ≠ '"' := by
      rintro rfl
      exact absurd h.1 (by decide)
    rw [List.cons_append, scan, scanFrom, if_neg hc, if_pos (by simp [h.1])]
    exact ih h.2

theorem scanFrom_quote (begun : Option (List Char)) (inQuotes : Bool) (t : List Char) :
    scanFrom begun inQuotes ('"' :: t) = scanFrom (some (begun.getD [])) (!inQuotes) t := by
  rw [scanFrom, if_pos rfl]

/-- Characters between quotes belong to the word. -/
theorem scanFrom_of_quoted (hquote : '"' ∉ w) (begun t : List Char) :
    scanFrom (some begun) true (w ++ t) = scanFrom (some (w.reverse ++ begun)) true t := by
  induction w generalizing begun with
  | nil => rfl
  | cons c w ih =>
    have hc : c ≠ '"' := fun h => hquote (h ▸ List.mem_cons_self)
    rw [List.cons_append, scanFrom, if_neg hc, if_neg (by simp),
      ih fun h => hquote (List.mem_cons_of_mem c h)]
    simp

/-- A word that has begun ends at the first blank. -/
theorem scanFrom_of_blank (begun : List Char) (ht : ∀ c ∈ t.head?, isBlank c) :
    scanFrom (some begun) false t = begun.reverse :: scan t := by
  cases t with
  | nil => rfl
  | cons b t =>
    have hb : isBlank b := ht b rfl
    have hquote : b ≠ '"' := by
      rintro rfl
      exact absurd hb (by decide)
    rw [scan, scanFrom, scanFrom, if_neg hquote, if_neg hquote, if_pos (by simp [hb]),
      if_pos (by simp [hb])]
    rfl

theorem scan_of_writesWord (h : WritesWord w u) (ht : ∀ c ∈ t.head?, isBlank c) :
    scan (u ++ t) = w :: scan t := by
  cases h with
  | quoted hquote =>
    -- The closing quote does not end the word: the blank behind it does, or the end of the text.
    rw [List.cons_append, List.append_assoc, List.singleton_append, scan, scanFrom_quote,
      Option.getD_none, Bool.not_false, scanFrom_of_quoted hquote, scanFrom_quote,
      Option.getD_some, Bool.not_true, scanFrom_of_blank _ ht, List.append_nil,
      List.reverse_reverse]
  | bare hne hquote hblank =>
    cases w with
    | nil => exact absurd rfl hne
    | cons c w =>
      have hc : c ≠ '"' := fun h => hquote (h ▸ List.mem_cons_self)
      rw [List.forall_mem_cons] at hblank
      rw [List.cons_append, scan, scanFrom, if_neg hc, if_neg (by simp [hblank.1]),
        Profile.scanFrom_of_plain (fun h => hquote (List.mem_cons_of_mem c h)) hblank.2,
        scanFrom_of_blank _ ht]
      simp

theorem IsGap.head?_append {gap : List Char} (hgap : IsGap gap) (hne : gap ≠ [])
    (u : List Char) : ∀ c ∈ (gap ++ u).head?, isBlank c := by
  cases gap with
  | nil => exact absurd rfl hne
  | cons b gap =>
    intro c hc
    obtain rfl : b = c := Option.some.inj hc
    exact (hgap b List.mem_cons_self).1

/-- The words of a written directive are read again. -/
theorem scan_of_writesWords (h : WritesWords ws t) : scan t = ws.map String.toList := by
  induction h with
  | single h =>
    have hscan := scan_of_writesWord (t := []) h nofun
    rw [List.append_nil] at hscan
    exact hscan
  | @cons w ws t gap u h hne hgap _ ih =>
    rw [scan_of_writesWord h (hgap.head?_append hne u),
      scan_append_of_blank fun c hc => (hgap c hc).1, ih, List.map_cons]

theorem ofText_of_writesWords (h : WritesWords d.words t) : ofText t = d := by
  rw [ofText, scan_of_writesWords h, List.map_map]
  simp [Function.comp_def]

/-! ### The ends of what is written -/

/-- The text is not empty, and it neither begins nor ends with a blank. -/
structure Tight (t : List Char) : Prop where
  ne_nil : t ≠ []
  head : ∀ c ∈ t.head?, isBlank c = false
  last : ∀ c ∈ t.getLast?, isBlank c = false

theorem trimStart_of_head (h : ∀ c ∈ t.head?, isBlank c = false) : trimStart t = t := by
  cases t with
  | nil => rfl
  | cons c t => rw [Text.trimStart_cons, h c rfl]; rfl

theorem trimEnd_of_last (h : ∀ c ∈ t.getLast?, isBlank c = false) : trimEnd t = t := by
  rw [← List.head?_reverse] at h
  rw [← List.reverse_inj, Text.reverse_trimEnd, trimStart_of_head h]

theorem Tight.trim_eq (h : Tight t) : trim t = t := by
  rw [trim, trimStart_of_head h.head, trimEnd_of_last h.last]

theorem Tight.trim_append {before after : List Char} (h : Tight t) (hb : ∀ c ∈ before, isBlank c)
    (ha : ∀ c ∈ after, isBlank c) : trim (before ++ (t ++ after)) = t := by
  rw [← List.append_assoc, Text.trim_append_of_blank ha, trim, Text.trimStart_append_of_blank hb,
    ← trim, h.trim_eq]

theorem Tight.append (ht : Tight t) (s : List Char) (hu : Tight u) : Tight (t ++ (s ++ u)) where
  ne_nil := List.append_ne_nil_of_left_ne_nil ht.ne_nil _
  head c hc := by
    rw [List.head?_append_of_ne_nil _ ht.ne_nil] at hc
    exact ht.head c hc
  last c hc := by
    rw [← List.append_assoc, List.getLast?_append_of_ne_nil _ hu.ne_nil] at hc
    exact hu.last c hc

theorem WritesWord.tight (h : WritesWord w t) : Tight t := by
  cases h with
  | quoted =>
    refine ⟨List.cons_ne_nil _ _, fun c hc => ?_, fun c hc => ?_⟩
    · rw [← Option.some.inj hc]
      rfl
    · rw [← List.cons_append, List.getLast?_concat] at hc
      rw [← Option.some.inj hc]
      rfl
  | bare hne _ hblank =>
    exact ⟨hne, fun c hc => hblank c (List.mem_of_head? hc),
      fun c hc => hblank c (List.mem_of_getLast? hc)⟩

theorem WritesWords.tight (h : WritesWords ws t) : Tight t := by
  induction h with
  | single h => exact h.tight
  | cons h _ _ _ ih => exact h.tight.append _ ih

theorem WritesWords.ne_nil (h : WritesWords ws t) : ws ≠ [] := by
  cases h <;> exact List.cons_ne_nil _ _

/-- What is written has quotes, the characters of the words, and blanks other than a line feed. -/
theorem WritesWords.mem (h : WritesWords ws t) {c : Char} (hc : c ∈ t) :
    c = '"' ∨ (∃ w ∈ ws, c ∈ w.toList) ∨ isBlank c ∧ c ≠ '\n' := by
  have hword {w : String} {t : List Char} (h : WritesWord w.toList t) (hc : c ∈ t) :
      c = '"' ∨ c ∈ w.toList := by
    cases h with
    | quoted =>
      simp only [List.mem_cons, List.mem_append, List.not_mem_nil, or_false] at hc
      tauto
    | bare => exact .inr hc
  induction h with
  | single h => exact (hword h hc).imp_right fun hc => .inl ⟨_, List.mem_cons_self, hc⟩
  | cons h _ hgap _ ih =>
    obtain hc | hc | hc := by simpa only [List.mem_append] using hc
    · exact (hword h hc).imp_right fun hc => .inl ⟨_, List.mem_cons_self, hc⟩
    · exact .inr (.inr (hgap c hc))
    · refine (ih hc).imp_right (.imp_left ?_)
      rintro ⟨v, hv, hc⟩
      exact ⟨v, List.mem_cons_of_mem _ hv, hc⟩

/-! ### Pages -/

theorem lines_of_not_mem (hn : '\n' ∉ t) (hne : t ≠ []) : lines t = [t] := by
  induction t with
  | nil => exact absurd rfl hne
  | cons c t ih =>
    rw [List.mem_cons, not_or] at hn
    have hhead : c = '\r' → t.head? ≠ some '\n' :=
      fun _ hhead => hn.2 (List.mem_of_head? hhead)
    rw [Text.lines_cons (Ne.symm hn.1) hhead]
    cases t with
    | nil => rfl
    | cons b t => rw [ih hn.2 (List.cons_ne_nil b t)]

theorem reading?_of_gap (h : IsGap t) : reading? t = none := by
  have htrim := Text.trim_append_of_blank (fun c hc => (h c hc).1) []
  rw [List.nil_append] at htrim
  rw [reading?, htrim]
  rfl

/-- The directives of a page are those of its lines. -/
theorem ofLines_joinLines (h : ∀ l ∈ ls, '\n' ∉ l) :
    ofLines (joinLines ls) = ls.filterMap reading? := by
  rw [Profile.ofLines_eq_filterMap]
  induction ls with
  | nil => rfl
  | cons l ls ih =>
    rw [List.forall_mem_cons] at h
    cases ls with
    | nil =>
      rw [Text.joinLines_singleton]
      by_cases hl : l = []
      · rw [hl]
        rfl
      · rw [lines_of_not_mem h.1 hl]
    | cons m ls =>
      rw [Text.joinLines_cons (List.cons_ne_nil m ls), Text.lines_append_newline h.1,
        List.filterMap_cons, List.filterMap_cons, ih h.2,
        Profile.reading?_congr (Profile.trim_withoutReturn l)]

theorem isBlank_of_isComment (h : isComment t) : ∀ c ∈ t.head?, isBlank c = false := by
  rw [isComment, Bool.or_eq_true, decide_eq_true_eq, decide_eq_true_eq] at h
  intro c hc
  rw [Option.mem_def.1 hc, Option.some.injEq, Option.some.injEq] at h
  obtain rfl | rfl := h <;> rfl

theorem reading?_of_comment {before : List Char} (hb : IsGap before) (ht : isComment t) :
    reading? (before ++ t) = none := by
  have hhead : (trim (before ++ t)).head? = t.head? := by
    rw [← Text.head?_word, Text.word, Text.trimStart_append_of_blank fun c hc => (hb c hc).1,
      trimStart_of_head (isBlank_of_isComment ht)]
    cases t with
    | nil => rfl
    | cons c t =>
      rw [List.takeWhile_cons_of_pos (by rw [isBlank_of_isComment ht c rfl]; rfl)]
      rfl
  have hcomment : isComment (trim (before ++ t)) := by
    rw [isComment, hhead]
    exact ht
  rw [reading?, Option.filter_some, if_neg (by simp [hcomment])]
  rfl

theorem reading?_of_writesWords {before after : List Char} (hb : IsGap before) (ha : IsGap after)
    (h : WritesWords d.words t) (ht : isComment t = false) :
    reading? (before ++ (t ++ after)) = some d := by
  have htight := h.tight
  have hempty : t.isEmpty = false := List.isEmpty_eq_false_iff.2 htight.ne_nil
  have hd : d.isEmpty = false := List.isEmpty_eq_false_iff.2 h.ne_nil
  rw [reading?, htight.trim_append (fun c hc => (hb c hc).1) fun c hc => (ha c hc).1,
    Option.filter_some, if_pos (by rw [hempty, ht]; rfl), Option.map_some, ofText_of_writesWords h,
    Option.filter_some, if_pos (by rw [hd]; rfl)]

theorem WritesPage.filterMap_reading? (h : WritesPage ds ls) : ls.filterMap reading? = ds := by
  induction h with
  | nil => rfl
  | blank hl _ ih => rw [List.filterMap_cons_none (reading?_of_gap hl), ih]
  | comment hb ht _ _ ih => rw [List.filterMap_cons_none (reading?_of_comment hb ht), ih]
  | directive hb ha h ht _ ih =>
    rw [List.filterMap_cons_some (reading?_of_writesWords hb ha h ht), ih]

theorem WritesPage.newline_not_mem (h : WritesPage ds ls)
    (hds : ∀ d ∈ ds, ∀ w ∈ d.words, '\n' ∉ w.toList) : ∀ l ∈ ls, '\n' ∉ l := by
  have hgap {t : List Char} (h : IsGap t) : '\n' ∉ t := fun hc => (h _ hc).2 rfl
  induction h with
  | nil => exact nofun
  | blank hl _ ih => exact List.forall_mem_cons.2 ⟨hgap hl, ih hds⟩
  | comment hb _ ht _ ih =>
    refine List.forall_mem_cons.2 ⟨?_, ih hds⟩
    rw [List.mem_append, not_or]
    exact ⟨hgap hb, ht⟩
  | directive hb ha h _ _ ih =>
    rw [List.forall_mem_cons] at hds
    refine List.forall_mem_cons.2 ⟨?_, ih hds.2⟩
    rw [List.mem_append, List.mem_append, not_or, not_or]
    refine ⟨hgap hb, fun hc => ?_, hgap ha⟩
    obtain hc | ⟨w, hw, hc⟩ | hc := h.mem hc
    · exact absurd hc (by decide)
    · exact hds.1 w hw hc
    · exact hc.2 rfl

/-! ### Push replies -/

theorem splitCommas_of_not_mem (h : ',' ∉ t) : splitCommas t = [t] := by
  induction t with
  | nil => rfl
  | cons c t ih =>
    rw [List.mem_cons, not_or] at h
    rw [splitCommas, if_neg (Ne.symm h.1), ih h.2]

theorem splitCommas_append (h : ',' ∉ t) (u : List Char) :
    splitCommas (t ++ ',' :: u) = t :: splitCommas u := by
  induction t with
  | nil => rfl
  | cons c t ih =>
    rw [List.mem_cons, not_or] at h
    rw [List.cons_append, splitCommas, if_neg (Ne.symm h.1), ih h.2]

theorem splitCommas_intercalate (hne : ts ≠ []) (h : ∀ t ∈ ts, ',' ∉ t) :
    splitCommas (List.intercalate [','] ts) = ts := by
  induction ts with
  | nil => exact absurd rfl hne
  | cons t ts ih =>
    rw [List.forall_mem_cons] at h
    cases ts with
    | nil =>
      rw [List.intercalate_singleton]
      exact splitCommas_of_not_mem h.1
    | cons u us =>
      rw [List.intercalate_cons_cons, List.append_assoc, List.singleton_append,
        splitCommas_append h.1, ih (List.cons_ne_nil u us) h.2]

theorem tight_intercalate (hne : ts ≠ []) (h : ∀ t ∈ ts, Tight t) :
    Tight (List.intercalate [','] ts) := by
  induction ts with
  | nil => exact absurd rfl hne
  | cons t ts ih =>
    rw [List.forall_mem_cons] at h
    cases ts with
    | nil =>
      rw [List.intercalate_singleton]
      exact h.1
    | cons u us =>
      rw [List.intercalate_cons_cons, List.append_assoc]
      exact h.1.append _ (ih (List.cons_ne_nil u us) h.2)

theorem dropMark_append (t : List Char) : dropMark (pushReplyMark ++ t) = t := by
  rw [dropMark, if_pos, List.drop_left]
  simp

/-- Parts that write directives are read one by one. -/
theorem readParts (h : List.Forall₂ (fun d t => WritesWords d.words t) ds ts) :
    (((ts.map trim).filter (!·.isEmpty)).map ofText).filter (!·.isEmpty) = ds := by
  induction h with
  | nil => rfl
  | @cons d t ds ts hd _ ih =>
    have htight := hd.tight
    have hempty : t.isEmpty = false := List.isEmpty_eq_false_iff.2 htight.ne_nil
    have hwords : d.isEmpty = false := List.isEmpty_eq_false_iff.2 hd.ne_nil
    rw [List.map_cons, htight.trim_eq, List.filter_cons_of_pos (by rw [hempty]; rfl),
      List.map_cons, ofText_of_writesWords hd, List.filter_cons_of_pos (by rw [hwords]; rfl), ih]

theorem comma_not_mem (h : WritesWords ws t) (hws : ∀ w ∈ ws, ',' ∉ w.toList) : ',' ∉ t := by
  intro hc
  obtain hc | ⟨w, hw, hc⟩ | hc := h.mem hc
  · exact absurd hc (by decide)
  · exact hws w hw hc
  · exact absurd hc.1 (by decide)

theorem exists_of_forall₂ {α β : Type} {R : α → β → Prop} {xs : List α} {ys : List β}
    (h : List.Forall₂ R xs ys) : ∀ y ∈ ys, ∃ x ∈ xs, R x y := by
  induction h with
  | nil => exact nofun
  | cons hxy _ ih =>
    refine List.forall_mem_cons.2 ⟨⟨_, List.mem_cons_self, hxy⟩, fun y hy => ?_⟩
    obtain ⟨x, hx, h⟩ := ih y hy
    exact ⟨x, List.mem_cons_of_mem _ hx, h⟩

theorem ofPushReply_append (h : List.Forall₂ (fun d t => WritesWords d.words t) ds ts)
    (hds : ∀ d ∈ ds, ∀ w ∈ d.words, ',' ∉ w.toList) :
    ofPushReply (pushReplyMark ++ ',' :: List.intercalate [','] ts) = ds := by
  by_cases hne : ts = []
  · subst hne
    cases h
    rfl
  · have hcomma : ∀ t ∈ ts, ',' ∉ t := by
      intro t ht
      obtain ⟨d, hd, hwrites⟩ := exists_of_forall₂ h t ht
      exact comma_not_mem hwrites (hds d hd)
    have hbody : Tight (List.intercalate [','] ts) := by
      refine tight_intercalate hne fun t ht => ?_
      obtain ⟨d, -, hwrites⟩ := exists_of_forall₂ h t ht
      exact hwrites.tight
    have hmark : Tight pushReplyMark := by
      refine ⟨by decide, fun c hc => ?_, fun c hc => ?_⟩ <;> rw [← Option.some.inj hc] <;> rfl
    have htrim := (hmark.append [','] hbody).trim_eq
    rw [List.singleton_append] at htrim
    rw [ofPushReply, htrim, dropMark_append, splitCommas, if_pos rfl,
      splitCommas_intercalate hne hcomma, List.map_cons, List.filter_cons_of_neg (by simp)]
    exact readParts h

/-- What is written is read again: on a page, if no word has a line feed, and in a push reply, if no
word has a comma. -/
theorem reading_undoes_writing (ds : List Directive) :
    (∀ ls, WritesPage ds ls → (∀ d ∈ ds, ∀ w ∈ d.words, '\n' ∉ w.toList) →
      ofLines (joinLines ls) = ds) ∧
    ∀ ts, List.Forall₂ (fun d t => WritesWords d.words t) ds ts →
      (∀ d ∈ ds, ∀ w ∈ d.words, ',' ∉ w.toList) →
      ofPushReply ("PUSH_REPLY,".toList ++ List.intercalate [','] ts) = ds := by
  constructor
  · intro ls hpage hwords
    rw [ofLines_joinLines (hpage.newline_not_mem hwords), hpage.filterMap_reading?]
  · intro ts hwrites hwords
    exact ofPushReply_append hwrites hwords

/-- Empty words, blanks in a word, and a word that would begin a comment. -/
theorem reading_undoes_writing_of_quoted_words :
    ofLines "\r\n ; note\nsetenv\t\"a b\" \"\"\u00a0\n\"#x\" 1\n".toList =
        [⟨["setenv", "a b", ""]⟩, ⟨["#x", "1"]⟩] ∧
      ofPushReply "PUSH_REPLY,setenv\t\"a b\" \"\",\"#x\" 1".toList =
        [⟨["setenv", "a b", ""]⟩, ⟨["#x", "1"]⟩] := by
  have hplain {w : List Char} (h : w.any isBlank = false) : ∀ c ∈ w, isBlank c = false := by
    simpa using h
  have hsetenv : WritesWords ["setenv", "a b", ""] "setenv\t\"a b\" \"\"".toList :=
    @WritesWords.cons "setenv" ["a b", ""] "setenv".toList "\t".toList "\"a b\" \"\"".toList
      (.bare (by decide) (by decide) (hplain (by decide))) (by decide) (by decide)
      (@WritesWords.cons "a b" [""] "\"a b\"".toList " ".toList "\"\"".toList
        (.quoted (by decide)) (by decide) (by decide) (.single (.quoted (by decide))))
  have hmark : WritesWords ["#x", "1"] "\"#x\" 1".toList :=
    @WritesWords.cons "#x" ["1"] "\"#x\"".toList " ".toList "1".toList
      (.quoted (by decide)) (by decide) (by decide)
      (.single (.bare (by decide) (by decide) (hplain (by decide))))
  have hpage : WritesPage [⟨["setenv", "a b", ""]⟩, ⟨["#x", "1"]⟩]
      ["\r".toList, " ; note".toList, "setenv\t\"a b\" \"\"\u00a0".toList,
        "\"#x\" 1".toList, []] :=
    .blank (by decide) (@WritesPage.comment " ".toList "; note".toList _ _ (by decide)
      (by decide) (by decide) (@WritesPage.directive [] _ "\u00a0".toList _ _ _ (by decide)
        (by decide) hsetenv (by decide) (@WritesPage.directive [] _ [] _ _ _ (by decide)
          (by decide) hmark (by decide) (.blank (by decide) .nil))))
  have hread := (reading_undoes_writing _).1 _ hpage (by decide)
  have hreply := (reading_undoes_writing _).2 _ (.cons hsetenv (.cons hmark .nil)) (by decide)
  exact ⟨hread, hreply⟩

end TunnelRelay.Directive
