import TunnelRelay.Proofs.Profile.NormalLines

/-!
# The normal form, read again

A profile in normal form is itself a profile. Its sections are what becomes of the sections that
were there, each by itself. The lines that are added at the end stand outside the blocks, unless
the last block was left open: then they are swallowed by it.

## Main definitions

- `Profile.mandatoryNames` — the directives that can be added
- `Profile.Section.lines`, `Profile.Section.mapLines` — the lines of a section
- `Profile.Becomes` — what can become of a line outside the blocks
- `Profile.Section.normal`, `Profile.keptSections` — what becomes of sections, as sections
- `Profile.appendLines` — sections with more lines behind them
- `Profile.normalSections` — the sections of the normal form

## Main statements

- `Profile.divides_normalLines` — the lines of the normal form have these sections
- `Profile.lines_normalize`, `Profile.divides_normalize` — so does the text, read again

## Design notes

A body line may end in a carriage return, which the line feed behind it takes away when the text is
read again. What is said about a line by its trimmed form or by its words stays true.
-/

namespace TunnelRelay.Profile

open Text (isBlank trim trimEnd word lines withoutReturn)

variable {p : Preferences} {k l : Line} {ks ls : List Line} {s : Section} {ss ts : List Section}

/-! ### Lines -/

/-- A line without its carriage return lacks only blanks. -/
theorem exists_blank_withoutReturn (l : Line) :
    ∃ bs, l = withoutReturn l ++ bs ∧ ∀ c ∈ bs, isBlank c := by
  obtain ⟨bs, hl, hbs⟩ := Text.exists_eq_withoutReturn_append l
  exact ⟨bs, hl, fun c hc => by rw [hbs c hc]; rfl⟩

theorem trim_withoutReturn (l : Line) : trim (withoutReturn l) = trim l := by
  obtain ⟨bs, hl, hblank⟩ := exists_blank_withoutReturn l
  have htrim := Text.trim_append_of_blank hblank (withoutReturn l)
  rw [← hl] at htrim
  exact htrim.symm

theorem word_of_trim_eq (h : trim k = trim l) : word k = word l := by
  rw [← Text.word_trim, h, Text.word_trim]

theorem word_withoutReturn (l : Line) : word (withoutReturn l) = word l :=
  word_of_trim_eq (trim_withoutReturn l)

theorem withoutReturn_trimEnd (l : Line) : withoutReturn (trimEnd l) = trimEnd l := by
  refine Text.withoutReturn_of_getLast? fun h => ?_
  rw [← List.head?_reverse, Text.reverse_trimEnd] at h
  obtain ⟨r, hr⟩ := List.head?_eq_some_iff.1 h
  exact absurd (Text.isBlank_head_trimStart hr) (by decide)

/-- A line whose first word does not begin with an angle bracket is no tag. -/
theorem trim_ne_cons_of_word (h : (word l).head? ≠ some '<') (r : List Char) :
    trim l ≠ '<' :: r := by
  intro ht
  rw [Text.head?_word, ht] at h
  exact h rfl

theorem not_isSome_tag?_of_word (h : (word l).head? ≠ some '<') : ¬(tag? (trim l)).isSome := by
  intro ht
  obtain ⟨tag, ht⟩ := Option.isSome_iff_exists.1 ht
  exact trim_ne_cons_of_word h _ (eq_openingLine_of_tag? ht)

theorem opensNothing_of_word (h : (word l).head? ≠ some '<') : OpensNothing l :=
  fun _ ht => absurd ht (trim_ne_cons_of_word h _)

theorem OpensNothing.of_trim_eq (h : OpensNothing l) (ht : trim k = trim l) : OpensNothing k := by
  intro tag hk
  exact h tag (ht.symm.trans hk)

theorem Opens.of_trim_eq {tag : List Char} (h : Opens tag l) (ht : trim k = trim l) :
    Opens tag k := ⟨ht.trans h.1, h.2⟩

theorem word_credentialsName : word credentialsName = credentialsName := by decide

theorem word_certificateName : word certificateName = certificateName := by decide

theorem word_verbosityLine (level : Nat) : word (verbosityLine level) = verbosityName := by
  have hplain : verbosityName.all (!isBlank ·) := by decide
  have hblank : ∀ c ∈ verbosityName, isBlank c = false := by
    simpa using List.all_eq_true.1 hplain
  exact Text.word_append (by decide) hblank rfl _

theorem of_mem_verbosityLine {c : Char} {level : Nat} (h : c ∈ verbosityLine level) :
    c ∈ verbosityName ∨ c = ' ' ∨ c.isDigit := by
  obtain h | h := List.mem_append.1 h
  · exact .inl h
  · obtain h | h := List.mem_cons.1 h
    · exact .inr (.inl h)
    · rw [Nat.toString_eq_repr, Nat.toList_repr] at h
      exact .inr (.inr (Nat.isDigit_of_mem_toDigits (by decide) (by decide) h))

theorem newline_not_mem_verbosityLine (level : Nat) : '\n' ∉ verbosityLine level := by
  intro h
  obtain h | h | h := of_mem_verbosityLine h
  all_goals exact absurd h (by decide)

theorem withoutReturn_verbosityLine (level : Nat) :
    withoutReturn (verbosityLine level) = verbosityLine level := by
  refine Text.withoutReturn_of_getLast? fun h => ?_
  obtain h | h | h := of_mem_verbosityLine (List.mem_of_getLast? h)
  all_goals exact absurd h (by decide)

/-- The directives that can be added. -/
def mandatoryNames : List Line := [credentialsName, certificateName, verbosityName]

theorem head?_of_mem_mandatoryNames {name : Line} (h : name ∈ mandatoryNames) :
    name.head? ≠ some '<' := by
  have hnames : ∀ w ∈ mandatoryNames, w.head? ≠ some '<' := by decide
  exact hnames name h

/-- The lines that can be added at the end. -/
theorem mem_additions (h : k ∈ additions p ss) : k = credentialsName ∨ k = certificateName ∨
    ∃ level, p.forcedVerb = some level ∧ k = verbosityLine level := by
  rw [additions, List.mem_append, List.mem_append] at h
  obtain (h | h) | h := h
  · split at h
    · cases h
    · exact .inl (List.mem_singleton.1 h)
  · split at h
    · cases h
    · exact .inr (.inl (List.mem_singleton.1 h))
  · split at h
    · next level hv =>
      split at h
      · cases h
      · exact .inr (.inr ⟨level, hv, List.mem_singleton.1 h⟩)
    · cases h

theorem word_of_mem_additions (h : k ∈ additions p ss) : word k ∈ mandatoryNames := by
  obtain rfl | rfl | ⟨level, -, rfl⟩ := mem_additions h
  · simp [mandatoryNames, word_credentialsName]
  · simp [mandatoryNames, word_certificateName]
  · simp [mandatoryNames, word_verbosityLine]

theorem head?_word_of_mem_additions (h : k ∈ additions p ss) : (word k).head? ≠ some '<' :=
  head?_of_mem_mandatoryNames (word_of_mem_additions h)

theorem withoutReturn_of_mem_additions (h : k ∈ additions p ss) : withoutReturn k = k := by
  obtain rfl | rfl | ⟨level, -, rfl⟩ := mem_additions h
  · decide
  · decide
  · exact withoutReturn_verbosityLine level

/-! ### What becomes of a line -/

/-- The line is no tag, and its directive is supported. -/
def Kept (p : Preferences) (l : Line) : Prop :=
  ¬(tag? (trim l)).isSome ∧ ¬p.unsupported.any (·.toList = word l)

/-- Whether a line is kept can be told from its first word, unless that begins a tag. -/
theorem kept_iff_of_word (h : (word l).head? ≠ some '<') :
    Kept p l ↔ ¬p.unsupported.any (·.toList = word l) :=
  and_iff_right (not_isSome_tag?_of_word h)

/-- What can become of a line outside the blocks. -/
inductive Becomes (p : Preferences) (l : Line) : Line → Prop
  | tag : (tag? (trim l)).isSome → Becomes p l (trim l)
  | credentials : Kept p l → word l = credentialsName → Becomes p l credentialsName
  | trimmed : Kept p l → word l = certificateName ∨ word l = digestName → Becomes p l (trim l)
  | certificate : Kept p l → word l = digestName → Becomes p l certificateName
  | verbosity {level : Nat} : Kept p l → p.forcedVerb = some level → word l = verbosityName →
      Becomes p l (verbosityLine level)
  | other : Kept p l → word l ∉ [credentialsName, certificateName, digestName] →
      (p.forcedVerb.isSome → word l ≠ verbosityName) → Becomes p l (trimEnd l)

theorem becomes_of_mem {all before : List Section}
    (h : k ∈ (Section.top l).normalLines p all before) : Becomes p l k := by
  rw [Section.normalLines] at h
  split at h
  · next ht =>
    rw [List.mem_singleton.1 h]
    exact .tag ht
  next ht =>
  split at h
  · cases h
  next hu =>
  have hkept : Kept p l := ⟨ht, hu⟩
  split at h
  · next hc =>
    split at h
    · cases h
    · rw [List.mem_singleton.1 h]
      exact .credentials hkept hc
  next hc =>
  split at h
  · next hk =>
    rw [List.mem_singleton.1 h]
    exact .trimmed hkept (.inl hk)
  next hk =>
  split at h
  · next hd =>
    split at h
    · rw [List.mem_singleton.1 h]
      exact .trimmed hkept (.inr hd)
    · obtain rfl | h := List.mem_cons.1 h
      · exact .certificate hkept hd
      · rw [List.mem_singleton.1 h]
        exact .trimmed hkept (.inr hd)
  next hd =>
  have hnames : word l ∉ [credentialsName, certificateName, digestName] := by simp [hc, hk, hd]
  split at h
  · next level hf =>
    split at h
    · next hv =>
      split at h
      · cases h
      · rw [List.mem_singleton.1 h]
        exact .verbosity hkept hf hv
    · next hv =>
      rw [List.mem_singleton.1 h]
      exact .other hkept hnames fun _ => hv
  · next hf =>
    rw [List.mem_singleton.1 h]
    exact .other hkept hnames fun h => by simp [hf] at h

theorem gives_top_iff {name : List Char} :
    (Section.top l).gives p name ↔ Kept p l ∧ word l = name := by
  simp [Section.gives, Kept]

/-- A line that is no tag comes from a directive with the same name, or else it is the certificate
rule before a digest. -/
theorem Becomes.gives (h : Becomes p l k) (hk : (word k).head? ≠ some '<') :
    (Section.top l).gives p (word k) ∨
      word k = certificateName ∧ (Section.top l).gives p digestName := by
  cases h with
  | tag ht =>
    rw [Text.word_trim] at hk
    exact absurd ht (not_isSome_tag?_of_word hk)
  | credentials hl hw =>
    rw [word_credentialsName]
    exact .inl (gives_top_iff.2 ⟨hl, hw⟩)
  | trimmed hl =>
    rw [Text.word_trim]
    exact .inl (gives_top_iff.2 ⟨hl, rfl⟩)
  | certificate hl hw => exact .inr ⟨word_certificateName, gives_top_iff.2 ⟨hl, hw⟩⟩
  | verbosity hl _ hw =>
    rw [word_verbosityLine]
    exact .inl (gives_top_iff.2 ⟨hl, hw⟩)
  | other hl =>
    rw [Text.word_trimEnd]
    exact .inl (gives_top_iff.2 ⟨hl, rfl⟩)

theorem Becomes.newline_not_mem (h : Becomes p l k) (hl : '\n' ∉ l) : '\n' ∉ k := by
  cases h with
  | tag | trimmed => exact fun hk => hl ((Text.trim_sublist l).subset hk)
  | credentials | certificate => decide
  | verbosity => exact newline_not_mem_verbosityLine _
  | other => exact fun hk => hl ((Text.trimEnd_sublist l).subset hk)

theorem Becomes.opensNothing (h : Becomes p l k) (hl : OpensNothing l) : OpensNothing k := by
  cases h with
  | tag | trimmed => exact hl.of_trim_eq (Text.trim_trim l)
  | credentials => exact opensNothing_of_word (by decide)
  | certificate => exact opensNothing_of_word (by decide)
  | verbosity => exact opensNothing_of_word (by rw [word_verbosityLine]; decide)
  | other => exact hl.of_trim_eq (Text.trim_trimEnd l)

theorem Becomes.withoutReturn (h : Becomes p l k) : withoutReturn k = k := by
  cases h with
  | tag | trimmed => exact withoutReturn_trimEnd (Text.trimStart l)
  | credentials | certificate => decide
  | verbosity => exact withoutReturn_verbosityLine _
  | other => exact withoutReturn_trimEnd l

/-! ### The lines of sections -/

/-- The lines of a section. -/
def Section.lines : Section → List Line
  | .top l => [l]
  | .block _ l body closing => l :: (body ++ closing.toList)

/-- The section with each of its lines changed. -/
def Section.mapLines (f : Line → Line) : Section → Section
  | .top l => .top (f l)
  | .block tag l body closing => .block tag (f l) (body.map f) (closing.map f)

theorem Unclosed.append {tag : List Char} (hk : Unclosed tag ks) (hl : Unclosed tag ls) :
    Unclosed tag (ks ++ ls) := fun l h => (List.mem_append.1 h).elim (hk l) (hl l)

theorem Unclosed.map {tag : List Char} {f : Line → Line} (hf : ∀ l, trim (f l) = trim l)
    (h : Unclosed tag ls) : Unclosed tag (ls.map f) := by
  intro l hl
  obtain ⟨k, hk, rfl⟩ := List.mem_map.1 hl
  rw [hf]
  exact h k hk

/-- Nothing but its lines makes up the sections of a profile. -/
theorem Divides.flatMap_lines (h : Divides ls ss) : ss.flatMap Section.lines = ls := by
  induction h with
  | nil => rfl
  | top _ _ ih => rw [List.flatMap_cons, ih]; rfl
  | closed _ _ _ _ ih =>
    rw [List.flatMap_cons, ih]
    simp [Section.lines]
  | unclosed => simp [Section.lines]

/-- Lines with the same trimmed forms have the same sections. -/
theorem Divides.map {f : Line → Line} (hf : ∀ l, trim (f l) = trim l) (h : Divides ls ss) :
    Divides (ls.map f) (ss.map (Section.mapLines f)) := by
  induction h with
  | nil => exact .nil
  | @top l _ _ hl _ ih => exact .top (hl.of_trim_eq (hf l)) ih
  | @closed tag l c body ls ss ho hbody hc _ ih =>
    rw [List.map_cons, List.map_append, List.map_cons]
    exact .closed (ho.of_trim_eq (hf l)) (hbody.map hf) ((hf c).trans hc) ih
  | @unclosed tag l body ho hbody => exact .unclosed (ho.of_trim_eq (hf l)) (hbody.map hf)

/-- Lines outside the blocks stand before the sections of a profile. -/
theorem Divides.tops (hk : ∀ k ∈ ks, OpensNothing k) (h : Divides ls ss) :
    Divides (ks ++ ls) (ks.map .top ++ ss) := by
  induction ks with
  | nil => exact h
  | cons k ks ih =>
    exact .top (hk k List.mem_cons_self) (ih fun m hm => hk m (List.mem_cons_of_mem k hm))

/-! ### What becomes of sections -/

/-- What becomes of a section of a profile that has all these sections, and these before it. -/
def Section.normal (p : Preferences) (all before : List Section) : Section → List Section
  | .top l => ((Section.top l).normalLines p all before).map .top
  | .block tag l body closing =>
    if tag = credentialsName then [] else [.block tag (trim l) body (closing.map trim)]

/-- What becomes of the sections of a profile, before anything is added. -/
def keptSections (p : Preferences) (ss : List Section) : List Section :=
  ss.zipIdx.flatMap fun (s, i) => s.normal p ss (ss.take i)

/-- The sections with more lines behind them. A block that was left open takes them in. -/
def appendLines (ls : List Line) : List Section → List Section
  | [] => ls.map .top
  | [.block tag l body none] => [.block tag l (body ++ ls) none]
  | s :: ss => s :: appendLines ls ss

/-- The sections of the normal form of a profile with these sections. -/
def normalSections (p : Preferences) (ss : List Section) : List Section :=
  appendLines (additions p ss) (keptSections p ss)

theorem normalLines_block (p : Preferences) (all before : List Section) (tag : List Char) (l : Line)
    (body : List Line) (closing : Option Line) :
    (Section.block tag l body closing).normalLines p all before =
      if tag = credentialsName then [] else trim l :: (body ++ closing.toList.map trim) := rfl

/-- What becomes of sections is divided into what becomes of each. -/
theorem Divides.normal (p : Preferences) (all : List Section) (h : Divides ls ss) (n : Nat) :
    Divides ((ss.zipIdx n).flatMap fun (s, i) => s.normalLines p all (all.take i))
      ((ss.zipIdx n).flatMap fun (s, i) => s.normal p all (all.take i)) := by
  induction h generalizing n with
  | nil => exact .nil
  | top hl _ ih =>
    rw [List.zipIdx_cons, List.flatMap_cons, List.flatMap_cons]
    exact (ih (n + 1)).tops fun k hk => (becomes_of_mem hk).opensNothing hl
  | @closed tag l c body ls ss ho hbody hc _ ih =>
    rw [List.zipIdx_cons, List.flatMap_cons, List.flatMap_cons]
    dsimp only
    rw [normalLines_block, Section.normal]
    split
    · exact ih (n + 1)
    · have hclosing : trim (trim c) = closingLine tag := (Text.trim_trim c).trans hc
      have hrest := Divides.closed (ho.of_trim_eq (Text.trim_trim l)) hbody hclosing (ih (n + 1))
      simpa using hrest
  | @unclosed tag l body ho hbody =>
    rw [List.zipIdx_singleton, List.flatMap_singleton, List.flatMap_singleton]
    dsimp only
    rw [normalLines_block, Section.normal]
    split
    · exact .nil
    · have hblock := Divides.unclosed (ho.of_trim_eq (Text.trim_trim l)) hbody
      simpa using hblock

theorem divides_keptSections (p : Preferences) (h : Divides ls ss) :
    Divides (ss.zipIdx.flatMap fun (s, i) => s.normalLines p ss (ss.take i)) (keptSections p ss) :=
  h.normal p ss 0

theorem divides_appendLines (h : Divides ks ss) (hl : ∀ l ∈ ls, (word l).head? ≠ some '<') :
    Divides (ks ++ ls) (appendLines ls ss) := by
  induction h with
  | nil =>
    have htops := Divides.nil.tops fun l h => opensNothing_of_word (hl l h)
    rw [List.append_nil, List.append_nil] at htops
    exact htops
  | top hk _ ih => exact .top hk ih
  | closed ho hbody hc _ ih =>
    rw [List.cons_append, List.append_assoc, List.cons_append]
    exact .closed ho hbody hc ih
  | unclosed ho hbody =>
    rw [List.cons_append]
    exact .unclosed ho (hbody.append fun l h => trim_ne_cons_of_word (hl l h) _)

/-- The sections of the lines of a normal form. -/
theorem divides_normalLines (p : Preferences) (h : Divides ls ss) :
    Divides (normalLines p ss) (normalSections p ss) :=
  divides_appendLines (divides_keptSections p h) fun _ hk => head?_word_of_mem_additions hk

/-! ### The lines of a normal form -/

/-- Where the lines of a normal form come from. -/
theorem mem_normalLines (h : Divides ls ss) (hk : k ∈ normalLines p ss) :
    k ∈ ls ∨ (∃ l ∈ ls, k = trim l) ∨ (∃ l ∈ ls, Becomes p l k) ∨ k ∈ additions p ss := by
  obtain hk | hk := List.mem_append.1 hk
  · obtain ⟨⟨s, i⟩, hs, hk⟩ := List.mem_flatMap.1 hk
    have hmem {l : Line} (hl : l ∈ s.lines) : l ∈ ls := by
      rw [← h.flatMap_lines]
      exact List.mem_flatMap_of_mem (List.fst_mem_of_mem_zipIdx hs) hl
    cases s with
    | top l => exact .inr (.inr (.inl ⟨l, hmem List.mem_cons_self, becomes_of_mem hk⟩))
    | block tag l body closing =>
      dsimp only at hk
      rw [normalLines_block] at hk
      split at hk
      · cases hk
      · obtain rfl | hk := List.mem_cons.1 hk
        · exact .inr (.inl ⟨l, hmem List.mem_cons_self, rfl⟩)
        · obtain hk | hk := List.mem_append.1 hk
          · exact .inl (hmem (List.mem_cons_of_mem l (List.mem_append_left _ hk)))
          · obtain ⟨c, hc, rfl⟩ := List.mem_map.1 hk
            exact .inr (.inl ⟨c, hmem (List.mem_cons_of_mem l (List.mem_append_right _ hc)), rfl⟩)
  · exact .inr (.inr (.inr hk))

theorem newline_not_mem_normalLines (h : Divides ls ss) (hls : ∀ l ∈ ls, '\n' ∉ l) :
    ∀ k ∈ normalLines p ss, '\n' ∉ k := by
  intro k hk
  obtain hk | ⟨l, hl, rfl⟩ | ⟨l, hl, hk⟩ | hk := mem_normalLines h hk
  · exact hls k hk
  · exact fun hc => hls l hl ((Text.trim_sublist l).subset hc)
  · exact hk.newline_not_mem (hls l hl)
  · obtain rfl | rfl | ⟨level, -, rfl⟩ := mem_additions hk
    · decide
    · decide
    · exact newline_not_mem_verbosityLine level

theorem withoutReturn_of_mem_normalLines (h : Divides ls ss)
    (hls : ∀ l ∈ ls, l.getLast? ≠ some '\r') : ∀ k ∈ normalLines p ss, withoutReturn k = k := by
  intro k hk
  obtain hk | ⟨l, -, rfl⟩ | ⟨l, -, hk⟩ | hk := mem_normalLines h hk
  · exact Text.withoutReturn_of_getLast? (hls k hk)
  · exact withoutReturn_trimEnd (Text.trimStart l)
  · exact hk.withoutReturn
  · exact withoutReturn_of_mem_additions hk

/-! ### The text, read again -/

theorem map_text_normalItems (p : Preferences) (h : Divides ls ss) :
    (normalItems p ls).map Item.text = normalLines p ss := by
  have hcertified : (ss.flatMap (·.items p)).any (·.role = .certificate) =
      ss.any (·.gives p certificateName) := by
    rw [List.any_flatMap]
    exact List.any_congr rfl fun s => any_items_certificate p s
  have hnone : metIn p [] = {} := by simp [metIn]
  rw [normalItems_eq_restFrom p h, hcertified, ← hnone]
  exact restFrom_sections p ss [] ss rfl

theorem normalLines_ne_nil (p : Preferences) (h : Divides ls ss) : normalLines p ss ≠ [] := by
  rw [← map_text_normalItems p h]
  simpa using normalItems_ne_nil p ls

/-- The normal form of a profile with these sections. -/
theorem normalize_of_divides (p : Preferences) {profile : List Char}
    (h : Divides (lines profile) ss) :
    normalize p profile = (normalLines p ss).flatMap (· ++ ['\n']) := by
  rw [normalize, map_text_normalItems p h, joinLines_concat (normalLines_ne_nil p h)]

/-- The lines of the normal form of a profile with these sections. -/
theorem lines_normalize (p : Preferences) {profile : List Char} (h : Divides (lines profile) ss) :
    lines (normalize p profile) = (normalLines p ss).map withoutReturn := by
  rw [normalize_of_divides p h]
  exact Text.lines_flatMap_newline (newline_not_mem_normalLines h
    fun _ hl => Text.newline_not_mem_of_mem_lines hl)

/-- The sections of the normal form of a profile with these sections. -/
theorem divides_normalize (p : Preferences) {profile : List Char}
    (h : Divides (lines profile) ss) : Divides (lines (normalize p profile))
      ((normalSections p ss).map (Section.mapLines withoutReturn)) := by
  rw [lines_normalize p h]
  exact (divides_normalLines p h).map trim_withoutReturn

end TunnelRelay.Profile
