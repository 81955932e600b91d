import TunnelRelay.Proofs.Profile.Rereading

/-!
# Mandatory directives

An engine that reads the normal form with the same rule for blocks has to find the directives that
were put into it: it looks for them outside the blocks.

## Main definitions

- `Profile.outside` — the lines of a profile outside every block
- `Profile.Mandated` — the mandatory directives stand among lines
- `Profile.LeftOpen` — a block that is kept goes on to the end of the profile

## Main statements

- `Profile.outside_normalize` — the lines of the normal form outside every block
- `Profile.mandated_append_additions` — what is kept and what is added make up what is mandatory
- `Profile.mandated_normalize_iff` — the mandatory directives are found if and only if no block is
  left open, or nothing had to be added

## Design notes

What is added stands behind everything else. A block that is left open lasts to the end of the
profile, so it takes in what is added, and no engine that knows blocks sees it.
-/

namespace TunnelRelay.Profile

open Text (trim trimEnd word lines)

variable {p : Preferences} {k l : Line} {ks ls : List Line} {s : Section} {ss ts : List Section}

/-- The lines of a profile that stand outside every block. -/
def outside (ls : List Line) : List Line :=
  (outline opensBlock ls).filterMap fun x => if x.1 = .top then some x.2 else none

/-- The mandatory directives stand among the lines: one request for credentials and no further one,
the certificate rule, and the forced verbosity and no other. -/
structure Mandated (p : Preferences) (ls : List Line) : Prop where
  credentials : ls.filter (word · = credentialsName) = [credentialsName]
  certificate : ∃ l ∈ ls, word l = certificateName
  verbosity : ∀ level, p.forcedVerb = some level →
    ls.filter (word · = verbosityName) = [verbosityLine level]

/-- A block goes on to the end of the profile, and it is not one of credentials. -/
def LeftOpen (ss : List Section) : Prop :=
  ∃ tag l body, tag ≠ credentialsName ∧ .block tag l body none ∈ ss

/-! ### Lines outside the blocks -/

/-- The lines of a section that stand outside the blocks. -/
def Section.tops : Section → List Line
  | .top l => [l]
  | .block .. => []

/-- The section is a block without a closing line. -/
def Section.isOpen : Section → Bool
  | .block _ _ _ none => true
  | _ => false

theorem outside_of_divides (h : Divides ls ss) : outside ls = ss.flatMap Section.tops := by
  rw [outside, outline_of_divides h, List.filterMap_flatMap]
  congr 1
  funext s
  cases s with
  | top l => rfl
  | block tag l body closing => cases closing <;> simp [Section.outline, Section.tops]

theorem flatMap_tops_map_top (ks : List Line) : (ks.map Section.top).flatMap Section.tops = ks := by
  induction ks with
  | nil => rfl
  | cons k ks ih => rw [List.map_cons, List.flatMap_cons, ih]; rfl

theorem flatMap_tops_mapLines (f : Line → Line) (ss : List Section) :
    (ss.map (Section.mapLines f)).flatMap Section.tops = (ss.flatMap Section.tops).map f := by
  rw [List.flatMap_map, List.map_flatMap]
  congr 1
  funext s
  cases s <;> rfl

/-- An open block takes in the lines behind it. -/
theorem flatMap_tops_appendLines (h : Divides ks ss) (ls : List Line) :
    (appendLines ls ss).flatMap Section.tops =
      ss.flatMap Section.tops ++ if ss.any Section.isOpen then [] else ls := by
  induction h with
  | nil => exact flatMap_tops_map_top ls
  | top _ _ ih | closed _ _ _ _ ih =>
    rw [appendLines, List.flatMap_cons, List.flatMap_cons, ih, List.append_assoc, List.any_cons]
    · rfl
    · exact nofun
  | unclosed => rfl

theorem flatMap_tops_normal (p : Preferences) (all before : List Section) (s : Section) :
    (s.normal p all before).flatMap Section.tops = match s with
      | .top l => (Section.top l).normalLines p all before
      | .block .. => [] := by
  cases s with
  | top l => exact flatMap_tops_map_top _
  | block tag l body closing =>
    rw [Section.normal]
    split <;> rfl

theorem any_isOpen_keptSections_iff :
    (keptSections p ss).any Section.isOpen ↔ LeftOpen ss := by
  rw [keptSections, List.any_flatMap, List.any_eq_true]
  constructor
  · rintro ⟨⟨s, i⟩, hs, h⟩
    cases s with
    | top l => simp [Section.normal, Section.isOpen] at h
    | block tag l body closing =>
      dsimp only [Section.normal] at h
      split at h
      · cases h
      · next htag =>
        cases closing with
        | none => exact ⟨tag, l, body, htag, List.fst_mem_of_mem_zipIdx hs⟩
        | some c => cases h
  · rintro ⟨tag, l, body, htag, hmem⟩
    obtain ⟨i, hi⟩ := List.getElem?_of_mem hmem
    exact ⟨_, List.mk_mem_zipIdx_iff_getElem?.2 hi, by simp [Section.normal, htag, Section.isOpen]⟩

/-- A line of the normal form outside the blocks comes from one of the profile outside the
blocks. -/
theorem becomes_of_mem_keptSections (h : k ∈ (keptSections p ss).flatMap Section.tops) :
    ∃ l, .top l ∈ ss ∧ Becomes p l k := by
  rw [keptSections, List.flatMap_assoc] at h
  obtain ⟨⟨s, i⟩, hs, hk⟩ := List.mem_flatMap.1 h
  dsimp only at hk
  rw [flatMap_tops_normal] at hk
  cases s with
  | top l => exact ⟨l, List.fst_mem_of_mem_zipIdx hs, becomes_of_mem hk⟩
  | block => cases hk

/-- The lines of the normal form outside every block. -/
theorem outside_normalize (p : Preferences) {profile : List Char}
    (h : Divides (lines profile) ss) : outside (lines (normalize p profile)) =
      (keptSections p ss).flatMap Section.tops ++
        if (keptSections p ss).any Section.isOpen then [] else additions p ss := by
  rw [outside_of_divides (divides_normalize p h), flatMap_tops_mapLines, normalSections,
    flatMap_tops_appendLines (divides_keptSections p h)]
  refine (List.map_congr_left fun k hk => ?_).trans (List.map_id _)
  obtain hk | hk := List.mem_append.1 hk
  · obtain ⟨l, -, hl⟩ := becomes_of_mem_keptSections hk
    exact hl.withoutReturn
  · split at hk
    · cases hk
    · exact withoutReturn_of_mem_additions hk

/-! ### Only the first -/

/-- Of the elements with a property only the first gives something. -/
theorem flatMap_zipIdx_first {α β : Type} (q : α → Bool) (x : β) (before xs : List α) :
    ((xs.zipIdx before.length).flatMap fun (a, i) =>
        if q a && !((before ++ xs).take i).any q then [x] else []) =
      if xs.any q && !before.any q then [x] else [] := by
  induction xs generalizing before with
  | nil => rfl
  | cons a xs ih =>
    have hrest := ih (before ++ [a])
    rw [List.append_assoc, List.singleton_append, List.length_append,
      List.length_singleton] at hrest
    rw [List.zipIdx_cons, List.flatMap_cons, hrest]
    dsimp only
    rw [List.take_left, List.any_cons, List.any_append, List.any_cons, List.any_nil]
    cases q a <;> cases before.any q <;> simp

theorem mem_tops_keptSections {i : Nat} (hs : (Section.top l, i) ∈ ss.zipIdx)
    (hk : k ∈ (Section.top l).normalLines p ss (ss.take i)) :
    k ∈ (keptSections p ss).flatMap Section.tops := by
  rw [keptSections, List.flatMap_assoc]
  refine List.mem_flatMap_of_mem hs ?_
  dsimp only
  rwa [flatMap_tops_normal]

/-- If only the first directive of a name is kept, in one form, there is one line of that name. -/
theorem filter_tops_keptSections {name x : Line} (hname : name ≠ certificateName)
    (hhead : name.head? ≠ some '<') (hx : word x = name)
    (h : ∀ l before, Kept p l → word l = name → (Section.top l).normalLines p ss before =
      if before.any (·.gives p name) then [] else [x]) :
    ((keptSections p ss).flatMap Section.tops).filter (word · = name) =
      if ss.any (·.gives p name) then [x] else [] := by
  have hsection (before : List Section) (s : Section) :
      ((s.normal p ss before).flatMap Section.tops).filter (word · = name) =
        if s.gives p name && !before.any (·.gives p name) then [x] else [] := by
    rw [flatMap_tops_normal]
    cases s with
    | block => rfl
    | top l =>
      dsimp only
      cases hg : (Section.top l).gives p name with
      | true =>
        obtain ⟨hl, hw⟩ := gives_top_iff.1 hg
        rw [h l before hl hw]
        cases before.any (·.gives p name) <;> simp [hx]
      | false =>
        rw [Bool.false_and, if_neg Bool.false_ne_true, List.filter_eq_nil_iff]
        intro k hk hw
        obtain rfl := of_decide_eq_true hw
        obtain hgives | ⟨hcertificate, -⟩ := (becomes_of_mem hk).gives hhead
        · exact absurd hgives (by simp [hg])
        · exact hname hcertificate
  rw [keptSections, List.flatMap_assoc, List.filter_flatMap]
  simp only [hsection]
  have hfirst := flatMap_zipIdx_first (·.gives p name) x [] ss
  rw [List.any_nil, Bool.not_false, Bool.and_true] at hfirst
  exact hfirst

/-- The first directive of a name that is kept. -/
theorem exists_first_of_any_gives {name : List Char} (h : ss.any (·.gives p name)) :
    ∃ l i, (Section.top l, i) ∈ ss.zipIdx ∧ Kept p l ∧ word l = name ∧
      (ss.take i).any (·.gives p name) = false := by
  have hlt : ss.findIdx (·.gives p name) < ss.length :=
    List.findIdx_lt_length.2 (List.any_eq_true.1 h)
  have hgives := List.findIdx_getElem (w := hlt)
  have hbefore : (ss.take (ss.findIdx (·.gives p name))).any (·.gives p name) = false := by
    rw [List.any_eq_false]
    intro s hs
    obtain ⟨j, hj, rfl⟩ := List.getElem_of_mem hs
    rw [List.length_take] at hj
    rw [List.getElem_take]
    exact Bool.eq_false_iff.1 (List.not_of_lt_findIdx (Nat.lt_of_lt_of_le hj (Nat.min_le_left _ _)))
  cases hs : ss[ss.findIdx (·.gives p name)] with
  | block =>
    rw [hs] at hgives
    cases hgives
  | top l =>
    rw [hs] at hgives
    obtain ⟨hl, hw⟩ := gives_top_iff.1 hgives
    refine ⟨l, _, List.mk_mem_zipIdx_iff_getElem?.2 ?_, hl, hw, hbefore⟩
    rw [List.getElem?_eq_getElem hlt, hs]

/-! ### One directive after the other -/

theorem normalLines_of_credentials (hl : Kept p l) (hw : word l = credentialsName)
    (all before : List Section) : (Section.top l).normalLines p all before =
      if before.any (·.gives p credentialsName) then [] else [credentialsName] := by
  rw [Section.normalLines, if_neg hl.1, if_neg hl.2, if_pos hw]

theorem normalLines_of_certificate (hl : Kept p l) (hw : word l = certificateName)
    (all before : List Section) : (Section.top l).normalLines p all before = [trim l] := by
  have hc : certificateName ≠ credentialsName := by decide
  rw [Section.normalLines, if_neg hl.1, if_neg hl.2, hw, if_neg hc, if_pos rfl]

theorem normalLines_of_digest (hl : Kept p l) (hw : word l = digestName)
    (all before : List Section) : (Section.top l).normalLines p all before =
      if all.any (·.gives p certificateName) || before.any (·.gives p digestName) then [trim l]
      else [certificateName, trim l] := by
  have hc : digestName ≠ credentialsName := by decide
  have hk : digestName ≠ certificateName := by decide
  rw [Section.normalLines, if_neg hl.1, if_neg hl.2, hw, if_neg hc, if_neg hk, if_pos rfl]

theorem normalLines_of_verbosity (hl : Kept p l) (hw : word l = verbosityName) {level : Nat}
    (hf : p.forcedVerb = some level) (all before : List Section) :
    (Section.top l).normalLines p all before =
      if before.any (·.gives p verbosityName) then [] else [verbosityLine level] := by
  have hc : verbosityName ≠ credentialsName := by decide
  have hk : verbosityName ≠ certificateName := by decide
  have hd : verbosityName ≠ digestName := by decide
  rw [Section.normalLines, if_neg hl.1, if_neg hl.2, hw, if_neg hc, if_neg hk, if_neg hd, hf]
  exact if_pos rfl

theorem normalLines_of_other (hl : Kept p l)
    (hw : word l ∉ [credentialsName, certificateName, digestName])
    (hv : p.forcedVerb.isSome → word l ≠ verbosityName) (all before : List Section) :
    (Section.top l).normalLines p all before = [trimEnd l] := by
  simp only [List.mem_cons, List.not_mem_nil, or_false, not_or] at hw
  rw [Section.normalLines, if_neg hl.1, if_neg hl.2, if_neg hw.1, if_neg hw.2.1, if_neg hw.2.2]
  cases hf : p.forcedVerb with
  | none => rfl
  | some level => exact if_neg (hv (by rw [hf]; rfl))

theorem filter_credentials_keptSections (p : Preferences) (ss : List Section) :
    ((keptSections p ss).flatMap Section.tops).filter (word · = credentialsName) =
      if ss.any (·.gives p credentialsName) then [credentialsName] else [] :=
  filter_tops_keptSections (by decide) (by decide) word_credentialsName
    fun _ before hl hw => normalLines_of_credentials hl hw ss before

theorem filter_verbosity_keptSections {level : Nat} (hf : p.forcedVerb = some level)
    (ss : List Section) :
    ((keptSections p ss).flatMap Section.tops).filter (word · = verbosityName) =
      if ss.any (·.gives p verbosityName) then [verbosityLine level] else [] :=
  filter_tops_keptSections (by decide) (by decide) (word_verbosityLine level)
    fun _ before hl hw => normalLines_of_verbosity hl hw hf ss before

theorem exists_certificate_keptSections_iff :
    (∃ k ∈ (keptSections p ss).flatMap Section.tops, word k = certificateName) ↔
      ss.any (·.gives p certificateName) ∨ ss.any (·.gives p digestName) := by
  constructor
  · rintro ⟨k, hk, hw⟩
    obtain ⟨l, hl, hbecomes⟩ := becomes_of_mem_keptSections hk
    have hgives := hbecomes.gives (by rw [hw]; decide)
    rw [hw] at hgives
    exact hgives.imp (fun h => List.any_eq_true.2 ⟨_, hl, h⟩)
      fun h => List.any_eq_true.2 ⟨_, hl, h.2⟩
  · intro h
    cases hc : ss.any (·.gives p certificateName) with
    | true =>
      obtain ⟨l, i, hs, hl, hw, -⟩ := exists_first_of_any_gives hc
      refine ⟨trim l, mem_tops_keptSections hs ?_, (Text.word_trim l).trans hw⟩
      rw [normalLines_of_certificate hl hw]
      exact List.mem_singleton_self _
    | false =>
      rw [hc, or_iff_right Bool.false_ne_true] at h
      obtain ⟨l, i, hs, hl, hw, hbefore⟩ := exists_first_of_any_gives h
      refine ⟨certificateName, mem_tops_keptSections hs ?_, word_certificateName⟩
      rw [normalLines_of_digest hl hw, hc, hbefore]
      exact List.mem_cons_self

/-! ### What is mandatory -/

/-- What is added is what the sections do not give. -/
theorem additions_eq_nil_iff : additions p ss = [] ↔
    ss.any (·.gives p credentialsName) ∧
      (ss.any (·.gives p certificateName) ∨ ss.any (·.gives p digestName)) ∧
        ∀ level, p.forcedVerb = some level → ss.any (·.gives p verbosityName) := by
  rw [additions]
  cases ss.any (·.gives p credentialsName) <;> cases ss.any (·.gives p certificateName) <;>
    cases ss.any (·.gives p digestName) <;> cases p.forcedVerb <;> simp

/-- What is kept holds what is mandatory if and only if nothing is added. -/
theorem mandated_keptSections_iff :
    Mandated p ((keptSections p ss).flatMap Section.tops) ↔ additions p ss = [] := by
  rw [additions_eq_nil_iff, ← exists_certificate_keptSections_iff]
  constructor
  · rintro ⟨hcredentials, hcertificate, hverbosity⟩
    refine ⟨?_, hcertificate, fun level hf => ?_⟩
    · rw [filter_credentials_keptSections] at hcredentials
      by_contra h
      rw [if_neg h] at hcredentials
      cases hcredentials
    · have hfilter := hverbosity level hf
      rw [filter_verbosity_keptSections hf] at hfilter
      by_contra h
      rw [if_neg h] at hfilter
      cases hfilter
  · rintro ⟨hcredentials, hcertificate, hverbosity⟩
    refine ⟨?_, hcertificate, fun level hf => ?_⟩
    · rw [filter_credentials_keptSections, if_pos hcredentials]
    · rw [filter_verbosity_keptSections hf, if_pos (hverbosity level hf)]

theorem filter_ite_singleton (name x : Line) (b : Bool) :
    (if b then [] else [x]).filter (word · = name) =
      if b then [] else if word x = name then [x] else [] := by
  cases b with
  | true => rfl
  | false => by_cases h : word x = name <;> simp [h]

theorem filter_credentials_additions (p : Preferences) (ss : List Section) :
    (additions p ss).filter (word · = credentialsName) =
      if ss.any (·.gives p credentialsName) then [] else [credentialsName] := by
  have hk : certificateName ≠ credentialsName := by decide
  have hv : verbosityName ≠ credentialsName := by decide
  rw [additions]
  cases p.forcedVerb <;>
    simp only [List.filter_append, filter_ite_singleton, word_credentialsName,
      word_certificateName, word_verbosityLine, hk, hv, if_true, if_false, ite_self,
      List.append_nil]

theorem filter_verbosity_additions {level : Nat} (hf : p.forcedVerb = some level)
    (ss : List Section) : (additions p ss).filter (word · = verbosityName) =
      if ss.any (·.gives p verbosityName) then [] else [verbosityLine level] := by
  have hc : credentialsName ≠ verbosityName := by decide
  have hk : certificateName ≠ verbosityName := by decide
  simp only [additions, hf, List.filter_append, filter_ite_singleton, word_credentialsName,
    word_certificateName, word_verbosityLine, hc, hk, if_true, if_false, ite_self,
    List.nil_append]

/-- What is kept and what is added make up what is mandatory. -/
theorem mandated_append_additions (p : Preferences) (ss : List Section) :
    Mandated p ((keptSections p ss).flatMap Section.tops ++ additions p ss) where
  credentials := by
    rw [List.filter_append, filter_credentials_keptSections, filter_credentials_additions]
    cases ss.any (·.gives p credentialsName) <;> rfl
  certificate := by
    by_cases h : ss.any (·.gives p certificateName) ∨ ss.any (·.gives p digestName)
    · obtain ⟨k, hk, hw⟩ := exists_certificate_keptSections_iff.2 h
      exact ⟨k, List.mem_append_left _ hk, hw⟩
    · refine ⟨certificateName, List.mem_append_right _ ?_, word_certificateName⟩
      rw [← Bool.or_eq_true] at h
      simp [additions, h]
  verbosity level hf := by
    rw [List.filter_append, filter_verbosity_keptSections hf, filter_verbosity_additions hf]
    cases ss.any (·.gives p verbosityName) <;> rfl

/-- The mandatory directives are found in the normal form if and only if no block is left open, or
nothing had to be added. -/
theorem mandated_normalize_iff (p : Preferences) {profile : List Char}
    (h : Divides (lines profile) ss) :
    Mandated p (outside (lines (normalize p profile))) ↔ ¬LeftOpen ss ∨ additions p ss = [] := by
  rw [outside_normalize p h, ← any_isOpen_keptSections_iff (p := p)]
  -- What is added is seen unless a block is open there.
  cases (keptSections p ss).any Section.isOpen with
  | true => simp [mandated_keptSections_iff]
  | false => simp [mandated_append_additions]

/-- A block of credentials may be left open, since it is dropped. -/
theorem mandated_normalize_iff_of_closed_block :
    Divides (lines "auth SHA1\n<ca>\nverb 9\n</ca>\n<auth-user-pass>\nalice".toList)
        [.top "auth SHA1".toList,
          .block "ca".toList "<ca>".toList ["verb 9".toList] (some "</ca>".toList),
          .block credentialsName "<auth-user-pass>".toList ["alice".toList] none] ∧
      Mandated {} (outside (lines (normalize {}
        "auth SHA1\n<ca>\nverb 9\n</ca>\n<auth-user-pass>\nalice".toList))) := by
  have h : Divides (lines "auth SHA1\n<ca>\nverb 9\n</ca>\n<auth-user-pass>\nalice".toList)
      [.top "auth SHA1".toList,
        .block "ca".toList "<ca>".toList ["verb 9".toList] (some "</ca>".toList),
        .block credentialsName "<auth-user-pass>".toList ["alice".toList] none] :=
    .top (by decide) (@Divides.closed _ _ _ ["verb 9".toList] _ _ (by decide) (by decide)
      (by decide) (.unclosed (by decide) (by decide)))
  refine ⟨h, (mandated_normalize_iff {} h).2 (.inl ?_)⟩
  rintro ⟨tag, l, body, htag, hmem⟩
  simp_all

/-- A block that is left open hides what is added. -/
theorem not_mandated_normalize_of_open_block :
    ¬Mandated {} (outside (lines (normalize {} "<ca>".toList))) := by
  intro h
  have hfilter := h.credentials
  revert hfilter
  decide +kernel

end TunnelRelay.Profile
