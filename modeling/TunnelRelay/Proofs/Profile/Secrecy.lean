import Mathlib.Data.List.Forall2
import TunnelRelay.Profile.Redaction
import TunnelRelay.Proofs.Profile.Mandatory

/-!
# Secrecy of what is shown

What is shown of a normal form does not depend on the secrets in the profile. Two readers take part
who have different ideas of a block: one knows every tag, the other only the secret ones. They agree
on the sections as long as no body line that is shown looks like the beginning of a secret.

## Main definitions

- `Profile.OpensNoSecret` — the line does not look like the beginning of a secret block
- `Profile.Section.shown` — what is shown of a section
- `Profile.Section.SameShown`, `Profile.Section.Alike` — sections that differ in secrets only

## Main statements

- `Profile.redactLines_of_divides` — what is shown of a profile, section by section
- `Profile.forall₂_normalSections` — normal forms of profiles that differ in secrets differ in
  secrets
- `Profile.redact_normalize_congr` — what is shown of them is the same
-/

namespace TunnelRelay.Profile

open Text (trim trimEnd word afterWord lines joinLines withoutReturn)

variable {p : Preferences} {k l : Line} {ks ls : List Line} {s t : Section} {ss ts : List Section}

/-- The line does not look like the beginning of a secret block. -/
def OpensNoSecret (l : Line) : Prop := ∀ tag, isSecretBlock tag → trim l ≠ openingLine tag

/-- What is shown of a section. -/
def Section.shown : Section → List Line
  | .top l => [redactLine l]
  | .block tag l body closing =>
    if isSecretBlock tag then trim l :: mask :: closing.toList.map trim
    else (l :: (body ++ closing.toList)).map redactLine

/-- A body that is shown has no line that looks like the beginning of a secret block. -/
def Section.NoLookalike : Section → Prop
  | .top _ => True
  | .block tag _ body _ => isSecretBlock tag = false → ∀ l ∈ body, OpensNoSecret l

/-! ### What is shown, section by section -/

theorem opensSecret_iff {tag : List Char} :
    (tag? (trim l)).filter isSecretBlock = some tag ↔
      trim l = openingLine tag ∧ isSecretBlock tag := by
  rw [Option.filter_eq_some_iff, tag?_eq_some_iff]

theorem opensNoSecret_iff : (tag? (trim l)).filter isSecretBlock = none ↔ OpensNoSecret l := by
  rw [Option.eq_none_iff_forall_ne_some]
  constructor
  · intro h tag hsecret ht
    exact h tag (opensSecret_iff.2 ⟨ht, hsecret⟩)
  · intro h tag htag
    obtain ⟨ht, hsecret⟩ := opensSecret_iff.1 htag
    exact h tag hsecret ht

instance (l : Line) : Decidable (OpensNoSecret l) := decidable_of_iff _ opensNoSecret_iff

instance : DecidablePred Section.NoLookalike
  | .top _ => isTrue trivial
  | .block tag _ body _ =>
    inferInstanceAs (Decidable (isSecretBlock tag = false → ∀ l ∈ body, OpensNoSecret l))

/-- What is true of every name in a list is true of a word that is one of them. -/
theorem of_any_toList {names : List String} {q : List Char → Prop}
    (hq : ∀ name ∈ names, q name.toList) {w : List Char} (h : names.any (·.toList = w)) : q w := by
  obtain ⟨name, hmem, hname⟩ := List.any_eq_true.1 h
  rw [← of_decide_eq_true hname]
  exact hq name hmem

theorem head?_of_isSecretBlock {tag : List Char} (h : isSecretBlock tag) :
    tag.head? ≠ some '/' := of_any_toList (q := (·.head? ≠ some '/')) (by decide) h

theorem OpensNothing.opensNoSecret (h : OpensNothing l) : OpensNoSecret l :=
  fun tag hsecret ht => head?_of_isSecretBlock hsecret (h tag ht)

theorem opensNoSecret_of_opens {tag : List Char} (h : Opens tag l)
    (hsecret : isSecretBlock tag = false) : OpensNoSecret l := by
  intro other hother ht
  rw [openingLine_injective (h.1.symm.trans ht), hother] at hsecret
  cases hsecret

theorem opensNoSecret_of_closing {tag : List Char} (h : trim l = closingLine tag) :
    OpensNoSecret l := by
  intro other hother ht
  have htag : openingLine ('/' :: tag) = openingLine other := h.symm.trans ht
  rw [← openingLine_injective htag] at hother
  exact head?_of_isSecretBlock hother rfl

theorem OpensNoSecret.of_trim_eq (h : OpensNoSecret l) (ht : trim k = trim l) :
    OpensNoSecret k := by
  intro tag hsecret hk
  exact h tag hsecret (ht.symm.trans hk)

theorem opensNoSecret_of_word (h : (word l).head? ≠ some '<') : OpensNoSecret l :=
  (opensNothing_of_word h).opensNoSecret

theorem opensNoSecret_of_mem_lines {tag : List Char} {body : List Line} {closing : Option Line}
    (ho : Opens tag l) (hsecret : isSecretBlock tag = false)
    (hlook : (Section.block tag l body closing).NoLookalike)
    (hclosing : ∀ c ∈ closing, trim c = closingLine tag) :
    ∀ k ∈ (Section.block tag l body closing).lines, OpensNoSecret k := by
  intro k hk
  obtain rfl | hk := List.mem_cons.1 hk
  · exact opensNoSecret_of_opens ho hsecret
  · obtain hk | hk := List.mem_append.1 hk
    · exact hlook hsecret k hk
    · exact opensNoSecret_of_closing (hclosing k (Option.mem_toList.1 hk))

/-- Lines outside the secret blocks are shown one by one. -/
theorem redactLines_append (hk : ∀ k ∈ ks, OpensNoSecret k) (ls : List Line) :
    redactLines (ks ++ ls) = ks.map redactLine ++ redactLines ls := by
  induction ks with
  | nil => rfl
  | cons k ks ih =>
    have hrest := ih fun m hm => hk m (List.mem_cons_of_mem k hm)
    rw [redactLines, outline] at hrest ⊢
    rw [List.cons_append, outlineFrom, opensNoSecret_iff.2 (hk k List.mem_cons_self)]
    dsimp only
    rw [List.flatMap_cons, hrest]
    rfl

theorem flatMap_redactPart_body (tag : List Char) (ls : List Line) :
    (ls.map (Part.body tag, ·)).flatMap redactPart = [] := by
  rw [List.flatMap_map]
  exact List.flatMap_eq_nil_iff.2 fun _ _ => rfl

/-- The body of a secret block is hidden. -/
theorem redactLines_closed {tag : List Char} {c : Line} {body : List Line}
    (hsecret : isSecretBlock tag) (ho : trim l = openingLine tag) (hbody : Unclosed tag body)
    (hc : trim c = closingLine tag) (ls : List Line) :
    redactLines (l :: (body ++ c :: ls)) = trim l :: mask :: trim c :: redactLines ls := by
  rw [redactLines, outline, outlineFrom, opensSecret_iff.2 ⟨ho, hsecret⟩]
  dsimp only
  rw [outlineFrom_of_unclosed isSecretBlock hbody, outlineFrom, if_pos hc, List.flatMap_cons,
    List.flatMap_append, flatMap_redactPart_body, List.flatMap_cons]
  rfl

theorem redactLines_unclosed {tag : List Char} {body : List Line} (hsecret : isSecretBlock tag)
    (ho : trim l = openingLine tag) (hbody : Unclosed tag body) :
    redactLines (l :: body) = [trim l, mask] := by
  have hrest := outlineFrom_of_unclosed isSecretBlock hbody []
  rw [List.append_nil] at hrest
  rw [redactLines, outline, outlineFrom, opensSecret_iff.2 ⟨ho, hsecret⟩]
  dsimp only
  rw [hrest, List.flatMap_cons, List.flatMap_append, flatMap_redactPart_body]
  rfl

/-- What is shown of a profile, section by section. -/
theorem redactLines_of_divides (h : Divides ls ss) (hs : ∀ s ∈ ss, s.NoLookalike) :
    redactLines ls = ss.flatMap Section.shown := by
  induction h with
  | nil => rfl
  | @top l ls ss hl _ ih =>
    have hrest := ih fun s hmem => hs s (List.mem_cons_of_mem _ hmem)
    have htop := redactLines_append (List.forall_mem_singleton.2 hl.opensNoSecret) ls
    rw [List.singleton_append] at htop
    rw [htop, hrest]
    rfl
  | @closed tag l c body ls ss ho hbody hc _ ih =>
    have hrest := ih fun s hmem => hs s (List.mem_cons_of_mem _ hmem)
    have hlook := hs _ List.mem_cons_self
    rw [List.flatMap_cons, ← hrest, Section.shown]
    -- The lines of a block are a block for the reader of secrets too, or else single lines.
    split
    · next hsecret => exact redactLines_closed hsecret ho.1 hbody hc ls
    · next hsecret =>
      have hshown := opensNoSecret_of_mem_lines ho (Bool.eq_false_iff.2 hsecret) hlook
        fun _ h => Option.mem_some.1 h ▸ hc
      have hblock := redactLines_append hshown ls
      rw [Section.lines, Option.toList_some, List.cons_append, List.append_assoc,
        List.singleton_append] at hblock
      exact hblock
  | @unclosed tag l body ho hbody =>
    have hlook := hs _ List.mem_cons_self
    rw [List.flatMap_singleton, Section.shown]
    split
    · next hsecret => exact redactLines_unclosed hsecret ho.1 hbody
    · next hsecret =>
      have hshown := opensNoSecret_of_mem_lines ho (Bool.eq_false_iff.2 hsecret) hlook
        fun _ h => absurd h (Option.not_mem_none _)
      have hblock := redactLines_append hshown []
      rw [List.append_nil, Section.lines, Option.toList_none, List.append_nil] at hblock
      rw [hblock, Option.toList_none, List.append_nil]
      exact List.append_nil _

/-! ### Profiles that differ in secrets only -/

/-- The sections are shown in the same way: they differ in the body of a secret block, or in secret
arguments. -/
inductive Section.SameShown : Section → Section → Prop
  | refl (s : Section) : SameShown s s
  | body {tag : List Char} {l : Line} {body body' : List Line} {closing : Option Line} :
      isSecretBlock tag → SameShown (.block tag l body closing) (.block tag l body' closing)
  | arguments {l l' : Line} : isSecretDirective (word l) → word l' = word l → afterWord l ≠ [] →
      afterWord l' ≠ [] → SameShown (.top l) (.top l')

/-- The sections differ in secrets only: they are shown in the same way, or both ask for
credentials. -/
inductive Section.Alike : Section → Section → Prop
  | shown {s t : Section} : SameShown s t → Alike s t
  | credentials {l l' : Line} : word l = credentialsName → word l' = credentialsName →
      Alike (.top l) (.top l')

theorem Section.SameShown.shown_eq (h : s.SameShown t) : s.shown = t.shown := by
  cases h with
  | refl => rfl
  | body hsecret => rw [Section.shown, Section.shown, if_pos hsecret, if_pos hsecret]
  | arguments hsecret hw hl hl' => simp [Section.shown, redactLine, hw, hsecret, hl, hl']

theorem Section.SameShown.noLookalike (h : s.SameShown t) (hs : s.NoLookalike) :
    t.NoLookalike := by
  cases h with
  | refl => exact hs
  | body hsecret => exact fun hopen => absurd hsecret (Bool.eq_false_iff.1 hopen)
  | arguments => trivial

theorem head?_of_isSecretDirective {name : List Char} (h : isSecretDirective name) :
    name.head? ≠ some '<' := of_any_toList (q := (·.head? ≠ some '<')) (by decide) h

theorem not_mem_of_isSecretDirective {name : List Char} (h : isSecretDirective name) :
    name ∉ [credentialsName, certificateName, digestName] ∧ name ≠ verbosityName :=
  of_any_toList (q := fun w => w ∉ [credentialsName, certificateName, digestName] ∧
    w ≠ verbosityName) (by decide) h

theorem kept_congr (h : (word l).head? ≠ some '<') (hk : word k = word l) :
    Kept p k ↔ Kept p l := by
  rw [kept_iff_of_word h, kept_iff_of_word (hk ▸ h), hk]

theorem Section.Alike.gives_eq (h : s.Alike t) (p : Preferences) (name : List Char) :
    s.gives p name = t.gives p name := by
  have htop {l l' : Line} (hhead : (word l).head? ≠ some '<') (hw : word l' = word l) :
      (Section.top l).gives p name = (Section.top l').gives p name := by
    rw [Bool.eq_iff_iff, gives_top_iff, gives_top_iff, kept_congr hhead hw, hw]
  cases h with
  | shown h =>
    cases h with
    | refl => rfl
    | body => rfl
    | arguments hsecret hw => exact htop (head?_of_isSecretDirective hsecret) hw
  | credentials hl hl' => exact htop (by rw [hl]; decide) (hl'.trans hl.symm)

/-- Profiles that differ in secrets only give the same directives. -/
theorem any_gives_congr (h : List.Forall₂ Section.Alike ss ts) (p : Preferences)
    (name : List Char) : ss.any (·.gives p name) = ts.any (·.gives p name) := by
  induction h with
  | nil => rfl
  | cons hst _ ih => rw [List.any_cons, List.any_cons, hst.gives_eq, ih]

theorem additions_congr (h : List.Forall₂ Section.Alike ss ts) :
    additions p ss = additions p ts := by
  simp only [additions, any_gives_congr h]

/-! ### What becomes of them -/

theorem forall₂_same (ss : List Section) : List.Forall₂ Section.SameShown ss ss :=
  List.forall₂_same.2 fun s _ => .refl s

theorem normal_of_not_kept (hhead : (word l).head? ≠ some '<') (h : ¬Kept p l)
    (all before : List Section) : (Section.top l).normal p all before = [] := by
  rw [kept_iff_of_word hhead, not_not] at h
  rw [Section.normal, Section.normalLines, if_neg (not_isSome_tag?_of_word hhead), if_pos h]
  rfl

/-- What becomes of a section depends only on the directives that the others give. -/
theorem normal_congr {all all' before before' : List Section}
    (hall : List.Forall₂ Section.Alike all all')
    (hbefore : List.Forall₂ Section.Alike before before')
    (s : Section) : s.normal p all before = s.normal p all' before' := by
  cases s with
  | top l =>
    simp only [Section.normal, Section.normalLines, any_gives_congr hall, any_gives_congr hbefore]
  | block => rfl

theorem afterWord_trimEnd_ne_nil (h : afterWord l ≠ []) : afterWord (trimEnd l) ≠ [] := by
  intro hl
  obtain ⟨bs, hbs, hblank⟩ := Text.exists_eq_trimEnd_append l
  rw [hbs] at h
  exact h (Text.afterWord_append_of_blank hblank hl)

theorem afterWord_withoutReturn_ne_nil (h : afterWord l ≠ []) :
    afterWord (withoutReturn l) ≠ [] := by
  intro hl
  obtain ⟨bs, hbs, hblank⟩ := exists_blank_withoutReturn l
  rw [hbs] at h
  exact h (Text.afterWord_append_of_blank hblank hl)

/-- A directive with secret arguments stays the directive that it is. -/
theorem normal_of_secret (hsecret : isSecretDirective (word l)) (hkept : Kept p l)
    (all before : List Section) : (Section.top l).normal p all before = [.top (trimEnd l)] := by
  obtain ⟨hother, hverbosity⟩ := not_mem_of_isSecretDirective hsecret
  rw [Section.normal, normalLines_of_other hkept hother fun _ => hverbosity]
  rfl

theorem forall₂_normal_of_secret {l' : Line} (hsecret : isSecretDirective (word l))
    (hw : word l' = word l) (hl : afterWord l ≠ []) (hl' : afterWord l' ≠ [])
    (all all' before before' : List Section) : List.Forall₂ Section.SameShown
      ((Section.top l).normal p all before) ((Section.top l').normal p all' before') := by
  have hhead := head?_of_isSecretDirective hsecret
  by_cases hkept : Kept p l
  · rw [normal_of_secret hsecret hkept,
      normal_of_secret (hw ▸ hsecret) ((kept_congr hhead hw).2 hkept)]
    refine .cons (.arguments ?_ ?_ (afterWord_trimEnd_ne_nil hl)
      (afterWord_trimEnd_ne_nil hl')) .nil
    · rwa [Text.word_trimEnd]
    · rw [Text.word_trimEnd, Text.word_trimEnd, hw]
  · rw [normal_of_not_kept hhead hkept, normal_of_not_kept (hw ▸ hhead)
      (mt (kept_congr hhead hw).1 hkept)]
    exact .nil

/-- Requests for credentials lose their arguments. -/
theorem normal_congr_of_credentials {l' : Line} (hl : word l = credentialsName)
    (hl' : word l' = credentialsName) (all before : List Section) :
    (Section.top l).normal p all before = (Section.top l').normal p all before := by
  have hhead : (word l).head? ≠ some '<' := by rw [hl]; decide
  have hw : word l' = word l := hl'.trans hl.symm
  by_cases hkept : Kept p l
  · rw [Section.normal, Section.normal, normalLines_of_credentials hkept hl,
      normalLines_of_credentials ((kept_congr hhead hw).2 hkept) hl']
  · rw [normal_of_not_kept hhead hkept, normal_of_not_kept (hw ▸ hhead)
      (mt (kept_congr hhead hw).1 hkept)]

/-- What becomes of sections that differ in secrets only is shown in the same way. -/
theorem Section.Alike.forall₂_normal {all all' before before' : List Section}
    (hall : List.Forall₂ Section.Alike all all')
    (hbefore : List.Forall₂ Section.Alike before before')
    (h : s.Alike t) : List.Forall₂ Section.SameShown (s.normal p all before)
      (t.normal p all' before') := by
  cases h with
  | shown h =>
    cases h with
    | refl =>
      rw [normal_congr hall hbefore]
      exact forall₂_same _
    | body hsecret =>
      rw [Section.normal, Section.normal]
      split
      · exact .nil
      · exact .cons (.body hsecret) .nil
    | arguments hsecret hw hl hl' => exact forall₂_normal_of_secret hsecret hw hl hl' _ _ _ _
  | credentials hl hl' =>
    rw [normal_congr hall hbefore, normal_congr_of_credentials hl hl']
    exact forall₂_same _

theorem forall₂_flatMap_normal {all all' : List Section}
    (hall : List.Forall₂ Section.Alike all all') (h : List.Forall₂ Section.Alike ss ts) (n : Nat) :
    List.Forall₂ Section.SameShown
      ((ss.zipIdx n).flatMap fun (s, i) => s.normal p all (all.take i))
      ((ts.zipIdx n).flatMap fun (s, i) => s.normal p all' (all'.take i)) := by
  induction h generalizing n with
  | nil => exact .nil
  | cons hst _ ih =>
    rw [List.zipIdx_cons, List.zipIdx_cons, List.flatMap_cons, List.flatMap_cons]
    exact List.rel_append (hst.forall₂_normal hall (List.forall₂_take n hall)) (ih (n + 1))

theorem forall₂_keptSections (h : List.Forall₂ Section.Alike ss ts) :
    List.Forall₂ Section.SameShown (keptSections p ss) (keptSections p ts) :=
  forall₂_flatMap_normal h h 0

theorem appendLines_cons_cons (ls : List Line) (s t : Section) (ss : List Section) :
    appendLines ls (s :: t :: ss) = s :: appendLines ls (t :: ss) := by
  rw [appendLines]
  intro tag l body _ h
  cases h

theorem forall₂_appendLines (h : List.Forall₂ Section.SameShown ss ts) (ls : List Line) :
    List.Forall₂ Section.SameShown (appendLines ls ss) (appendLines ls ts) := by
  -- Only the last section can take the lines in, and what a secret body takes in is hidden.
  induction h with
  | nil => exact forall₂_same _
  | cons hst hrest ih =>
    cases hrest with
    | nil =>
      cases hst with
      | refl => exact forall₂_same _
      | @body tag l body body' closing hsecret =>
        cases closing with
        | none => exact .cons (.body hsecret) .nil
        | some c => exact .cons (.body hsecret) (forall₂_same _)
      | arguments hsecret hw hl hl' => exact .cons (.arguments hsecret hw hl hl') (forall₂_same _)
    | cons =>
      rw [appendLines_cons_cons, appendLines_cons_cons]
      exact .cons hst ih

/-- Normal forms of profiles that differ in secrets only are shown in the same way. -/
theorem forall₂_normalSections (h : List.Forall₂ Section.Alike ss ts) :
    List.Forall₂ Section.SameShown (normalSections p ss) (normalSections p ts) := by
  rw [normalSections, normalSections, additions_congr h]
  exact forall₂_appendLines (forall₂_keptSections h) _

theorem Section.SameShown.mapLines_withoutReturn (h : s.SameShown t) :
    (s.mapLines withoutReturn).SameShown (t.mapLines withoutReturn) := by
  cases h with
  | refl => exact .refl _
  | body hsecret => exact .body hsecret
  | arguments hsecret hw hl hl' =>
    refine .arguments ?_ ?_ (afterWord_withoutReturn_ne_nil hl) (afterWord_withoutReturn_ne_nil hl')
    · rwa [word_withoutReturn]
    · rw [word_withoutReturn, word_withoutReturn, hw]

/-! ### Body lines that look like the beginning of a secret -/

theorem noLookalike_appendLines (hs : ∀ s ∈ ss, s.NoLookalike)
    (hl : ∀ l ∈ ls, (word l).head? ≠ some '<') : ∀ s ∈ appendLines ls ss, s.NoLookalike := by
  fun_induction appendLines ls ss with
  | case1 =>
    intro s hmem
    obtain ⟨l, -, rfl⟩ := List.mem_map.1 hmem
    trivial
  | case2 tag l body =>
    rw [List.forall_mem_singleton] at hs ⊢
    intro hopen k hk
    exact (List.mem_append.1 hk).elim (hs hopen k) fun hk => opensNoSecret_of_word (hl k hk)
  | case3 s ss _ ih =>
    rw [List.forall_mem_cons] at hs ⊢
    exact ⟨hs.1, ih hs.2⟩

theorem noLookalike_normalSections (hs : ∀ s ∈ ss, s.NoLookalike) :
    ∀ s ∈ normalSections p ss, s.NoLookalike := by
  refine noLookalike_appendLines (fun s hmem => ?_) fun l hl => head?_word_of_mem_additions hl
  obtain ⟨⟨t, i⟩, ht, hmem⟩ := List.mem_flatMap.1 hmem
  have hlook := hs t (List.fst_mem_of_mem_zipIdx ht)
  cases t with
  | top l =>
    obtain ⟨k, -, rfl⟩ := List.mem_map.1 hmem
    trivial
  | block tag l body closing =>
    dsimp only [Section.normal] at hmem
    split at hmem
    · cases hmem
    · rw [List.mem_singleton.1 hmem]
      exact hlook

theorem Section.NoLookalike.mapLines_withoutReturn (h : s.NoLookalike) :
    (s.mapLines withoutReturn).NoLookalike := by
  cases s with
  | top => trivial
  | block tag l body closing =>
    intro hopen k hk
    obtain ⟨m, hm, rfl⟩ := List.mem_map.1 hk
    exact (h hopen m hm).of_trim_eq (trim_withoutReturn m)

/-! ### What is shown of a normal form -/

/-- What is shown of the normal form of a profile, section by section. -/
theorem redact_normalize (p : Preferences) {profile : List Char}
    (h : Divides (lines profile) ss) (hs : ∀ s ∈ ss, s.NoLookalike) :
    redact (normalize p profile) =
      joinLines (((normalSections p ss).map (Section.mapLines withoutReturn)).flatMap
        Section.shown) := by
  rw [redact, redactLines_of_divides (divides_normalize p h)]
  intro t ht
  obtain ⟨s, hmem, rfl⟩ := List.mem_map.1 ht
  exact (noLookalike_normalSections hs s hmem).mapLines_withoutReturn

theorem Section.Alike.noLookalike (h : s.Alike t) (hs : s.NoLookalike) : t.NoLookalike := by
  cases h with
  | shown h => exact h.noLookalike hs
  | credentials => trivial

theorem forall_noLookalike (h : List.Forall₂ Section.Alike ss ts) (hs : ∀ s ∈ ss, s.NoLookalike) :
    ∀ t ∈ ts, t.NoLookalike := by
  induction h with
  | nil => exact nofun
  | cons hst _ ih =>
    rw [List.forall_mem_cons] at hs ⊢
    exact ⟨hst.noLookalike hs.1, ih hs.2⟩

theorem flatMap_shown_congr (h : List.Forall₂ Section.SameShown ss ts) :
    (ss.map (Section.mapLines withoutReturn)).flatMap Section.shown =
      (ts.map (Section.mapLines withoutReturn)).flatMap Section.shown := by
  induction h with
  | nil => rfl
  | cons hst _ ih =>
    rw [List.map_cons, List.map_cons, List.flatMap_cons, List.flatMap_cons, ih,
      hst.mapLines_withoutReturn.shown_eq]

/-- What is shown of the normal forms of profiles that differ in secrets only is the same text. -/
theorem redact_normalize_congr (p : Preferences) {profile profile' : List Char}
    (hs : Divides (lines profile) ss) (ht : Divides (lines profile') ts)
    (h : List.Forall₂ Section.Alike ss ts) (hlook : ∀ s ∈ ss, s.NoLookalike) :
    redact (normalize p profile) = redact (normalize p profile') := by
  rw [redact_normalize p hs hlook, redact_normalize p ht (forall_noLookalike h hlook),
    flatMap_shown_congr (forall₂_normalSections h)]

/-- Neither the credentials, nor the token, nor how long the key is can be told. -/
theorem redact_normalize_congr_of_secrets :
    redact (normalize {} "auth-user-pass /a\n<key>\nk1\n</key>\nauth-token t1\n<ca>\nc".toList) =
      redact (normalize {}
        "auth-user-pass\n<key>\nk2\nk3\n</key>\nauth-token t2 t3\n<ca>\nc".toList) := by
  have hs : Divides
      (lines "auth-user-pass /a\n<key>\nk1\n</key>\nauth-token t1\n<ca>\nc".toList)
      [.top "auth-user-pass /a".toList,
        .block "key".toList "<key>".toList ["k1".toList] (some "</key>".toList),
        .top "auth-token t1".toList,
        .block "ca".toList "<ca>".toList ["c".toList] none] :=
    .top (by decide) (@Divides.closed _ _ _ ["k1".toList] _ _ (by decide) (by decide)
      (by decide) (.top (by decide) (.unclosed (by decide) (by decide))))
  have ht : Divides
      (lines "auth-user-pass\n<key>\nk2\nk3\n</key>\nauth-token t2 t3\n<ca>\nc".toList)
      [.top "auth-user-pass".toList,
        .block "key".toList "<key>".toList ["k2".toList, "k3".toList] (some "</key>".toList),
        .top "auth-token t2 t3".toList,
        .block "ca".toList "<ca>".toList ["c".toList] none] :=
    .top (by decide) (@Divides.closed _ _ _ ["k2".toList, "k3".toList] _ _ (by decide)
      (by decide) (by decide) (.top (by decide) (.unclosed (by decide) (by decide))))
  have h : List.Forall₂ Section.Alike
      [.top "auth-user-pass /a".toList,
        .block "key".toList "<key>".toList ["k1".toList] (some "</key>".toList),
        .top "auth-token t1".toList,
        .block "ca".toList "<ca>".toList ["c".toList] none]
      [.top "auth-user-pass".toList,
        .block "key".toList "<key>".toList ["k2".toList, "k3".toList] (some "</key>".toList),
        .top "auth-token t2 t3".toList,
        .block "ca".toList "<ca>".toList ["c".toList] none] :=
    .cons (.credentials (by decide) (by decide)) <| .cons (.shown (.body (by decide))) <|
      .cons (.shown (.arguments (by decide) (by decide) (by decide) (by decide))) <|
        .cons (.shown (.refl _)) .nil
  exact redact_normalize_congr {} hs ht h (by decide)

end TunnelRelay.Profile
