import Mathlib.Data.List.Basic
import TunnelRelay.Directive.Parser
import TunnelRelay.Proofs.Profile.Mandatory

/-!
# The normal form before the engine

An engine reads the normal form with a scanner of its own. The rules of the normal form go by what
stands before the first blank of a line; the scanner takes quotes out of words, and a quoted word
may have blanks. The two agree on the name of a directive whose first word has no quote.

## Main definitions

- `Profile.reading?` — the directive that the engine reads on a line
- `Profile.Misread` — the engine reads another name than the rules go by, and it matters
- `Profile.Obeyed` — the engine is asked for credentials once, and sees nothing unsupported

## Main statements

- `Profile.name_of_reading?` — a first word without quotes is the name that is read
- `Profile.obeyed_filterMap_iff` — what is read from lines that hold what is mandatory
- `Profile.obeyed_normalize_iff` — a profile without blocks is obeyed if and only if no line of it
  that is kept is misread
-/

namespace TunnelRelay.Profile

open Text (isBlank trim trimEnd word lines)

variable {p : Preferences} {k l : Line} {ks ls : List Line} {d : Directive}

/-- The directive that the engine reads on a line. -/
def reading? (l : Line) : Option Directive :=
  ((some (trim l)).filter fun t => !t.isEmpty && !Directive.isComment t).map Directive.ofText
    |>.filter (!·.isEmpty)

/-- On the line the engine reads a directive under another name than its first word, and this name
asks for credentials or is unsupported. -/
def Misread (p : Preferences) (l : Line) : Prop :=
  ∃ d, reading? l = some d ∧ d.name.toList ≠ word l ∧
    (d.name.toList = credentialsName ∨ d.name ∈ p.unsupported ∧ d.name.toList ∉ mandatoryNames)

/-- The engine is asked for credentials once and without arguments, and it sees no unsupported
directive but the mandatory ones. -/
structure Obeyed (p : Preferences) (ds : List Directive) : Prop where
  credentials : Directive.named "auth-user-pass" ds = [⟨["auth-user-pass"]⟩]
  supported : ∀ d ∈ ds, d.name ∈ p.unsupported → d.name.toList ∈ mandatoryNames

/-! ### The scanner -/

theorem ofLines_eq_filterMap (t : List Char) :
    Directive.ofLines t = (lines t).filterMap reading? := by
  rw [Directive.ofLines]
  induction lines t with
  | nil => rfl
  | cons l ls ih =>
    rw [List.filterMap_cons, reading?, ← ih, List.map_cons, List.filter_cons, Option.filter_some]
    split
    · rw [Option.map_some, Option.filter_some, List.map_cons, List.filter_cons]
      split <;> rfl
    · rfl

theorem reading?_congr (h : trim k = trim l) : reading? k = reading? l := by
  rw [reading?, reading?, h]

/-- Characters of a word that has begun belong to it. -/
theorem scanFrom_of_plain {w : List Char} (hquote : '"' ∉ w) (hblank : ∀ c ∈ w, isBlank c = false)
    (begun t : List Char) : Directive.scanFrom (some begun) false (w ++ t) =
      Directive.scanFrom (some (w.reverse ++ begun)) false t := by
  induction w generalizing begun with
  | nil => rfl
  | cons c w ih =>
    have hc : c ≠ '"' := fun h => hquote (h ▸ List.mem_cons_self)
    rw [List.forall_mem_cons] at hblank
    rw [List.cons_append, Directive.scanFrom, if_neg hc, if_neg (by simp [hblank.1]),
      ih (fun h => hquote (List.mem_cons_of_mem c h)) hblank.2]
    simp

/-- A word without quotes ends at the first blank. -/
theorem head?_scan {w t : List Char} (hne : w ≠ []) (hquote : '"' ∉ w)
    (hblank : ∀ c ∈ w, isBlank c = false) (ht : ∀ c ∈ t.head?, isBlank c) :
    (Directive.scan (w ++ t)).head? = some w := by
  cases w with
  | nil => exact absurd rfl hne
  | cons c w =>
    have hc : c ≠ '"' := fun h => hquote (h ▸ List.mem_cons_self)
    rw [List.forall_mem_cons] at hblank
    rw [Directive.scan, List.cons_append, Directive.scanFrom, if_neg hc,
      if_neg (by simp [hblank.1]), Option.getD_none,
      scanFrom_of_plain (fun h => hquote (List.mem_cons_of_mem c h)) hblank.2]
    cases t with
    | nil => simp
    | cons b t =>
      have hb : isBlank b := ht b rfl
      have hb' : b ≠ '"' := by
        rintro rfl
        exact absurd hb (by decide)
      rw [Directive.scanFrom, if_neg hb', if_pos (by simp [hb])]
      simp

theorem name_ofText (hne : trim l ≠ []) (hquote : '"' ∉ word l) :
    (Directive.ofText (trim l)).name.toList = word l := by
  have hsplit : trim l = word l ++ (trim l).dropWhile (!isBlank ·) := by
    rw [Text.word_eq_takeWhile_trim, List.takeWhile_append_dropWhile]
  have hwordne : word l ≠ [] := by
    intro hnil
    have hhead := Text.head?_word l
    rw [hnil] at hhead
    exact hne (List.head?_eq_none_iff.1 hhead.symm)
  have hblank : ∀ c ∈ word l, isBlank c = false := by
    intro c hc
    simpa using List.all_eq_true.1 List.all_takeWhile c hc
  have hrest : ∀ c ∈ ((trim l).dropWhile (!isBlank ·)).head?, isBlank c := by
    intro c hc
    have hhead := List.head?_dropWhile_not (!isBlank ·) (trim l)
    rw [Option.mem_def.1 hc] at hhead
    simpa using hhead
  have hscan := head?_scan hwordne hquote hblank hrest
  rw [← hsplit, List.head?_eq_some_iff] at hscan
  obtain ⟨ws, hws⟩ := hscan
  rw [Directive.name, Directive.ofText, hws]
  exact String.toList_ofList

/-- A first word without quotes is the name that the engine reads. -/
theorem name_of_reading? (h : reading? l = some d) (hquote : '"' ∉ word l) :
    d.name.toList = word l := by
  rw [reading?, Option.filter_eq_some_iff, Option.map_eq_some_iff] at h
  obtain ⟨⟨t, ht, rfl⟩, -⟩ := h
  obtain ⟨ht, hne⟩ := Option.filter_eq_some_iff.1 ht
  obtain rfl := Option.some.inj ht
  refine name_ofText (fun hnil => ?_) hquote
  rw [hnil] at hne
  cases hne

/-! ### Lines that are misread -/

theorem Misread.quote_mem (h : Misread p l) : '"' ∈ word l := by
  obtain ⟨d, hd, hname, -⟩ := h
  by_contra hquote
  exact hname (name_of_reading? hd hquote)

theorem not_misread_of_mandatory (h : word l ∈ mandatoryNames) : ¬Misread p l := by
  have hnames : ∀ w ∈ mandatoryNames, '"' ∉ w := by decide
  exact fun hl => hnames _ h hl.quote_mem

theorem misread_congr (h : trim k = trim l) : Misread p k ↔ Misread p l := by
  rw [Misread, Misread, reading?_congr h, word_of_trim_eq h]

/-- Only one element gives something if only one thing is given. -/
theorem eq_of_filterMap_eq_singleton {α β : Type} {f : α → Option β} {xs : List α} {y : β}
    (h : xs.filterMap f = [y]) {a b : α} (ha : a ∈ xs) (hb : b ∈ xs) (hfa : f a ≠ none)
    (hfb : f b ≠ none) : a = b := by
  obtain ⟨before, c, after, rfl, hbefore, -, hafter⟩ := List.filterMap_eq_cons_iff.1 h
  have honly {x : α} (hx : x ∈ before ++ c :: after) (hfx : f x ≠ none) : x = c := by
    obtain hx | hx := List.mem_append.1 hx
    · exact absurd (hbefore x hx) hfx
    · obtain rfl | hx := List.mem_cons.1 hx
      · rfl
      · exact absurd (List.filterMap_eq_nil_iff.1 hafter x hx) hfx
  rw [honly ha hfa, honly hb hfb]

/-- A line that is not misread asks for credentials if its first word does. -/
theorem filter_reading? (h : ¬Misread p l) :
    (reading? l).filter (·.name == "auth-user-pass") =
      if decide (word l = credentialsName) then reading? l else none := by
  cases hd : reading? l with
  | none => simp
  | some d =>
    have hasks : d.name == "auth-user-pass" ↔ d.name.toList = credentialsName :=
      beq_iff_eq.trans String.toList_inj.symm
    have hword : d.name.toList = credentialsName ↔ word l = credentialsName := by
      constructor
      · intro hname
        by_contra hw
        exact h ⟨d, hd, hname ▸ Ne.symm hw, .inl hname⟩
      · intro hw
        exact (name_of_reading? hd (by rw [hw]; decide)).trans hw
    rw [Option.filter_some]
    simp only [hasks, hword, decide_eq_true_eq]

/-- Lines that hold what is mandatory are obeyed if and only if none of them is misread. -/
theorem obeyed_filterMap_iff (hm : Mandated p ks)
    (hs : ∀ k ∈ ks, ∀ name ∈ p.unsupported, name.toList = word k → word k ∈ mandatoryNames) :
    Obeyed p (ks.filterMap reading?) ↔ ∀ k ∈ ks, ¬Misread p k := by
  constructor
  · rintro ⟨hcredentials, hsupported⟩ k hk ⟨d, hd, hname, hasks | ⟨hmem, hnot⟩⟩
    · -- The mandatory request is read as well, and only one can be.
      have hown : credentialsName ∈ ks.filter (word · = credentialsName) := by
        rw [hm.credentials]
        exact List.mem_singleton_self _
      rw [Directive.named, List.filter_filterMap] at hcredentials
      have hk' : k = credentialsName := by
        refine eq_of_filterMap_eq_singleton hcredentials hk (List.mem_filter.1 hown).1 ?_
          (by decide)
        have hsome : d.name == "auth-user-pass" := beq_iff_eq.2 (String.toList_inj.1 hasks)
        rw [hd, Option.filter_some, if_pos hsome]
        exact Option.some_ne_none d
      rw [hk', word_credentialsName] at hname
      exact hname hasks
    · exact hnot (hsupported d (List.mem_filterMap.2 ⟨k, hk, hd⟩) hmem)
  · intro h
    constructor
    · rw [Directive.named, List.filter_filterMap,
        List.filterMap_congr fun k hk => filter_reading? (h k hk), ← List.filterMap_filter,
        hm.credentials]
      decide
    · intro d hd hmem
      obtain ⟨k, hk, hd⟩ := List.mem_filterMap.1 hd
      by_contra hnot
      by_cases hname : d.name.toList = word k
      · exact hnot (hname ▸ hs k hk d.name hmem hname)
      · exact h k hk ⟨d, hd, hname, .inr ⟨hmem, hnot⟩⟩

/-! ### Profiles without blocks -/

theorem divides_map_top (h : ∀ l ∈ ls, (trim l).head? ≠ some '<') : Divides ls (ls.map .top) := by
  have htops := Divides.nil.tops fun l hl =>
    opensNothing_of_word (Text.head?_word l ▸ h l hl)
  rwa [List.append_nil, List.append_nil] at htops

/-- Without blocks all lines of a normal form are outside. -/
theorem normalLines_map_top (p : Preferences) (ls : List Line) :
    normalLines p (ls.map .top) = (keptSections p (ls.map .top)).flatMap Section.tops ++
      additions p (ls.map .top) := by
  rw [normalLines, keptSections, List.flatMap_assoc]
  congr 1
  refine List.flatMap_congr fun x hx => ?_
  obtain ⟨l, -, hl⟩ := List.mem_map.1 (List.fst_mem_of_mem_zipIdx hx)
  dsimp only
  rw [← hl, flatMap_tops_normal]

/-- The engine reads the lines of the normal form. -/
theorem ofLines_normalize (p : Preferences) {profile : List Char} {ss : List Section}
    (h : Divides (lines profile) ss) :
    Directive.ofLines (normalize p profile) = (normalLines p ss).filterMap reading? := by
  rw [ofLines_eq_filterMap, lines_normalize p h, List.filterMap_map]
  exact List.filterMap_congr fun k _ => reading?_congr (trim_withoutReturn k)

/-- A line of the normal form is mandatory, or it is a line that is kept. -/
theorem mandatory_or_exists_kept (htop : ∀ l ∈ ls, (trim l).head? ≠ some '<')
    (hk : k ∈ normalLines p (ls.map .top)) :
    word k ∈ mandatoryNames ∨ ∃ l ∈ ls, Kept p l ∧ trim k = trim l := by
  rw [normalLines_map_top, List.mem_append] at hk
  obtain hk | hk := hk
  · obtain ⟨l, hl, hbecomes⟩ := becomes_of_mem_keptSections hk
    obtain ⟨m, hmem, hm⟩ := List.mem_map.1 hl
    obtain rfl := Section.top.inj hm
    cases hbecomes with
    | tag ht => exact absurd ht (not_isSome_tag?_of_word (Text.head?_word m ▸ htop m hmem))
    | credentials | certificate => exact .inl (by decide)
    | verbosity =>
      left
      rw [word_verbosityLine]
      decide
    | trimmed hl => exact .inr ⟨m, hmem, hl, Text.trim_trim m⟩
    | other hl => exact .inr ⟨m, hmem, hl, Text.trim_trimEnd m⟩
  · exact .inl (word_of_mem_additions hk)

/-- A line that is kept is mandatory, or it is a line of the normal form. -/
theorem mandatory_or_exists_mem (hl : l ∈ ls) (hkept : Kept p l) :
    word l ∈ mandatoryNames ∨ ∃ k ∈ normalLines p (ls.map .top), trim k = trim l := by
  obtain ⟨i, hi⟩ := List.getElem?_of_mem (List.mem_map_of_mem (f := Section.top) hl)
  have hmem {k : Line} (hk : k ∈ (Section.top l).normalLines p (ls.map .top)
      ((ls.map Section.top).take i)) : k ∈ normalLines p (ls.map .top) := by
    rw [normalLines_map_top]
    exact List.mem_append_left _ (mem_tops_keptSections (List.mk_mem_zipIdx_iff_getElem?.2 hi) hk)
  by_cases hmandatory : word l ∈ mandatoryNames
  · exact .inl hmandatory
  right
  by_cases hd : word l = digestName
  · refine ⟨trim l, hmem ?_, Text.trim_trim l⟩
    rw [normalLines_of_digest hkept hd]
    split <;> simp
  · simp only [mandatoryNames, List.mem_cons, List.not_mem_nil, or_false, not_or] at hmandatory
    refine ⟨trimEnd l, hmem ?_, Text.trim_trimEnd l⟩
    rw [normalLines_of_other hkept (by simp [hmandatory, hd]) fun _ => hmandatory.2.2]
    exact List.mem_singleton_self _

/-- The normal form of a profile without blocks is obeyed if and only if no line of the profile that
is kept is misread. -/
theorem obeyed_normalize_iff (p : Preferences) {profile : List Char}
    (htop : ∀ l ∈ lines profile, (trim l).head? ≠ some '<') :
    Obeyed p (Directive.ofLines (normalize p profile)) ↔
      ∀ l ∈ lines profile, Kept p l → ¬Misread p l := by
  have hmandated := mandated_append_additions p ((lines profile).map .top)
  rw [← normalLines_map_top] at hmandated
  have hsupported : ∀ k ∈ normalLines p ((lines profile).map .top), ∀ name ∈ p.unsupported,
      name.toList = word k → word k ∈ mandatoryNames := by
    intro k hk name hname hword
    obtain h | ⟨l, -, hkept, ht⟩ := mandatory_or_exists_kept htop hk
    · exact h
    · rw [word_of_trim_eq ht] at hword
      exact absurd (List.any_eq_true.2 ⟨name, hname, decide_eq_true hword⟩) hkept.2
  rw [ofLines_normalize p (divides_map_top htop), obeyed_filterMap_iff hmandated hsupported]
  -- Up to blanks at their ends, the kept lines and those of the normal form are the same; the
  -- mandatory ones are never misread.
  constructor
  · intro h l hl hkept
    obtain hword | ⟨k, hk, ht⟩ := mandatory_or_exists_mem hl hkept
    · exact not_misread_of_mandatory hword
    · rw [← misread_congr ht]
      exact h k hk
  · intro h k hk
    obtain hword | ⟨l, hl, hkept, ht⟩ := mandatory_or_exists_kept htop hk
    · exact not_misread_of_mandatory hword
    · rw [misread_congr ht]
      exact h l hl hkept

/-- Quotes behind the first word, comments and white space of any kind do no harm. -/
theorem obeyed_normalize_iff_of_quoted_arguments :
    (∀ l ∈ lines "\u00a0auth-user-pass \"/a b\"\n# \"verb\"\nverb\t3 \"\"".toList,
        (trim l).head? ≠ some '<') ∧
      Obeyed {} (Directive.ofLines (normalize {}
        "\u00a0auth-user-pass \"/a b\"\n# \"verb\"\nverb\t3 \"\"".toList)) := by
  have htop : ∀ l ∈ lines "\u00a0auth-user-pass \"/a b\"\n# \"verb\"\nverb\t3 \"\"".toList,
      (trim l).head? ≠ some '<' := by decide +kernel
  have hquote : ∀ l ∈ lines "\u00a0auth-user-pass \"/a b\"\n# \"verb\"\nverb\t3 \"\"".toList,
      '"' ∉ word l := by decide +kernel
  exact ⟨htop, (obeyed_normalize_iff {} htop).2 fun l hl _ h => hquote l hl h.quote_mem⟩

/-- A request for credentials in quotes hands its file over to the engine. -/
theorem not_obeyed_normalize_of_quoted_name :
    ¬Obeyed {} (Directive.ofLines (normalize {} "\"auth-user-pass\" /creds.txt".toList)) := by
  intro h
  have hnamed := h.credentials
  revert hnamed
  decide +kernel

end TunnelRelay.Profile
