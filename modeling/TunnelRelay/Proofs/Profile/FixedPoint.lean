import Mathlib.Data.List.Basic
import TunnelRelay.Proofs.Profile.Mandatory

/-!
# Normal forms are fixed points

What is in normal form stays as it is. A section is settled when nothing but itself can become of
it. Settled sections among which stands what is mandatory are the sections of a normal form.

## Main definitions

- `Profile.Section.Settled` — nothing but itself becomes of the section

## Main statements

- `Profile.Becomes.settled` — what becomes of a line is settled
- `Profile.settled_normalSections` — the sections of a normal form are settled
- `Profile.normalLines_of_settled` — settled sections that hold what is mandatory are kept as they
  are
- `Profile.normalize_normalize` — the normal form of a normal form is the same

## Design notes

What becomes of a section depends on its place: a second request for credentials is dropped, a
first digest gets the certificate rule. Among lines that hold what is mandatory there is no second
request, and the certificate rule is there.
-/

namespace TunnelRelay.Profile

open Text (trim word lines)

variable {p : Preferences} {k l : Line} {ks ls : List Line} {s : Section} {ss ts : List Section}

/-- Nothing but itself can become of the section, if anything. -/
def Section.Settled (p : Preferences) : Section → Prop
  | .top l => Becomes p l l
  | .block tag l _ closing => tag ≠ credentialsName ∧ trim l = l ∧ ∀ c ∈ closing, trim c = c

/-- The directives that are added are supported. -/
def Supports (p : Preferences) : Prop :=
  ∀ name ∈ p.unsupported, name.toList ∉ mandatoryNames

/-! ### What becomes of a line is settled -/

theorem Kept.of_trim_eq (hl : Kept p l) (ht : trim k = trim l) : Kept p k := by
  rw [Kept, ht, word_of_trim_eq ht]
  exact hl

theorem Supports.kept (hp : Supports p) (hw : word k ∈ mandatoryNames) : Kept p k := by
  rw [kept_iff_of_word (head?_of_mem_mandatoryNames hw)]
  intro hu
  obtain ⟨name, hmem, heq⟩ := List.any_eq_true.1 hu
  rw [← of_decide_eq_true heq] at hw
  exact hp name hmem hw

theorem Supports.becomes_credentials (hp : Supports p) :
    Becomes p credentialsName credentialsName :=
  .credentials (hp.kept (by decide)) word_credentialsName

theorem Supports.becomes_certificate (hp : Supports p) :
    Becomes p certificateName certificateName := by
  have htrim : trim certificateName = certificateName := by decide
  have h := Becomes.trimmed (hp.kept (by decide)) (.inl word_certificateName)
  rwa [htrim] at h

theorem Supports.becomes_verbosity (hp : Supports p) {level : Nat}
    (hf : p.forcedVerb = some level) : Becomes p (verbosityLine level) (verbosityLine level) :=
  .verbosity (hp.kept (by rw [word_verbosityLine]; decide)) hf (word_verbosityLine level)

/-- What becomes of a line is settled. -/
theorem Becomes.settled (hp : Supports p) (h : Becomes p l k) : Becomes p k k := by
  cases h with
  | tag ht =>
    have h := Becomes.tag (p := p) (l := trim l) (by rwa [Text.trim_trim])
    rwa [Text.trim_trim] at h
  | credentials => exact hp.becomes_credentials
  | trimmed hl hw =>
    have h := Becomes.trimmed (hl.of_trim_eq (Text.trim_trim l)) (by rwa [Text.word_trim])
    rwa [Text.trim_trim] at h
  | certificate => exact hp.becomes_certificate
  | verbosity _ hf => exact hp.becomes_verbosity hf
  | other hl hw hv =>
    have h := Becomes.other (hl.of_trim_eq (Text.trim_trimEnd l)) (by rwa [Text.word_trimEnd])
      (by rwa [Text.word_trimEnd])
    rwa [Text.trimEnd_trimEnd] at h

theorem settled_of_mem_additions (hp : Supports p) (h : k ∈ additions p ss) : Becomes p k k := by
  obtain rfl | rfl | ⟨level, hf, rfl⟩ := mem_additions h
  · exact hp.becomes_credentials
  · exact hp.becomes_certificate
  · exact hp.becomes_verbosity hf

theorem appendLines_of_closed (h : ss.any Section.isOpen = false) (ls : List Line) :
    appendLines ls ss = ss ++ ls.map .top := by
  induction ss with
  | nil => rfl
  | cons s ss ih =>
    rw [List.any_cons, Bool.or_eq_false_iff] at h
    rw [appendLines, ih h.2]
    · rfl
    · rintro tag l body rfl
      cases h.1

theorem normalSections_of_closed (p : Preferences) (h : ¬LeftOpen ss) :
    normalSections p ss = keptSections p ss ++ (additions p ss).map .top := by
  rw [← any_isOpen_keptSections_iff (p := p), Bool.not_eq_true] at h
  exact appendLines_of_closed h (additions p ss)

/-- The sections of a normal form are settled, unless a block is left open. -/
theorem settled_normalSections (hp : Supports p) (hclosed : ¬LeftOpen ss) :
    ∀ s ∈ normalSections p ss, s.Settled p := by
  intro s hs
  rw [normalSections_of_closed p hclosed] at hs
  obtain hs | hs := List.mem_append.1 hs
  · obtain ⟨⟨t, i⟩, -, hs⟩ := List.mem_flatMap.1 hs
    cases t with
    | top l =>
      obtain ⟨k, hk, rfl⟩ := List.mem_map.1 hs
      exact (becomes_of_mem hk).settled hp
    | block tag l body closing =>
      dsimp only [Section.normal] at hs
      split at hs
      · cases hs
      · next htag =>
        rw [List.mem_singleton.1 hs]
        refine ⟨htag, Text.trim_trim l, fun c hc => ?_⟩
        obtain ⟨d, -, rfl⟩ := Option.map_eq_some_iff.1 hc
        exact Text.trim_trim d
  · obtain ⟨k, hk, rfl⟩ := List.mem_map.1 hs
    exact settled_of_mem_additions hp hk

/-! ### Settled sections are kept as they are -/

/-- A settled line gives its directive. -/
theorem gives_of_settled (hl : Becomes p l l) (hhead : (word l).head? ≠ some '<') :
    (Section.top l).gives p (word l) := by
  obtain h | ⟨hc, hd⟩ := hl.gives hhead
  · exact h
  · have hw := (gives_top_iff.1 hd).2
    rw [hc] at hw
    exact absurd hw (by decide)

theorem normalLines_of_settled_top {all before : List Section} (hl : Becomes p l k) (hk : k = l)
    (hcertificate : all.any (·.gives p certificateName))
    (hcredentials : word l = credentialsName → before.any (·.gives p credentialsName) = false)
    (hverbosity : p.forcedVerb.isSome → word l = verbosityName →
      before.any (·.gives p verbosityName) = false) :
    (Section.top l).normalLines p all before = [l] := by
  cases hl with
  | tag ht => rw [Section.normalLines, if_pos ht, hk]
  | credentials hl hw =>
    rw [normalLines_of_credentials hl hw, hcredentials hw, hk]
    rfl
  | trimmed hl hw =>
    obtain hw | hw := hw
    · rw [normalLines_of_certificate hl hw, hk]
    · rw [normalLines_of_digest hl hw, hcertificate, hk]
      rfl
  | certificate _ hw =>
    rw [← hk] at hw
    exact absurd hw (by decide)
  | verbosity hl hf hw =>
    rw [normalLines_of_verbosity hl hw hf, hverbosity (by rw [hf]; rfl) hw, hk]
    rfl
  | other hl hw hv => rw [normalLines_of_other hl hw hv, hk]

/-- Where there is only one line with a directive, no section before it gives the directive. -/
theorem none_before {name x : Line} {i : Nat}
    (h : (ss.flatMap Section.tops).filter (word · = name) = [x])
    (hs : (Section.top l, i) ∈ ss.zipIdx) (hw : word l = name) :
    (ss.take i).any (·.gives p name) = false := by
  -- The line itself is the only one, so the lines before it have none.
  obtain ⟨hlt, hget⟩ := List.getElem?_eq_some_iff.1 (List.mk_mem_zipIdx_iff_getElem?.1 hs)
  have htops : ss.flatMap Section.tops =
      (ss.take i).flatMap Section.tops ++ l :: (ss.drop (i + 1)).flatMap Section.tops := by
    conv_lhs => rw [← List.take_append_drop i ss, List.drop_eq_getElem_cons hlt, hget]
    rw [List.flatMap_append, List.flatMap_cons]
    rfl
  rw [htops, List.filter_append, List.filter_cons, if_pos (decide_eq_true hw)] at h
  have hnone : ((ss.take i).flatMap Section.tops).filter (word · = name) = [] := by
    obtain ⟨hnil, -⟩ | ⟨-, hnil⟩ := List.append_eq_singleton_iff.1 h
    · exact hnil
    · cases hnil
  rw [List.any_eq_false]
  intro s hs hgives
  cases s with
  | block => cases hgives
  | top m =>
    have hm : m ∈ (ss.take i).flatMap Section.tops := List.mem_flatMap_of_mem hs List.mem_cons_self
    exact List.filter_eq_nil_iff.1 hnone m hm (decide_eq_true (gives_top_iff.1 hgives).2)

theorem exists_word_of_filter_eq {name x : Line} (h : ls.filter (word · = name) = [x]) :
    ∃ l ∈ ls, word l = name := by
  have hx : x ∈ ls.filter (word · = name) := by
    rw [h]
    exact List.mem_singleton_self x
  obtain ⟨hmem, hw⟩ := List.mem_filter.1 hx
  exact ⟨x, hmem, of_decide_eq_true hw⟩

theorem any_gives_of_settled (hs : ∀ s ∈ ss, s.Settled p) {name : Line}
    (hname : ∃ l ∈ ss.flatMap Section.tops, word l = name) (hhead : name.head? ≠ some '<') :
    ss.any (·.gives p name) := by
  obtain ⟨l, hl, rfl⟩ := hname
  obtain ⟨s, hmem, hl⟩ := List.mem_flatMap.1 hl
  cases s with
  | block => cases hl
  | top m =>
    obtain rfl := List.mem_singleton.1 hl
    exact List.any_eq_true.2 ⟨_, hmem, gives_of_settled (hs _ hmem) hhead⟩

/-- Nothing is added to settled sections that hold what is mandatory. -/
theorem additions_of_settled (hs : ∀ s ∈ ss, s.Settled p)
    (hm : Mandated p (ss.flatMap Section.tops)) : additions p ss = [] := by
  rw [additions_eq_nil_iff]
  refine ⟨?_, .inl ?_, fun level hf => ?_⟩
  · exact any_gives_of_settled hs (exists_word_of_filter_eq hm.credentials) (by decide)
  · exact any_gives_of_settled hs hm.certificate (by decide)
  · exact any_gives_of_settled hs (exists_word_of_filter_eq (hm.verbosity level hf)) (by decide)

/-- A settled section among sections that hold what is mandatory is kept as it is. -/
theorem normalLines_of_mem_settled (hs : ∀ s ∈ ss, s.Settled p)
    (hm : Mandated p (ss.flatMap Section.tops)) {i : Nat} (hmem : (s, i) ∈ ss.zipIdx) :
    s.normalLines p ss (ss.take i) = s.lines := by
  have hsettled := hs s (List.fst_mem_of_mem_zipIdx hmem)
  cases s with
  | top l =>
    refine normalLines_of_settled_top hsettled rfl
      (any_gives_of_settled hs hm.certificate (by decide))
      (none_before hm.credentials hmem) fun hf hw => ?_
    obtain ⟨level, hf⟩ := Option.isSome_iff_exists.1 hf
    exact none_before (hm.verbosity level hf) hmem hw
  | block tag l body closing =>
    obtain ⟨htag, htrim, hclosing⟩ := hsettled
    rw [normalLines_block, if_neg htag, htrim]
    cases closing with
    | none => rfl
    | some c =>
      rw [Option.toList_some, List.map_singleton, hclosing c rfl]
      rfl

/-- Settled sections that hold what is mandatory are kept as they are. -/
theorem normalLines_of_settled (hs : ∀ s ∈ ss, s.Settled p)
    (hm : Mandated p (ss.flatMap Section.tops)) : normalLines p ss = ss.flatMap Section.lines :=
  calc normalLines p ss = ss.zipIdx.flatMap fun x => x.1.normalLines p ss (ss.take x.2) := by
        rw [normalLines, additions_of_settled hs hm, List.append_nil]
    _ = ss.zipIdx.flatMap fun x => x.1.lines :=
        List.flatMap_congr fun _ hmem => normalLines_of_mem_settled hs hm hmem
    _ = (ss.zipIdx.map Prod.fst).flatMap Section.lines := by rw [List.flatMap_map]
    _ = ss.flatMap Section.lines := by rw [List.zipIdx_map_fst]

/-- What is in normal form stays as it is. -/
theorem normalize_normalize (p : Preferences) (hp : Supports p) {profile : List Char}
    (h : Divides (lines profile) ss) (hclosed : ¬LeftOpen ss)
    (hreturn : ∀ l ∈ lines profile, l.getLast? ≠ some '\r') :
    normalize p (normalize p profile) = normalize p profile := by
  have hlines : lines (normalize p profile) = normalLines p ss := by
    rw [lines_normalize p h]
    exact (List.map_congr_left (withoutReturn_of_mem_normalLines h hreturn)).trans (List.map_id _)
  have hsections : Divides (lines (normalize p profile)) (normalSections p ss) := by
    rw [hlines]
    exact divides_normalLines p h
  have hmandated : Mandated p ((normalSections p ss).flatMap Section.tops) := by
    rw [normalSections_of_closed p hclosed, List.flatMap_append, flatMap_tops_map_top]
    exact mandated_append_additions p ss
  have hfixed : normalLines p (normalSections p ss) = normalLines p ss := by
    rw [normalLines_of_settled (settled_normalSections hp hclosed) hmandated,
      (divides_normalLines p h).flatMap_lines]
  rw [normalize_of_divides p hsections, hfixed, normalize_of_divides p h]

theorem normalize_normalize_of_blocks :
    Supports {} ∧
      (∀ l ∈ lines "auth-user-pass f\n <ca>\n M \n</ca>\n auth A\n<auth-user-pass>\nx".toList,
        l.getLast? ≠ some '\r') ∧
      normalize {} (normalize {}
          "auth-user-pass f\n <ca>\n M \n</ca>\n auth A\n<auth-user-pass>\nx".toList) =
        normalize {}
          "auth-user-pass f\n <ca>\n M \n</ca>\n auth A\n<auth-user-pass>\nx".toList := by
  have hsupports : Supports {} := by
    rw [Supports]
    decide
  have hreturn :
      ∀ l ∈ lines "auth-user-pass f\n <ca>\n M \n</ca>\n auth A\n<auth-user-pass>\nx".toList,
        l.getLast? ≠ some '\r' := by
    decide +kernel
  have h : Divides
      (lines "auth-user-pass f\n <ca>\n M \n</ca>\n auth A\n<auth-user-pass>\nx".toList)
      [.top "auth-user-pass f".toList,
        .block "ca".toList " <ca>".toList [" M ".toList] (some "</ca>".toList),
        .top " auth A".toList,
        .block credentialsName "<auth-user-pass>".toList ["x".toList] none] :=
    .top (by decide) (@Divides.closed _ _ _ [" M ".toList] _ _ (by decide) (by decide)
      (by decide) (.top (by decide) (.unclosed (by decide) (by decide))))
  have hclosed : ¬LeftOpen [.top "auth-user-pass f".toList,
      .block "ca".toList " <ca>".toList [" M ".toList] (some "</ca>".toList),
      .top " auth A".toList,
      .block credentialsName "<auth-user-pass>".toList ["x".toList] none] := by
    rintro ⟨tag, l, body, htag, hmem⟩
    simp_all
  exact ⟨hsupports, hreturn, normalize_normalize {} hsupports h hclosed hreturn⟩

end TunnelRelay.Profile
