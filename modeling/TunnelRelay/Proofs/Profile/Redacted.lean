import TunnelRelay.Proofs.Profile.Secrecy

/-!
# What is shown of any profile

Every profile is a sequence of secret blocks, of directives with secret arguments, and of other
lines. What is shown is put together from these three, whatever the bodies and the arguments are.

## Main definitions

- `Profile.HasSecretArguments` — the arguments on the line are secret
- `Profile.RedactsTo` — what is shown of lines, block by block
- `Profile.SameButSecrets` — lines that differ in secrets only

## Main statements

- `Profile.redactsTo_iff` — what is shown of lines is one thing, and it is what they redact to
- `Profile.redact_hides_secrets` — secrets are hidden, and nothing else is
-/

namespace TunnelRelay.Profile

open Text (trim word afterWord lines joinLines)

variable {l : Line} {ks ls ms : List Line}

/-- The line has a directive whose arguments are secret, and it has arguments. -/
def HasSecretArguments (l : Line) : Prop := isSecretDirective (word l) ∧ afterWord l ≠ []

instance (l : Line) : Decidable (HasSecretArguments l) := inferInstanceAs (Decidable (_ ∧ _))

/-- What is shown of the lines: the first and the last line of a secret block, the name of a
directive with secret arguments, and every other line as it is. -/
inductive RedactsTo : List Line → List Line → Prop
  | nil : RedactsTo [] []
  | line {l : Line} {ls ks : List Line} : OpensNoSecret l → ¬HasSecretArguments l →
      RedactsTo ls ks → RedactsTo (l :: ls) (l :: ks)
  | arguments {l : Line} {ls ks : List Line} : OpensNoSecret l → HasSecretArguments l →
      RedactsTo ls ks → RedactsTo (l :: ls) ((word l ++ ' ' :: mask) :: ks)
  | closed {tag : List Char} {l c : Line} {body ls ks : List Line} : isSecretBlock tag →
      trim l = openingLine tag → Unclosed tag body → trim c = closingLine tag → RedactsTo ls ks →
      RedactsTo (l :: (body ++ c :: ls)) (trim l :: mask :: trim c :: ks)
  | unclosed {tag : List Char} {l : Line} {body : List Line} : isSecretBlock tag →
      trim l = openingLine tag → Unclosed tag body → RedactsTo (l :: body) [trim l, mask]

/-- The lines differ in the bodies of secret blocks and in secret arguments only. -/
inductive SameButSecrets : List Line → List Line → Prop
  | nil : SameButSecrets [] []
  | line {l : Line} {ls ls' : List Line} : OpensNoSecret l → SameButSecrets ls ls' →
      SameButSecrets (l :: ls) (l :: ls')
  | arguments {l l' : Line} {ls ls' : List Line} : HasSecretArguments l →
      HasSecretArguments l' → word l' = word l → SameButSecrets ls ls' →
      SameButSecrets (l :: ls) (l' :: ls')
  | closed {tag : List Char} {l c : Line} {body body' ls ls' : List Line} : isSecretBlock tag →
      trim l = openingLine tag → Unclosed tag body → Unclosed tag body' →
      trim c = closingLine tag → SameButSecrets ls ls' →
      SameButSecrets (l :: (body ++ c :: ls)) (l :: (body' ++ c :: ls'))
  | unclosed {tag : List Char} {l : Line} {body body' : List Line} : isSecretBlock tag →
      trim l = openingLine tag → Unclosed tag body → Unclosed tag body' →
      SameButSecrets (l :: body) (l :: body')

theorem redactLines_cons (h : OpensNoSecret l) (ls : List Line) :
    redactLines (l :: ls) = redactLine l :: redactLines ls :=
  redactLines_append (List.forall_mem_singleton.2 h) ls

theorem redactLine_of_arguments (h : HasSecretArguments l) :
    redactLine l = word l ++ ' ' :: mask := by
  obtain ⟨hsecret, hne⟩ := h
  rw [redactLine, if_pos]
  simp [hsecret, hne]

theorem redactLine_of_plain (h : ¬HasSecretArguments l) : redactLine l = l := by
  rw [redactLine, if_neg]
  simpa [HasSecretArguments] using h

/-- A directive with secret arguments opens no block. -/
theorem HasSecretArguments.opensNoSecret (h : HasSecretArguments l) : OpensNoSecret l :=
  opensNoSecret_of_word (head?_of_isSecretDirective h.1)

theorem RedactsTo.eq_redactLines (h : RedactsTo ls ks) : ks = redactLines ls := by
  induction h with
  | nil => rfl
  | line hopen hplain _ ih => rw [redactLines_cons hopen, redactLine_of_plain hplain, ih]
  | arguments hopen hargs _ ih => rw [redactLines_cons hopen, redactLine_of_arguments hargs, ih]
  | closed hsecret ho hbody hc _ ih => rw [redactLines_closed hsecret ho hbody hc, ih]
  | unclosed hsecret ho hbody => rw [redactLines_unclosed hsecret ho hbody]

/-- All lines redact to something. -/
theorem exists_redactsTo (ls : List Line) : ∃ ks, RedactsTo ls ks := by
  induction ls using block_induction isSecretBlock with
  | nil => exact ⟨[], .nil⟩
  | top l ls ho ih =>
    obtain ⟨ks, hks⟩ := ih
    have hopen := opensNoSecret_iff.1 ho
    by_cases hargs : HasSecretArguments l
    · exact ⟨_, .arguments hopen hargs hks⟩
    · exact ⟨_, .line hopen hargs hks⟩
  | closed tag l body c ls ho hbody hc ih =>
    obtain ⟨ks, hks⟩ := ih
    obtain ⟨htag, hsecret⟩ := opensSecret_iff.1 ho
    exact ⟨_, .closed hsecret htag hbody hc hks⟩
  | unclosed tag l body ho hbody =>
    obtain ⟨htag, hsecret⟩ := opensSecret_iff.1 ho
    exact ⟨_, .unclosed hsecret htag hbody⟩

theorem redactsTo_iff : RedactsTo ls ks ↔ ks = redactLines ls := by
  constructor
  · exact RedactsTo.eq_redactLines
  · rintro rfl
    obtain ⟨ks, hks⟩ := exists_redactsTo ls
    rwa [← hks.eq_redactLines]

/-- What is shown of lines that differ in secrets only is the same. -/
theorem SameButSecrets.redactLines_eq (h : SameButSecrets ls ms) :
    redactLines ls = redactLines ms := by
  induction h with
  | nil => rfl
  | line hopen _ ih => rw [redactLines_cons hopen, redactLines_cons hopen, ih]
  | arguments hargs hargs' hw _ ih =>
    rw [redactLines_cons hargs.opensNoSecret, redactLines_cons hargs'.opensNoSecret,
      redactLine_of_arguments hargs, redactLine_of_arguments hargs', hw, ih]
  | closed hsecret ho hbody hbody' hc _ ih =>
    rw [redactLines_closed hsecret ho hbody hc, redactLines_closed hsecret ho hbody' hc, ih]
  | unclosed hsecret ho hbody hbody' =>
    rw [redactLines_unclosed hsecret ho hbody, redactLines_unclosed hsecret ho hbody']

/-- What is shown of a profile are the lines to which its lines redact, and profiles that differ in
secrets only are shown as the same text. -/
theorem redact_hides_secrets (profile : List Char) :
    (∃ ks, (∀ ms, RedactsTo (lines profile) ms ↔ ms = ks) ∧ redact profile = joinLines ks) ∧
    ∀ other, SameButSecrets (lines profile) (lines other) → redact profile = redact other := by
  constructor
  · exact ⟨redactLines (lines profile), fun _ => redactsTo_iff, rfl⟩
  · intro other h
    rw [redact, redact, h.redactLines_eq]

/-- Lines that look like the end of a block or like another block do no harm in a secret body, and
a block that is never closed hides what follows. -/
theorem redact_hides_secrets_of_lookalikes :
    SameButSecrets
        (lines "<key>\n<ca>\n</ca>\n</key> \n auth-token t\nverb 3\n<secret>\nk\n</key>".toList)
        (lines "<key>\n</key> \nauth-token u v\nverb 3\n<secret>\n".toList) ∧
      redact "<key>\n<ca>\n</ca>\n</key> \n auth-token t\nverb 3\n<secret>\nk\n</key>".toList =
        redact "<key>\n</key> \nauth-token u v\nverb 3\n<secret>\n".toList := by
  have hblock : Unclosed "key".toList ["<ca>".toList, "</ca>".toList] := by decide
  have hrest : Unclosed "secret".toList ["k".toList, "</key>".toList] := by decide
  have hlines :
      lines "<key>\n<ca>\n</ca>\n</key> \n auth-token t\nverb 3\n<secret>\nk\n</key>".toList =
        "<key>".toList :: (["<ca>".toList, "</ca>".toList] ++ "</key> ".toList ::
          [" auth-token t".toList, "verb 3".toList, "<secret>".toList, "k".toList,
            "</key>".toList]) := by decide
  have hother : lines "<key>\n</key> \nauth-token u v\nverb 3\n<secret>\n".toList =
      "<key>".toList :: ([] ++ "</key> ".toList ::
        ["auth-token u v".toList, "verb 3".toList, "<secret>".toList]) := by decide
  have hsame : SameButSecrets
      (lines "<key>\n<ca>\n</ca>\n</key> \n auth-token t\nverb 3\n<secret>\nk\n</key>".toList)
      (lines "<key>\n</key> \nauth-token u v\nverb 3\n<secret>\n".toList) := by
    rw [hlines, hother]
    refine .closed (by decide) (by decide) hblock (by decide) (by decide) ?_
    refine .arguments (by decide) (by decide) (by decide) (.line (by decide) ?_)
    exact .unclosed (by decide) (by decide) hrest (by decide)
  exact ⟨hsame, (redact_hides_secrets _).2 _ hsame⟩

end TunnelRelay.Profile
