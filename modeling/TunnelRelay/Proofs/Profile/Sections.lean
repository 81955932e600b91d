import Mathlib.Tactic.ByContra
import TunnelRelay.Profile.Normal

/-!
# The sections of a profile

A profile is a sequence of lines outside every block and of blocks. A block begins with the line
that opens it and goes on to the first line that closes its tag, or to the end of the profile.

## Main definitions

- `Profile.Section` — a line outside the blocks, or a block
- `Profile.Divides` — the sections of a list of lines
- `Profile.Section.outline` — the lines of a section with their parts

## Main statements

- `Profile.block_induction` — induction on lines, block by block
- `Profile.exists_divides`, `Profile.Divides.unique` — all lines have sections, and only these
- `Profile.outline_of_divides` — the outline of a profile is that of its sections
-/

namespace TunnelRelay.Profile

open Text (trim)

/-- A section of a profile. A block that goes on to the end of the profile has no closing line. -/
inductive Section where
  | top (l : Line)
  | block (tag : List Char) (opening : Line) (body : List Line) (closing : Option Line)
  deriving DecidableEq

/-- The line stands outside the blocks and opens none. -/
def OpensNothing (l : Line) : Prop := ∀ tag, trim l = openingLine tag → tag.head? = some '/'

/-- The line opens a block with this tag. -/
def Opens (tag : List Char) (l : Line) : Prop := trim l = openingLine tag ∧ tag.head? ≠ some '/'

/-- None of the lines closes a block with this tag. -/
def Unclosed (tag : List Char) (ls : List Line) : Prop := ∀ l ∈ ls, trim l ≠ closingLine tag

/-- The sections of the lines, in their order. -/
inductive Divides : List Line → List Section → Prop
  | nil : Divides [] []
  | top {l : Line} {ls : List Line} {ss : List Section} : OpensNothing l → Divides ls ss →
      Divides (l :: ls) (.top l :: ss)
  | closed {tag : List Char} {l c : Line} {body ls : List Line} {ss : List Section} :
      Opens tag l → Unclosed tag body → trim c = closingLine tag → Divides ls ss →
      Divides (l :: (body ++ c :: ls)) (.block tag l body (some c) :: ss)
  | unclosed {tag : List Char} {l : Line} {body : List Line} : Opens tag l → Unclosed tag body →
      Divides (l :: body) [.block tag l body none]

theorem openingLine_injective {s t : List Char} (h : openingLine s = openingLine t) : s = t := by
  simpa [openingLine] using h

theorem tag?_eq_some_iff {l : Line} {tag : List Char} : tag? l = some tag ↔ l = openingLine tag := by
  constructor
  · exact eq_openingLine_of_tag?
  · rintro rfl
    exact tag?_openingLine tag

theorem opens_iff {tag : List Char} {l : Line} :
    (tag? (trim l)).filter opensBlock = some tag ↔ Opens tag l := by
  rw [Option.filter_eq_some_iff, tag?_eq_some_iff, opensBlock, decide_eq_true_eq]
  rfl

theorem opensNothing_iff {l : Line} :
    (tag? (trim l)).filter opensBlock = none ↔ OpensNothing l := by
  rw [Option.eq_none_iff_forall_ne_some]
  constructor
  · intro h tag htag
    by_contra hslash
    exact h tag (opens_iff.2 ⟨htag, hslash⟩)
  · intro h tag htag
    obtain ⟨heq, hslash⟩ := opens_iff.1 htag
    exact hslash (h tag heq)

instance (l : Line) : Decidable (OpensNothing l) := decidable_of_iff _ opensNothing_iff

instance (tag : List Char) (l : Line) : Decidable (Opens tag l) :=
  inferInstanceAs (Decidable (_ ∧ _))

instance (tag : List Char) (ls : List Line) : Decidable (Unclosed tag ls) :=
  inferInstanceAs (Decidable (∀ l ∈ ls, _))

theorem Opens.not_opensNothing {tag : List Char} {l : Line} (h : Opens tag l) : ¬OpensNothing l :=
  fun hn => h.2 (hn tag h.1)

theorem Opens.tag_unique {s t : List Char} {l : Line} (hs : Opens s l) (ht : Opens t l) : s = t :=
  openingLine_injective (hs.1.symm.trans ht.1)

theorem Unclosed.cons {tag : List Char} {l : Line} {ls : List Line} (hl : trim l ≠ closingLine tag)
    (h : Unclosed tag ls) : Unclosed tag (l :: ls) :=
  fun k hk => (List.mem_cons.1 hk).elim (fun e => e ▸ hl) (h k)

/-- Lines that close a tag are cut at the first of them. -/
theorem exists_closing (tag : List Char) (ls : List Line) : Unclosed tag ls ∨
    ∃ body c rest, ls = body ++ c :: rest ∧ Unclosed tag body ∧ trim c = closingLine tag := by
  induction ls with
  | nil => exact .inl nofun
  | cons l ls ih =>
    by_cases hl : trim l = closingLine tag
    · exact .inr ⟨[], l, ls, rfl, nofun, hl⟩
    · obtain h | ⟨body, c, rest, rfl, hbody, hc⟩ := ih
      · exact .inl (h.cons hl)
      · exact .inr ⟨l :: body, c, rest, rfl, hbody.cons hl, hc⟩

theorem closing_unique {tag : List Char} {as bs : List Line} {a b : Line} {xs ys : List Line}
    (has : Unclosed tag as) (ha : trim a = closingLine tag) (hbs : Unclosed tag bs)
    (hb : trim b = closingLine tag) (h : as ++ a :: xs = bs ++ b :: ys) :
    as = bs ∧ a = b ∧ xs = ys := by
  induction as generalizing bs with
  | nil =>
    cases bs with
    | nil =>
      cases h
      exact ⟨rfl, rfl, rfl⟩
    | cons c bs =>
      cases h
      exact absurd ha (hbs a List.mem_cons_self)
  | cons c as ih =>
    cases bs with
    | nil =>
      cases h
      exact absurd hb (has b List.mem_cons_self)
    | cons e bs =>
      obtain ⟨rfl, htail⟩ := List.cons.inj h
      obtain ⟨rfl, rfl, rfl⟩ := ih (fun l hl => has l (List.mem_cons_of_mem _ hl))
        (fun l hl => hbs l (List.mem_cons_of_mem _ hl)) htail
      exact ⟨rfl, rfl, rfl⟩

/-- What is true of no lines, and kept by a line and by a block in front, is true of all lines. Which
lines open a block is up to the reader. -/
theorem block_induction (opens : List Char → Bool) {motive : List Line → Prop} (nil : motive [])
    (top : ∀ l ls, (tag? (trim l)).filter opens = none → motive ls → motive (l :: ls))
    (closed : ∀ tag l body c ls, (tag? (trim l)).filter opens = some tag → Unclosed tag body →
      trim c = closingLine tag → motive ls → motive (l :: (body ++ c :: ls)))
    (unclosed : ∀ tag l body, (tag? (trim l)).filter opens = some tag → Unclosed tag body →
      motive (l :: body)) (ls : List Line) : motive ls := by
  -- What follows a block is shorter than the lines from its opening on.
  induction hn : ls.length using Nat.strongRecOn generalizing ls with
  | ind n ih =>
    cases ls with
    | nil => exact nil
    | cons l ls =>
      have hlt {ks : List Line} (h : ks.length ≤ ls.length) : ks.length < n := by
        rw [← hn]
        exact Nat.lt_succ_of_le h
      cases ho : (tag? (trim l)).filter opens with
      | none => exact top l ls ho (ih _ (hlt (Nat.le_refl _)) ls rfl)
      | some tag =>
        obtain h | ⟨body, c, rest, rfl, hbody, hc⟩ := exists_closing tag ls
        · exact unclosed tag l ls ho h
        · have hrest : rest.length ≤ (body ++ c :: rest).length := by
            rw [List.length_append, List.length_cons]
            omega
          exact closed tag l body c rest ho hbody hc (ih _ (hlt hrest) rest rfl)

/-- All lines have sections. -/
theorem exists_divides (ls : List Line) : ∃ ss, Divides ls ss := by
  induction ls using block_induction opensBlock with
  | nil => exact ⟨[], .nil⟩
  | top l ls ho ih =>
    obtain ⟨ss, hss⟩ := ih
    exact ⟨_, .top (opensNothing_iff.1 ho) hss⟩
  | closed tag l body c ls ho hbody hc ih =>
    obtain ⟨ss, hss⟩ := ih
    exact ⟨_, .closed (opens_iff.1 ho) hbody hc hss⟩
  | unclosed tag l body ho hbody => exact ⟨_, .unclosed (opens_iff.1 ho) hbody⟩

/-- Lines have only one list of sections. -/
theorem Divides.unique {ls : List Line} {ss ts : List Section} (hs : Divides ls ss)
    (ht : Divides ls ts) : ss = ts := by
  -- The first line tells whether it opens a block, and the first line that closes it where it ends.
  induction hs generalizing ts with
  | nil =>
    cases ht
    rfl
  | top hl hs ih =>
    cases ht with
    | top _ ht => rw [ih ht]
    | closed ho => exact absurd hl ho.not_opensNothing
    | unclosed ho => exact absurd hl ho.not_opensNothing
  | @closed tag l c body ls ss ho hbody hc hs ih =>
    generalize hk : l :: (body ++ c :: ls) = ks at ht
    cases ht with
    | nil => cases hk
    | top hl =>
      cases hk
      exact absurd hl ho.not_opensNothing
    | closed ho' hbody' hc' ht =>
      obtain ⟨rfl, htail⟩ := List.cons.inj hk
      obtain rfl := ho.tag_unique ho'
      obtain ⟨rfl, rfl, rfl⟩ := closing_unique hbody hc hbody' hc' htail
      rw [ih ht]
    | unclosed ho' hbody' =>
      obtain ⟨rfl, rfl⟩ := List.cons.inj hk
      obtain rfl := ho.tag_unique ho'
      exact absurd hc (hbody' c (by simp))
  | @unclosed tag l body ho hbody =>
    generalize hk : l :: body = ks at ht
    cases ht with
    | nil => cases hk
    | top hl =>
      cases hk
      exact absurd hl ho.not_opensNothing
    | closed ho' hbody' hc' ht =>
      obtain ⟨rfl, rfl⟩ := List.cons.inj hk
      obtain rfl := ho.tag_unique ho'
      exact absurd hc' (hbody _ (by simp))
    | unclosed ho' hbody' =>
      obtain ⟨rfl, rfl⟩ := List.cons.inj hk
      obtain rfl := ho.tag_unique ho'
      rfl

/-- The lines of a section with their parts. -/
def Section.outline : Section → List (Part × Line)
  | .top l => [(.top, l)]
  | .block tag l body closing =>
    (.opening tag, l) :: (body.map (.body tag, ·) ++ closing.toList.map (.closing tag, ·))

theorem outlineFrom_of_unclosed (opens : List Char → Bool) {tag : List Char} {body : List Line}
    (h : Unclosed tag body) (ls : List Line) : outlineFrom opens (some tag) (body ++ ls) =
      body.map (.body tag, ·) ++ outlineFrom opens (some tag) ls := by
  induction body with
  | nil => rfl
  | cons l body ih =>
    rw [List.cons_append, outlineFrom, if_neg (h l List.mem_cons_self),
      ih fun k hk => h k (List.mem_cons_of_mem _ hk)]
    rfl

/-- The outline of a profile is that of its sections. -/
theorem outline_of_divides {ls : List Line} {ss : List Section} (h : Divides ls ss) :
    outline opensBlock ls = ss.flatMap Section.outline := by
  rw [outline]
  induction h with
  | nil => rfl
  | top hl _ ih =>
    rw [outlineFrom, opensNothing_iff.2 hl, ih]
    rfl
  | @closed tag l c body ls ss ho hbody hc _ ih =>
    rw [outlineFrom, opens_iff.2 ho]
    dsimp only
    rw [outlineFrom_of_unclosed opensBlock hbody, outlineFrom, if_pos hc, ih]
    simp [Section.outline]
  | @unclosed tag l body ho hbody =>
    have hrest := outlineFrom_of_unclosed opensBlock hbody []
    rw [List.append_nil] at hrest
    rw [outlineFrom, opens_iff.2 ho]
    dsimp only
    rw [hrest]
    simp [Section.outline, outlineFrom]

end TunnelRelay.Profile
