import TunnelRelay.Text.Blank
import TunnelRelay.Text.Lines

/-!
# The outline of a profile

Profiles are read line by line. A line whose trimmed form is a tag between angle brackets can
open an inline block; the block lasts until the line that closes this tag, or to the end of the
profile. Nothing inside a block opens another one.

## Main definitions

- `Profile.Part` — the part that a line plays
- `Profile.outline` — the lines of a profile with their parts
- `Profile.tag?` — the tag between angle brackets
-/

namespace TunnelRelay.Profile

open Text (trim)

/-- One line of a profile, without its end. -/
abbrev Line := List Char

/-- The part that a line plays in a profile. -/
inductive Part where
  /-- The line opens a block with this tag. -/
  | opening (tag : List Char)
  /-- The line stands in a block with this tag. -/
  | body (tag : List Char)
  /-- The line closes a block with this tag. -/
  | closing (tag : List Char)
  /-- The line stands outside every block. -/
  | top
  deriving DecidableEq, Repr

/-- The tag of a trimmed line that is a tag between angle brackets. -/
def tag? : Line → Option (List Char)
  | '<' :: t => if t.getLast? = some '>' then some t.dropLast else none
  | _ => none

/-- The trimmed line that closes the blocks with this tag. -/
def closingLine (tag : List Char) : Line := '<' :: '/' :: (tag ++ ['>'])

/-- The trimmed line that opens the blocks with this tag. -/
def openingLine (tag : List Char) : Line := '<' :: (tag ++ ['>'])

/-- The lines with their parts, where `inside` is the tag of the block that is open and `opens`
tells which tags open one. -/
def outlineFrom (opens : List Char → Bool) :
    (inside : Option (List Char)) → List Line → List (Part × Line)
  | _, [] => []
  | some tag, l :: ls =>
    if trim l = closingLine tag then (.closing tag, l) :: outlineFrom opens none ls
    else (.body tag, l) :: outlineFrom opens (some tag) ls
  | none, l :: ls =>
    match (tag? (trim l)).filter opens with
    | some tag => (.opening tag, l) :: outlineFrom opens (some tag) ls
    | none => (.top, l) :: outlineFrom opens none ls

/-- The lines of a profile with their parts. -/
def outline (opens : List Char → Bool) (ls : List Line) : List (Part × Line) :=
  outlineFrom opens none ls

@[simp] theorem tag?_openingLine (tag : List Char) : tag? (openingLine tag) = some tag := by
  simp [tag?, openingLine]

theorem eq_openingLine_of_tag? {l : Line} {tag : List Char} (h : tag? l = some tag) :
    l = openingLine tag := by
  unfold tag? at h
  split at h
  · next t =>
    simp only [Option.ite_none_right_eq_some, Option.some.injEq] at h
    obtain ⟨hl, rfl⟩ := h
    obtain ⟨s, rfl⟩ := List.getLast?_eq_some_iff.1 hl
    simp [openingLine]
  · simp at h

end TunnelRelay.Profile
