import TunnelRelay.Preferences
import TunnelRelay.Profile.Outline

/-!
# Profiles in normal form

Before a profile is handed to an engine it is put into a form in which the engine asks for
credentials instead of reading them, and in which no directive stops an engine without a screen:

* unsupported directives are dropped;
* blocks with inline credentials are dropped, and all `auth-user-pass` directives become one
  without arguments;
* `client-cert-not-required` is added, before the first `auth`, if it is missing;
* the verbosity is set, if the preferences force one.

Everything else is kept in its order, and bodies of blocks are kept character for character.

## Main definitions

- `Profile.Item` — a line of the result with the role that it plays in the rules above
- `Profile.item?` — what becomes of one line
- `Profile.normalize` — the profile in normal form
-/

namespace TunnelRelay.Profile

open Text (trim trimEnd word lines joinLines)

/-- The role of a line in the rules of the normal form. -/
inductive Role where
  /-- It asks for credentials. -/
  | credentials
  /-- It tells that no client certificate is needed. -/
  | certificate
  /-- It sets the verbosity that the preferences force. -/
  | verbosity
  /-- It names the digest, before which the certificate rule belongs. -/
  | digest
  /-- It plays no role. -/
  | plain
  deriving DecidableEq, Repr

/-- A line of the normal form. -/
structure Item where
  /-- The role of the line. -/
  role : Role
  /-- The line. -/
  text : Line
  deriving DecidableEq, Repr

/-- The directive that asks for credentials, and the tag of the blocks that hold them. -/
def credentialsName : List Char := "auth-user-pass".toList

/-- The directive that tells that no client certificate is needed. -/
def certificateName : List Char := "client-cert-not-required".toList

/-- The directive that sets the verbosity. -/
def verbosityName : List Char := "verb".toList

/-- The directive that names the digest. -/
def digestName : List Char := "auth".toList

/-- The line that asks for credentials. -/
def credentialsItem : Item := ⟨.credentials, credentialsName⟩

/-- The line that tells that no client certificate is needed. -/
def certificateItem : Item := ⟨.certificate, certificateName⟩

/-- The line that sets the verbosity to a level. -/
def verbosityItem (level : Nat) : Item :=
  ⟨.verbosity, verbosityName ++ ' ' :: (toString level).toList⟩

/-- Every tag but a closing one opens a block. -/
def opensBlock (tag : List Char) : Bool := tag.head? ≠ some '/'

/-- What becomes of a line outside the blocks. -/
def topItem? (p : Preferences) (l : Line) : Option Item :=
  let t := trim l
  if (tag? t).isSome then some ⟨.plain, t⟩
  else
    let name := word t
    if p.unsupported.any (·.toList = name) then none
    else if name = credentialsName then some credentialsItem
    else if name = certificateName then some ⟨.certificate, t⟩
    else if name = digestName then some ⟨.digest, t⟩
    else match p.forcedVerb with
      | some level =>
        if name = verbosityName then some (verbosityItem level) else some ⟨.plain, trimEnd l⟩
      | none => some ⟨.plain, trimEnd l⟩

/-- What becomes of one line. -/
def item? (p : Preferences) : Part × Line → Option Item
  | (.opening tag, l) | (.closing tag, l) =>
    if tag = credentialsName then none else some ⟨.plain, trim l⟩
  | (.body tag, l) => if tag = credentialsName then none else some ⟨.plain, l⟩
  | (.top, l) => topItem? p l

/-- The items without all but the first of a role. -/
def keepFirst (r : Role) : List Item → List Item
  | [] => []
  | i :: is => if i.role = r then i :: is.filter (·.role ≠ r) else i :: keepFirst r is

/-- The items with one more at the end, unless its role is played. -/
def ensureLast (i : Item) (is : List Item) : List Item :=
  if is.any (·.role = i.role) then is else is ++ [i]

/-- The items with one more before the first of a role, or at the end if there is none. -/
def insertBefore (r : Role) (i : Item) : List Item → List Item
  | [] => [i]
  | j :: js => if j.role = r then i :: j :: js else j :: insertBefore r i js

/-- The items with the certificate rule, unless it is there. -/
def ensureCertificate (is : List Item) : List Item :=
  if is.any (·.role = .certificate) then is else insertBefore .digest certificateItem is

/-- The items with the forced verbosity, unless it is there. -/
def ensureVerbosity (p : Preferences) (is : List Item) : List Item :=
  match p.forcedVerb with
  | some level => ensureLast (verbosityItem level) is
  | none => is

/-- The lines of a profile in normal form, with their roles. -/
def normalItems (p : Preferences) (ls : List Line) : List Item :=
  ensureVerbosity p (ensureCertificate (ensureLast credentialsItem
    (keepFirst .verbosity (keepFirst .credentials ((outline opensBlock ls).filterMap (item? p))))))

/-- The profile in normal form. Every line has its end. -/
def normalize (p : Preferences) (profile : List Char) : List Char :=
  joinLines ((normalItems p (lines profile)).map Item.text) ++ ['\n']

theorem exists_role_ensureLast (i : Item) (is : List Item) :
    (ensureLast i is).any (·.role = i.role) := by
  unfold ensureLast
  split
  · assumption
  · simp

end TunnelRelay.Profile
