import TunnelRelay.Profile.Outline

/-!
# Profiles without secrets

A profile is shown without the bodies of its secret blocks and without the arguments of the
directives that carry tokens. How long a secret is cannot be told from what is shown.

## Main definitions

- `Profile.isSecretBlock`, `Profile.isSecretDirective` — what carries secrets
- `Profile.redact` — the profile with its secrets replaced
-/

namespace TunnelRelay.Profile

open Text (trim word afterWord lines joinLines)

/-- Tags of the blocks whose bodies are secret. -/
def secretBlocks : List String :=
  ["auth-user-pass", "key", "pkcs12", "tls-auth", "tls-crypt", "tls-crypt-v2", "secret",
    "http-proxy-user-pass"]

/-- Directives whose arguments are secret. -/
def secretDirectives : List String := ["auth-token", "auth-token-user", "static-challenge"]

/-- The body of a block with this tag is secret. -/
def isSecretBlock (tag : List Char) : Bool := secretBlocks.any (·.toList = tag)

/-- The arguments of a directive with this name are secret. -/
def isSecretDirective (name : List Char) : Bool := secretDirectives.any (·.toList = name)

/-- What stands in the place of a secret. -/
def mask : Line := "<redacted>".toList

/-- A line outside the secret blocks: its arguments are masked if they are secret. -/
def redactLine (l : Line) : Line :=
  if isSecretDirective (word l) && !(afterWord l).isEmpty then word l ++ ' ' :: mask else l

/-- The lines that are shown for one line of the profile. -/
def redactPart : Part × Line → List Line
  | (.opening _, l) => [trim l, mask]
  | (.body _, _) => []
  | (.closing _, l) => [trim l]
  | (.top, l) => [redactLine l]

/-- The lines of a profile with their secrets replaced. -/
def redactLines (ls : List Line) : List Line := (outline isSecretBlock ls).flatMap redactPart

/-- The profile with its secrets replaced. -/
def redact (profile : List Char) : List Char := joinLines (redactLines (lines profile))

end TunnelRelay.Profile
