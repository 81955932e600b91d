import TunnelRelay.Directive.Basic
import TunnelRelay.Text.Blank
import TunnelRelay.Text.Lines

/-!
# Reading directives

Blanks separate the words of a directive. Double quotes hide the blanks between them and are not
part of the word; a pair of quotes with nothing in it is an empty word, and a quote that is never
closed lasts to the end.

## Main definitions

- `Directive.scan` — the words of one directive
- `Directive.ofLines` — the directives of a profile, one a line, without the comment lines
- `Directive.ofPushReply` — the directives of a push reply, with commas between them
-/

namespace TunnelRelay.Directive

open Text (isBlank trim lines)

/-- The words from here on. `word` is the word that has begun, its characters in reverse;
`inQuotes` tells whether a quote is open. -/
def scanFrom (word : Option (List Char)) (inQuotes : Bool) : List Char → List (List Char)
  | [] => (word.map List.reverse).toList
  | c :: t =>
    if c = '"' then scanFrom (some (word.getD [])) (!inQuotes) t
    else if isBlank c && !inQuotes then (word.map List.reverse).toList ++ scanFrom none false t
    else scanFrom (some (c :: word.getD [])) inQuotes t

/-- The words of a directive. -/
def scan (t : List Char) : List (List Char) := scanFrom none false t

/-- The directive that a text writes. -/
def ofText (t : List Char) : Directive := ⟨(scan t).map String.ofList⟩

/-- A comment line begins with a number sign or a semicolon. -/
def isComment (t : List Char) : Bool := t.head? = some '#' || t.head? = some ';'

/-- The directives of a profile, one a line. Lines without words and comment lines are left
out. -/
def ofLines (t : List Char) : List Directive :=
  (((lines t).map trim).filter fun l => !l.isEmpty && !isComment l).map ofText
    |>.filter (!·.isEmpty)

/-- The parts of a text between commas. -/
def splitCommas : List Char → List (List Char)
  | [] => [[]]
  | c :: t =>
    if c = ',' then [] :: splitCommas t
    else match splitCommas t with
      | [] => [[c]]
      | p :: ps => (c :: p) :: ps

/-- The word with which a push reply begins. -/
def pushReplyMark : List Char := "PUSH_REPLY".toList

/-- A text without the mark of a push reply, if it has one. -/
def dropMark (t : List Char) : List Char :=
  if pushReplyMark.isPrefixOf t then t.drop pushReplyMark.length else t

/-- The directives of a push reply. Parts without words are left out. -/
def ofPushReply (t : List Char) : List Directive :=
  (((splitCommas (dropMark (trim t))).map trim).filter (!·.isEmpty)).map ofText
    |>.filter (!·.isEmpty)

@[simp] theorem scanFrom_nil (word : Option (List Char)) (inQuotes : Bool) :
    scanFrom word inQuotes [] = (word.map List.reverse).toList := rfl

end TunnelRelay.Directive
