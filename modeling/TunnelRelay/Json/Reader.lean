/-!
# Reading JSON by the type that is expected

A reader goes through a text once and asks at each place for a value of one type. A text can fail
in three ways: it breaks the grammar, it ends too early, or it holds a value of another type. The
first failure that is met is the one that is reported.

## Main definitions

- `Json.Failure` — the three ways to fail
- `Json.Reader` — a reader: it takes the start of a text and leaves the rest
- `Json.natural`, `Json.boolean`, `Json.text`, `Json.list`, `Json.optional` — values of a type
- `Json.skip` — any value

## Design notes

Where a value of another type stands, the reader still goes over a simple value, so that a
malformed one is reported as such. A number outside the range of a double is malformed where a
type is expected, but not where any value may stand. Nested brackets are kept on a list, so their
depth has no limit.
-/

namespace TunnelRelay.Json

/-- Why a text could not be read. -/
inductive Failure where
  /-- The text breaks the grammar. -/
  | malformed
  /-- The text ends too early. -/
  | truncated
  /-- A value has another type, is out of range, or is given twice. -/
  | mismatched
  deriving DecidableEq, Repr

/-- A reader of the start of a text. -/
abbrev Reader (α : Type) := StateT (List Char) (Except Failure) α

/-- A blank of the grammar. -/
def isBlank (c : Char) : Bool := c = ' ' || c = '\n' || c = '\t' || c = '\r'

/-- A decimal digit. -/
def isDigit (c : Char) : Bool := '0' ≤ c && c ≤ '9'

/-- The value of a hexadecimal digit. -/
def hexValue? (c : Char) : Option Nat :=
  if isDigit c then some (c.toNat - 48)
  else if 'a' ≤ c && c ≤ 'f' then some (c.toNat - 87)
  else if 'A' ≤ c && c ≤ 'F' then some (c.toNat - 55)
  else none

/-- The next character, which stays in the text. -/
def peek : Reader (Option Char) := fun t => .ok (t.head?, t)

/-- The next character after blanks, which stays in the text. -/
def peekToken : Reader (Option Char) := fun t =>
  let r := t.dropWhile isBlank
  .ok (r.head?, r)

/-- Passes over one character. -/
def advance : Reader Unit := fun t => .ok ((), t.drop 1)

/-- The next character. -/
def next : Reader Char
  | c :: t => .ok (c, t)
  | [] => .error .truncated

/-- Takes the digits that come next. -/
def digits : Reader (List Char) := fun t => .ok (t.takeWhile isDigit, t.dropWhile isDigit)

/-- Passes over the rest of a word whose first character has been read. -/
def finishWord : List Char → Reader Unit
  | [] => pure ()
  | c :: w => do
    if (← next) = c then finishWord w else throw .malformed

/-! ### Numbers -/

/-- A number as it is written: whole digits, digits after the point, and the exponent. -/
structure Numeral where
  /-- A minus sign stands in front. -/
  negative : Bool
  /-- The digits before the point. -/
  whole : List Char
  /-- The digits after the point, if there is one. -/
  fraction : Option (List Char)
  /-- The exponent, if there is one. -/
  exponent : Option Int

/-- The number that a row of decimal digits writes. -/
def ofDigits (ds : List Char) : Nat := ds.foldl (fun n c => n * 10 + (c.toNat - 48)) 0

/-- Magnitudes from here on are outside the range of a double. -/
def doubleLimit : Nat := Nat.pow 2 1024 - Nat.pow 2 970

/-- The magnitude of `d · 10 ^ e` is outside the range of a double. -/
def isHuge (d : Nat) (e : Int) : Bool :=
  let size : Int := (Nat.toDigits 10 d).length
  if d = 0 then false
  else if 400 < size + e then true
  else if size + e ≤ 308 then false
  else if 0 ≤ e then doubleLimit ≤ d * Nat.pow 10 e.toNat
  else doubleLimit * Nat.pow 10 (-e).toNat ≤ d

/-- The magnitude of a numeral is outside the range of a double. -/
def Numeral.isHuge (n : Numeral) : Bool :=
  let f := n.fraction.getD []
  Json.isHuge (ofDigits (n.whole ++ f)) (n.exponent.getD 0 - f.length)

/-- The digits before the point: a zero alone, or digits that do not begin with a zero. -/
def wholeDigits : Reader (List Char) := do
  match ← peek with
  | none => throw .truncated
  | some '0' =>
    advance
    match ← peek with
    | some c => if isDigit c then throw .malformed else return ['0']
    | none => return ['0']
  | some c => if isDigit c then digits else throw .malformed

/-- At least one digit. `early` is the failure when the text ends instead. -/
def someDigits (early : Failure) : Reader (List Char) := do
  let ds ← digits
  if ds.isEmpty then
    match ← peek with
    | none => throw early
    | some _ => throw .malformed
  else return ds

/-- The point and the digits after it, if a point comes next. -/
def fractionPart (early : Failure) : Reader (Option (List Char)) := do
  match ← peek with
  | some '.' => advance; return some (← someDigits early)
  | _ => return none

/-- The exponent, if one comes next. -/
def exponentPart (early : Failure) : Reader (Option Int) := do
  match ← peek with
  | some 'e' | some 'E' =>
    advance
    match ← peek with
    | some '+' => advance; return some (ofDigits (← someDigits early))
    | some '-' => advance; return some (-(ofDigits (← someDigits early) : Int))
    | _ => return some (ofDigits (← someDigits early))
  | _ => return none

/-- A number whose sign, if any, has not been read. -/
def numeral : Reader Numeral := do
  let negative := (← peek) = some '-'
  if negative then advance
  let whole ← wholeDigits
  let fraction ← fractionPart .truncated
  let exponent ← exponentPart .truncated
  let n : Numeral := ⟨negative, whole, fraction, exponent⟩
  if n.isHuge then throw .malformed else return n

/-- Passes over any number. Its end may not be the text's end inside the number. -/
def skipNumeral : Reader Unit := do
  if (← peek) = some '-' then advance
  if (← peek).isNone then throw .malformed
  let _ ← wholeDigits
  let _ ← fractionPart .malformed
  let _ ← exponentPart .malformed

/-! ### Strings -/

/-- The code of four hexadecimal digits. The text is too short when less than four bytes are
left. -/
def hexCode : Reader Nat := fun t =>
  if (t.take 4).foldl (fun n c => n + c.utf8Size) 0 < 4 then .error .truncated
  else match (t.take 4).mapM hexValue? with
    | some [a, b, c, d] => .ok (((a * 16 + b) * 16 + c) * 16 + d, t.drop 4)
    | _ => .error .malformed

/-- The character of a simple escape. -/
def simpleEscape? : Char → Option Char
  | '"' => some '"'
  | '\\' => some '\\'
  | '/' => some '/'
  | 'b' => some '\x08'
  | 'f' => some '\x0c'
  | 'n' => some '\n'
  | 'r' => some '\r'
  | 't' => some '\t'
  | _ => none

/-- The character of an escape by code, after the letter `u`. A high surrogate has to be followed
by the escape of a low one. -/
def codeEscape : Reader Char := do
  let n ← hexCode
  if 0xdc00 ≤ n && n ≤ 0xdfff then throw .malformed
  else if 0xd800 ≤ n && n ≤ 0xdbff then
    if (← next) ≠ '\\' then throw .malformed
    if (← next) ≠ 'u' then throw .malformed
    let m ← hexCode
    if m < 0xdc00 || 0xdfff < m then throw .malformed
    return Char.ofNat (0x10000 + (n - 0xd800) * 0x400 + (m - 0xdc00))
  else return Char.ofNat n

/-- The characters up to the closing quote. `fuel` bounds their number, and `done` holds those
that were read, in reverse. -/
def stringRest : (fuel : Nat) → (done : List Char) → Reader (List Char)
  | 0, _ => throw .truncated
  | fuel + 1, done => do
    let c ← next
    if c = '"' then return done.reverse
    else if c = '\\' then
      let e ← next
      if e = 'u' then stringRest fuel ((← codeEscape) :: done)
      else match simpleEscape? e with
        | some d => stringRest fuel (d :: done)
        | none => throw .malformed
    else if c.toNat < 0x20 then throw .malformed
    else stringRest fuel (c :: done)

/-- The characters of a string whose opening quote has been read. -/
def finishString : Reader (List Char) := fun t => stringRest (t.length + 1) [] t

/-- Passes over the characters up to the closing quote. Codes may be any. -/
def skipStringRest : (fuel : Nat) → Reader Unit
  | 0 => throw .truncated
  | fuel + 1 => do
    let c ← next
    if c = '"' then return ()
    else if c = '\\' then
      let e ← next
      if e = 'u' then
        let _ ← hexCode
        skipStringRest fuel
      else if (simpleEscape? e).isSome then skipStringRest fuel
      else throw .malformed
    else if c.toNat < 0x20 then throw .malformed
    else skipStringRest fuel

/-- Passes over a string whose opening quote has been read. -/
def skipString : Reader Unit := fun t => skipStringRest (t.length + 1) t

/-! ### Any value -/

/-- A bracket that is open. -/
inductive Bracket where
  | list
  | object
  deriving DecidableEq, Repr

/-- The character that closes a bracket. -/
def Bracket.close : Bracket → Char
  | list => ']'
  | object => '\x7d'

/-- What may come next while values are passed over. -/
inductive Expectation where
  /-- A value. -/
  | value
  /-- The first element of the innermost bracket, or its end. -/
  | element
  /-- A comma, or the end of the innermost bracket. -/
  | separator
  deriving DecidableEq, Repr

/-- Passes over the key of a member and the colon after it. -/
def skipKey : Reader Unit := do
  match ← peekToken with
  | some '"' => advance
  | some _ => throw .malformed
  | none => throw .truncated
  skipString
  match ← peekToken with
  | some ':' => advance
  | some _ => throw .malformed
  | none => throw .truncated

/-- Passes over what stands before a value in a bracket. -/
def Bracket.enter : Bracket → Reader Unit
  | list => pure ()
  | object => skipKey

/-- Passes over a value that is no bracket and whose first character comes next. -/
def skipSimple (c : Char) : Reader Unit := do
  if c = 'n' then do advance; finishWord ['u', 'l', 'l']
  else if c = 't' then do advance; finishWord ['r', 'u', 'e']
  else if c = 'f' then do advance; finishWord ['a', 'l', 's', 'e']
  else if c = '"' then do advance; skipString
  else if c = '-' || isDigit c then skipNumeral
  else throw .malformed

/-- Passes over values until every open bracket is closed. -/
def skipFrom : (fuel : Nat) → Expectation → List Bracket → Reader Unit
  | 0, _, _ => throw .truncated
  | fuel + 1, .value, open_ => do
    match ← peekToken with
    | none => throw .truncated
    | some '[' => advance; skipFrom fuel .element (.list :: open_)
    | some '\x7b' => advance; skipFrom fuel .element (.object :: open_)
    | some c => skipSimple c; skipFrom fuel .separator open_
  | _ + 1, .element, [] => pure ()
  | _ + 1, .separator, [] => pure ()
  | fuel + 1, .element, b :: open_ => do
    match ← peekToken with
    | none => throw .truncated
    | some c =>
      if c = b.close then do advance; skipFrom fuel .separator open_
      else do b.enter; skipFrom fuel .value (b :: open_)
  | fuel + 1, .separator, b :: open_ => do
    match ← peekToken with
    | none => throw .truncated
    | some c =>
      if c = ',' then do advance; b.enter; skipFrom fuel .value (b :: open_)
      else if c = b.close then do advance; skipFrom fuel .separator open_
      else throw .malformed

/-- Passes over any value. -/
def skip : Reader Unit := fun t => skipFrom (3 * t.length + 3) .value [] t

/-! ### Values of a type -/

/-- Fails because the value that begins with this character has another type, or because it is
malformed. -/
def mismatch {α : Type} (c : Char) : Reader α := do
  if c = 'n' then do advance; finishWord ['u', 'l', 'l']
  else if c = 't' then do advance; finishWord ['r', 'u', 'e']
  else if c = 'f' then do advance; finishWord ['a', 'l', 's', 'e']
  else if c = '"' then do advance; let _ ← finishString
  else if c = '-' || isDigit c then let _ ← numeral
  else if c ≠ '[' && c ≠ '\x7b' then throw .malformed
  throw .mismatched

/-- The first character of the value that comes next. -/
def valueStart : Reader Char := do
  match ← peekToken with
  | some c => return c
  | none => throw .truncated

/-- A natural number below a bound, written without sign, point or exponent. -/
def natural (bound : Nat) : Reader Nat := do
  let c ← valueStart
  if c = '-' || isDigit c then
    let n ← numeral
    let v := ofDigits n.whole
    if n.negative || n.fraction.isSome || n.exponent.isSome || bound ≤ v then throw .mismatched
    else return v
  else mismatch c

/-- A truth value. -/
def boolean : Reader Bool := do
  let c ← valueStart
  if c = 't' then do advance; finishWord ['r', 'u', 'e']; return true
  else if c = 'f' then do advance; finishWord ['a', 'l', 's', 'e']; return false
  else mismatch c

/-- A string. -/
def text : Reader String := do
  let c ← valueStart
  if c = '"' then do advance; return String.ofList (← finishString)
  else mismatch c

/-- A value, or nothing where `null` stands. -/
def optional {α : Type} (r : Reader α) : Reader (Option α) := do
  match ← peekToken with
  | some 'n' => advance; finishWord ['u', 'l', 'l']; return none
  | _ => return some (← r)

/-- Whether another element of a list follows. `first` holds before the first element. -/
def hasElement (first : Bool) : Reader Bool := do
  match ← peekToken with
  | none => throw .truncated
  | some ']' => return false
  | some ',' =>
    if first then return true
    else
      advance
      match ← peekToken with
      | some ']' => throw .malformed
      | some _ => return true
      | none => throw .truncated
  | some _ => if first then return true else throw .malformed

/-- Passes over the end of a list. -/
def endList : Reader Unit := do
  match ← peekToken with
  | some ']' => advance
  | some _ => throw .malformed
  | none => throw .truncated

/-- The elements up to the end of a list. -/
def elements {α : Type} (r : Reader α) : (fuel : Nat) → (first : Bool) → Reader (List α)
  | 0, _ => throw .truncated
  | fuel + 1, first => do
    if ← hasElement first then
      let a ← r
      return a :: (← elements r fuel false)
    else return []

/-- A list of values. -/
def list {α : Type} (r : Reader α) : Reader (List α) := do
  let c ← valueStart
  if c = '[' then
    advance
    let as ← fun t => elements r (t.length + 1) true t
    endList
    return as
  else mismatch c

/-- Whether another member of an object follows; its opening quote is then passed over. -/
def hasMember (first : Bool) : Reader Bool := do
  match ← peekToken with
  | none => throw .truncated
  | some '\x7d' => return false
  | some c =>
    if first then
      if c = '"' then do advance; return true else throw .malformed
    else if c = ',' then
      advance
      match ← peekToken with
      | some '"' => advance; return true
      | some _ => throw .malformed
      | none => throw .truncated
    else throw .malformed

/-- Passes over the colon after a key. -/
def colon : Reader Unit := do
  match ← peekToken with
  | some ':' => advance
  | some _ => throw .malformed
  | none => throw .truncated

/-- The whole text as one value. -/
def readAll {α : Type} (r : Reader α) (t : List Char) : Except Failure α :=
  match r t with
  | .error e => .error e
  | .ok (a, rest) => if rest.all isBlank then .ok a else .error .malformed

end TunnelRelay.Json
