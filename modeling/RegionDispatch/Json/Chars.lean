import RegionDispatch.Json.Basic

/-!
# Strings

The strings of JSON: reading one behind its opening quote, passing over one, and writing one. A
string is read character by character; inside an escape the reader remembers what it has seen of it.
Code points beyond the first 65536 are escaped as a pair of surrogates, and a surrogate on its own
is not read. Passing over a string only checks its layout, so surrogates of any kind pass.

* `readChars`, `skipChars` — behind the opening quote, up to and with the closing one.
* `writeText` — the quoted text.
-/

namespace RegionDispatch.Json

/-- The value of a hexadecimal digit. -/
def hexValue? (c : Char) : Option Nat :=
  if '0' ≤ c && c ≤ '9' then some (c.toNat - '0'.toNat)
  else if 'a' ≤ c && c ≤ 'f' then some (c.toNat - 'a'.toNat + 10)
  else if 'A' ≤ c && c ≤ 'F' then some (c.toNat - 'A'.toNat + 10)
  else none

/-- The character a one-letter escape stands for. -/
def simpleEscape? : Char → Option Char
  | '"' => some '"'
  | '\\' => some '\\'
  | '/' => some '/'
  | 'b' => some '\x08'
  | 'f' => some '\x0c'
  | 'n' => some '\n'
  | 'r' => some '\r'
  | 't' => some '\t'
  | _ => none

/-- Bytes of a text. -/
def byteCount : List Char → Nat
  | [] => 0
  | c :: text => c.utf8Size + byteCount text

/-- Why a text is not accepted at a character that is no hexadecimal digit, `seen` digits into an
escape of four: fewer than four bytes left to the escape count as the end of the text. -/
def hexError (seen : Nat) (text : List Char) : ReadError :=
  if seen + byteCount text < 4 then .truncated else .malformed

/-- Whether a code unit is the first of a pair. -/
def isLeading (unit : Nat) : Bool := 0xD800 ≤ unit && unit ≤ 0xDBFF

/-- Whether a code unit is the second of a pair. -/
def isTrailing (unit : Nat) : Bool := 0xDC00 ≤ unit && unit ≤ 0xDFFF

/-- The character a pair of code units stands for. -/
def pairChar (leading trailing : Nat) : Char :=
  Char.ofNat (0x10000 + (leading - 0xD800) * 0x400 + (trailing - 0xDC00))

/-- What a reader of strings remembers between two characters. -/
inductive Pending where
  /-- Nothing: the next character stands for itself. -/
  | plain
  /-- A backslash. -/
  | escape
  /-- An escape of four hexadecimal digits: the first unit of the pair it may complete, and the
  count and value of the digits so far. -/
  | unit (leading : Option Nat) (seen value : Nat)
  /-- The first unit of a pair. -/
  | pair (leading : Nat)
  /-- The first unit of a pair and a backslash. -/
  | pairEscape (leading : Nat)
  deriving DecidableEq, Repr

/-- Adds a character in front of what was read. -/
def consRead (c : Char) :
    Except ReadError (List Char × List Char) → Except ReadError (List Char × List Char)
  | .ok (chars, rest) => .ok (c :: chars, rest)
  | .error e => .error e

/-- What a complete code unit amounts to: a character, or the first unit of a pair. -/
def finishUnit (leading : Option Nat) (unit : Nat) : Except ReadError (Char ⊕ Nat) :=
  match leading with
  | none =>
    if isTrailing unit then .error .malformed
    else if isLeading unit then .ok (.inr unit)
    else .ok (.inl (Char.ofNat unit))
  | some first => if isTrailing unit then .ok (.inl (pairChar first unit)) else .error .malformed

/-- The characters of a string up to its closing quote. -/
def readChars : Pending → List Char → Except ReadError (List Char × List Char)
  | _, [] => .error .truncated
  | .plain, c :: text =>
    if c = '"' then .ok ([], text)
    else if c = '\\' then readChars .escape text
    else if c < ' ' then .error .malformed
    else consRead c (readChars .plain text)
  | .escape, c :: text =>
    if c = 'u' then readChars (.unit none 0 0) text
    else
      match simpleEscape? c with
      | some d => consRead d (readChars .plain text)
      | none => .error .malformed
  | .unit leading seen value, c :: text =>
    match hexValue? c with
    | none => .error (hexError seen (c :: text))
    | some digit =>
      if seen < 3 then readChars (.unit leading (seen + 1) (16 * value + digit)) text
      else
        match finishUnit leading (16 * value + digit) with
        | .error e => .error e
        | .ok (.inl d) => consRead d (readChars .plain text)
        | .ok (.inr first) => readChars (.pair first) text
  | .pair leading, c :: text =>
    if c = '\\' then readChars (.pairEscape leading) text else .error .malformed
  | .pairEscape leading, c :: text =>
    if c = 'u' then readChars (.unit (some leading) 0 0) text else .error .malformed

/-- Reads a string behind its opening quote. -/
def readString : Reader String := fun text => do
  let (chars, rest) ← readChars .plain text
  return (String.ofList chars, rest)

/-- What passing over a string remembers between two characters. -/
inductive Passing where
  /-- Nothing. -/
  | plain
  /-- A backslash. -/
  | escape
  /-- So many digits of an escape of four hexadecimal digits. -/
  | unit (seen : Nat)
  deriving DecidableEq, Repr

/-- The text behind the closing quote of a string. -/
def skipChars : Passing → List Char → Except ReadError (List Char)
  | _, [] => .error .truncated
  | .plain, c :: text =>
    if c = '"' then .ok text
    else if c = '\\' then skipChars .escape text
    else if c < ' ' then .error .malformed
    else skipChars .plain text
  | .escape, c :: text =>
    if c = 'u' then skipChars (.unit 0) text
    else if (simpleEscape? c).isSome then skipChars .plain text
    else .error .malformed
  | .unit seen, c :: text =>
    match hexValue? c with
    | none => .error (hexError seen (c :: text))
    | some _ => if seen < 3 then skipChars (.unit (seen + 1)) text else skipChars .plain text

/-! ## Writing -/

/-- A lower-case hexadecimal digit. -/
def hexDigit (n : Nat) : Char := if n < 10 then Char.ofNat (48 + n) else Char.ofNat (87 + n)

/-- A character as it stands in a written string: quotes, backslashes and control characters are
escaped, everything else stands for itself. -/
def writeChar (c : Char) : List Char :=
  if c = '"' then ['\\', '"']
  else if c = '\\' then ['\\', '\\']
  else if c = '\x08' then ['\\', 'b']
  else if c = '\x0c' then ['\\', 'f']
  else if c = '\n' then ['\\', 'n']
  else if c = '\r' then ['\\', 'r']
  else if c = '\t' then ['\\', 't']
  else if c < ' ' then ['\\', 'u', '0', '0', hexDigit (c.toNat / 16), hexDigit (c.toNat % 16)]
  else [c]

/-- A text as a JSON string. -/
def writeText (text : String) : List Char :=
  '"' :: (text.toList.flatMap writeChar ++ ['"'])

end RegionDispatch.Json
