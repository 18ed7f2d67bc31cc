import RegionDispatch.Json.Basic
import RegionDispatch.Number.Binary

/-!
# Numbers

The number tokens of JSON, and which naturals they stand for. Only a plain run of digits that fits a
64-bit word is a natural; every other token is a fractional number, and one whose value lies beyond
the greatest double is not accepted as a number at all.

* `NumberToken.read` — the digits of a token.
* `NumberToken.natural?` — its value as a natural.
-/

namespace RegionDispatch.Json

/-- Whether a character is a decimal digit. -/
def isDigit (c : Char) : Bool := '0' ≤ c && c ≤ '9'

/-- The value of a decimal digit. -/
def digitValue (c : Char) : Nat := c.toNat - '0'.toNat

/-- The digits of a number. -/
structure NumberToken where
  /-- Digits before the point. -/
  whole : List Char
  /-- Digits behind the point, if there is one. -/
  fraction : Option (List Char)
  /-- The exponent's sign (whether it is negative) and digits, if there is one. -/
  exponent : Option (Bool × List Char)
  deriving DecidableEq, Repr

namespace NumberToken

/-- A run of digits of any length. -/
def readDigits (text : List Char) : List Char × List Char := text.span isDigit

/-- A run of at least one digit; `atEnd` is the error where the text ends instead. -/
def readSome (atEnd : ReadError) (text : List Char) : Except ReadError (List Char × List Char) :=
  match readDigits text with
  | ([], []) => .error atEnd
  | ([], _) => .error .malformed
  | found => .ok found

/-- The digits before the point: no digit follows a leading zero. -/
def readWhole (atEnd : ReadError) (text : List Char) :
    Except ReadError (List Char × List Char) := do
  let (digits, rest) ← readSome atEnd text
  match digits with
  | '0' :: _ :: _ => throw .malformed
  | _ => return (digits, rest)

/-- The digits behind the point. -/
def readFraction (atEnd : ReadError) :
    List Char → Except ReadError (Option (List Char) × List Char)
  | '.' :: text => do
    let (digits, rest) ← readSome atEnd text
    return (some digits, rest)
  | text => .ok (none, text)

/-- The sign of an exponent: whether it is negative. -/
def readSign : List Char → Bool × List Char
  | '+' :: text => (false, text)
  | '-' :: text => (true, text)
  | text => (false, text)

/-- The exponent. -/
def readExponent (atEnd : ReadError) :
    List Char → Except ReadError (Option (Bool × List Char) × List Char)
  | [] => .ok (none, [])
  | c :: text =>
    if c = 'e' || c = 'E' then do
      let (negative, text) := readSign text
      let (digits, rest) ← readSome atEnd text
      return (some (negative, digits), rest)
    else
      .ok (none, c :: text)

/-- The token behind an optional minus sign; `atEnd` is the error where the text ends inside it. -/
def read (atEnd : ReadError) : Reader NumberToken := fun text => do
  let (whole, text) ← readWhole atEnd text
  let (fraction, text) ← readFraction atEnd text
  let (exponent, text) ← readExponent atEnd text
  return (⟨whole, fraction, exponent⟩, text)

/-- The value of a run of digits. -/
def value (digits : List Char) : Nat := digits.foldl (fun n c => 10 * n + digitValue c) 0

/-- Whether `n` fits a 64-bit word. -/
def fitsWord (n : Nat) : Bool := n < UInt64.size

/-- The leading digits whose value fits a 64-bit word, and how many digits are left over. -/
def leading (start : Nat) : List Char → Nat × Nat
  | [] => (start, 0)
  | c :: digits =>
    let next := 10 * start + digitValue c
    if fitsWord next then leading next digits else (start, digits.length + 1)

/-- The decimal exponent of a token, given the exponent the digits before it amount to. -/
def scaledExponent (token : NumberToken) (base : Int) : Int :=
  match token.exponent with
  | none => base
  | some (negative, digits) =>
    if negative then base - value digits else base + value digits

/-- Whether `significand · 10 ^ exponent` lies beyond the greatest double, when both factors and the
product are rounded to doubles. -/
def exceedsDouble (significand : Nat) (exponent : Int) : Bool :=
  significand != 0 && 0 ≤ exponent &&
    (308 < exponent ||
      (1 <<< 1024) - (1 <<< 970) ≤
        roundBits 53 significand * roundBits 53 (Nat.pow 10 exponent.toNat))

/-- Whether the value of a token lies beyond the greatest double. Digits that no longer fit a 64-bit
word only count as places before the point, and not at all behind it. -/
def isHuge (token : NumberToken) : Bool :=
  let (whole, dropped) := leading 0 token.whole
  let digits := token.fraction.getD []
  let (significand, ignored) := leading whole digits
  let places := digits.length - ignored
  exceedsDouble significand (token.scaledExponent (dropped - places))

/-- Whether the token is a plain run of digits that fits a 64-bit word. -/
def isPlain (token : NumberToken) : Bool :=
  token.fraction.isNone && token.exponent.isNone && fitsWord (value token.whole)

/-- The natural a token behind an optional minus sign stands for, if it stands for one. A minus sign
makes even zero fractional. -/
def natural? (negative : Bool) (token : NumberToken) : Except ReadError (Option Nat) :=
  if token.isPlain then
    .ok (if negative then none else some (value token.whole))
  else if token.isHuge then
    .error .malformed
  else
    .ok none

end NumberToken

/-- Reads a number that starts with a minus sign or a digit, as a natural if it is one. -/
def readNumber : Reader (Option Nat) := fun text => do
  let (negative, text) := match text with
    | '-' :: text => (true, text)
    | text => (false, text)
  let (token, rest) ← NumberToken.read .truncated text
  let n ← token.natural? negative
  return (n, rest)

/-- Passes over a number that starts with a minus sign or a digit. A number that breaks off is
malformed here, even at the end of the text. -/
def skipNumber (text : List Char) : Except ReadError (List Char) := do
  let text := match text with
    | '-' :: text => text
    | text => text
  let (_, rest) ← NumberToken.read .malformed text
  return rest

end RegionDispatch.Json
