import RegionDispatch.Json.Chars
import RegionDispatch.Json.Number

/-!
# Codecs

A codec reads values of one type from JSON and writes them. Reading expects exactly the type: a
value of another kind is a mismatch, once its own text up to the point where that shows is in order.
Writing leaves no blanks.

* `Codec`, `Codec.map` — codecs, and a codec for another form of the same data.
* `Codec.parse`, `Codec.render` — between values and whole texts.
* `Codec.word32`, `Codec.word64`, `Codec.flag`, `Codec.string` — scalars.
* `Codec.list`, `Codec.triple` — lists of any length, and of length three.
-/

namespace RegionDispatch.Json

/-- How values of one type are read and written. -/
structure Codec (α : Type) where
  /-- Takes a value off the front of a text. -/
  read : Reader α
  /-- The text of a value. -/
  write : α → List Char

namespace Codec

variable {α β : Type}

/-- A codec for another form of the same data. -/
def map (make : α → β) (view : β → α) (codec : Codec α) : Codec β where
  read text := do
    let (a, rest) ← codec.read text
    return (make a, rest)
  write b := codec.write (view b)

/-- The text of a value. -/
def render (codec : Codec α) (a : α) : String := String.ofList (codec.write a)

/-- The value a whole text stands for; nothing but blanks may follow it. -/
def parse (codec : Codec α) (text : String) : Except ReadError α := do
  let (a, rest) ← codec.read text.toList
  match skipBlank rest with
  | [] => return a
  | _ => throw .malformed

end Codec

/-- The error where a value of another kind than the expected one stands. Lists and objects are not
looked into. -/
def wrongKind (text : List Char) : ReadError :=
  let judge {α : Type} : Except ReadError α → ReadError
    | .ok _ => .mismatch
    | .error e => e
  match skipBlank text with
  | [] => .truncated
  | '[' :: _ => .mismatch
  | '{' :: _ => .mismatch
  | 'n' :: rest => judge (readWord ['u', 'l', 'l'] rest)
  | 't' :: rest => judge (readWord ['r', 'u', 'e'] rest)
  | 'f' :: rest => judge (readWord ['a', 'l', 's', 'e'] rest)
  | '"' :: rest => judge (readString rest)
  | c :: rest => if c = '-' || isDigit c then judge (readNumber (c :: rest)) else .malformed

/-- A number that is a natural below `bound`. -/
def readBelow (bound : Nat) : Reader Nat := fun text =>
  match skipBlank text with
  | [] => .error .truncated
  | c :: rest =>
    if c = '-' || isDigit c then do
      match ← readNumber (c :: rest) with
      | (some n, rest) => if n < bound then return (n, rest) else throw .mismatch
      | (none, _) => throw .mismatch
    else
      .error (wrongKind (c :: rest))

/-- The decimal digits of a natural. -/
def writeNatural (n : Nat) : List Char := Nat.toDigits 10 n

/-- A quoted text. -/
def readQuoted : Reader String := fun text =>
  match skipBlank text with
  | '"' :: rest => readString rest
  | rest => .error (wrongKind rest)

/-- One of the two truth values. -/
def readFlag : Reader Bool := fun text =>
  match skipBlank text with
  | 't' :: rest => (readWord ['r', 'u', 'e'] rest).map fun rest => (true, rest)
  | 'f' :: rest => (readWord ['a', 'l', 's', 'e'] rest).map fun rest => (false, rest)
  | rest => .error (wrongKind rest)

/-! ## Lists -/

/-- Whether a list goes on, and the text at its next item; `first` says that no item was read yet.
A comma is never the last thing in a list. -/
def nextItem (first : Bool) (text : List Char) : Except ReadError (Bool × List Char) :=
  match skipBlank text with
  | [] => .error .truncated
  | ']' :: rest => .ok (false, ']' :: rest)
  | c :: rest =>
    if first then .ok (true, c :: rest)
    else if c = ',' then
      match skipBlank rest with
      | [] => .error .truncated
      | ']' :: _ => .error .malformed
      | rest => .ok (true, rest)
    else .error .malformed

/-- The text behind the end of a list that has to end here. -/
def endList (text : List Char) : Except ReadError (List Char) :=
  match skipBlank text with
  | [] => .error .truncated
  | ']' :: rest => .ok rest
  | _ => .error .malformed

/-- The items of a list up to its end; every item takes at least one character, so `limit` is the
length of the text. -/
def readItems {α : Type} (item : Reader α) :
    (limit : Nat) → (first : Bool) → List Char → Except ReadError (List α × List Char)
  | 0, _, _ => .error .truncated
  | limit + 1, first, text => do
    match ← nextItem first text with
    | (false, rest) => return ([], ← endList rest)
    | (true, rest) =>
      let (a, rest) ← item rest
      let (items, rest) ← readItems item limit false rest
      return (a :: items, rest)

/-- A list of any length. -/
def readList {α : Type} (item : Reader α) : Reader (List α) := fun text =>
  match skipBlank text with
  | '[' :: rest => readItems item (rest.length + 1) true rest
  | rest => .error (wrongKind rest)

/-- The next item of a list that has to have one more. -/
def readItem {α : Type} (item : Reader α) (first : Bool) : Reader α := fun text => do
  match ← nextItem first text with
  | (false, _) => throw .mismatch
  | (true, rest) => item rest

/-- A list of three items. -/
def readTriple {α : Type} (item : Reader α) : Reader (Vector α 3) := fun text =>
  match skipBlank text with
  | '[' :: rest => do
    let (a, rest) ← readItem item true rest
    let (b, rest) ← readItem item false rest
    let (c, rest) ← readItem item false rest
    return (#v[a, b, c], ← endList rest)
  | rest => .error (wrongKind rest)

/-- Texts with commas between them. -/
def joinCommas (texts : List (List Char)) : List Char := [','].intercalate texts

/-- A list of items. -/
def writeList {α : Type} (item : α → List Char) (items : List α) : List Char :=
  '[' :: (joinCommas (items.map item) ++ [']'])

/-! ## The codecs -/

namespace Codec

/-- Words of 32 bits. -/
def word32 : Codec UInt32 where
  read text := (readBelow UInt32.size text).map fun (n, rest) => (n.toUInt32, rest)
  write n := writeNatural n.toNat

/-- Words of 64 bits. -/
def word64 : Codec UInt64 where
  read text := (readBelow UInt64.size text).map fun (n, rest) => (n.toUInt64, rest)
  write n := writeNatural n.toNat

/-- Truth values. -/
def flag : Codec Bool where
  read := readFlag
  write b := if b then ['t', 'r', 'u', 'e'] else ['f', 'a', 'l', 's', 'e']

/-- Texts. -/
def string : Codec String where
  read := readQuoted
  write := writeText

/-- Lists of any length. -/
def list {α : Type} (item : Codec α) : Codec (List α) where
  read := readList item.read
  write := writeList item.write

/-- Lists of length three. -/
def triple {α : Type} (item : Codec α) : Codec (Vector α 3) where
  read := readTriple item.read
  write v := writeList item.write v.toList

end Codec

end RegionDispatch.Json
