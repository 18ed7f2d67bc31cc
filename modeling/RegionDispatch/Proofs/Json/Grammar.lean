import RegionDispatch.Json.Codec

/-! # The grammar of JSON

Which texts are JSON, told apart from how they are read. A text has layout between its tokens, its
strings may be spelled with escapes, and a value may be nested to any depth.

* `Blank`, `StringText`, `NumberText`, `Valid` — texts that are in order, whatever they stand for.
* `SpellsChars` — what a string stands for: half a surrogate pair on its own stands for nothing.
* `SpellsWord32`, `SpellsWord64`, `SpellsFlag`, `SpellsString`, `SpellsList`, `SpellsTriple` — the
  texts that stand for a value of a type. -/

namespace RegionDispatch.Json

/-- Layout and nothing else. -/
def Blank (text : List Char) : Prop := ∀ c ∈ text, isBlank c = true

/-! ## Texts in order -/

/-- Four hexadecimal digits and the code unit they amount to. -/
inductive HexUnit : List Char → Nat → Prop
  | mk {a b c d : Char} {i j k l : Nat} : hexValue? a = some i → hexValue? b = some j →
      hexValue? c = some k → hexValue? d = some l →
      HexUnit [a, b, c, d] (16 * (16 * (16 * i + j) + k) + l)

/-- What may stand between the quotes of a string. -/
inductive StringText : List Char → Prop
  | nil : StringText []
  /-- A character that stands for itself. -/
  | plain {c : Char} {text : List Char} (quote : c ≠ '"') (backslash : c ≠ '\\') (shown : ¬c < ' ')
      (more : StringText text) : StringText (c :: text)
  /-- An escape of one letter. -/
  | escape {letter : Char} {text : List Char} (simple : (simpleEscape? letter).isSome)
      (more : StringText text) : StringText ('\\' :: letter :: text)
  /-- An escape of four hexadecimal digits. -/
  | unit {digits text : List Char} {value : Nat} (hex : HexUnit digits value)
      (more : StringText text) : StringText ('\\' :: 'u' :: (digits ++ text))

/-- At least one digit. -/
def DigitRun (text : List Char) : Prop := text ≠ [] ∧ ∀ c ∈ text, isDigit c = true

/-- The digits before the point: no digit follows a leading zero. -/
def WholeText (text : List Char) : Prop := DigitRun text ∧ ∀ rest, text = '0' :: rest → rest = []

/-- The digits behind the point, if there is one. -/
def FractionText (text : List Char) : Prop :=
  text = [] ∨ ∃ digits, DigitRun digits ∧ text = '.' :: digits

/-- The exponent, if there is one. -/
def ExponentText (text : List Char) : Prop :=
  text = [] ∨ ∃ mark sign digits, (mark = 'e' ∨ mark = 'E') ∧
    (sign = [] ∨ sign = ['+'] ∨ sign = ['-']) ∧ DigitRun digits ∧ text = mark :: (sign ++ digits)

/-- A number. -/
inductive NumberText : List Char → Prop
  | mk {sign whole fraction exponent : List Char} : sign = [] ∨ sign = ['-'] → WholeText whole →
      FractionText fraction → ExponentText exponent →
      NumberText (sign ++ (whole ++ (fraction ++ exponent)))

/-- The parts that values are made of. -/
inductive Part where
  /-- A value, without layout around it. -/
  | value
  /-- An item of a list: a value with layout around it. -/
  | item
  /-- The items of a list that is not empty. -/
  | items
  /-- A member of an object: a key, and an item behind the colon. -/
  | member
  /-- The members of an object that is not empty. -/
  | members

/-- The texts in order. -/
inductive Valid : Part → List Char → Prop
  | null : Valid .value ['n', 'u', 'l', 'l']
  | yes : Valid .value ['t', 'r', 'u', 'e']
  | no : Valid .value ['f', 'a', 'l', 's', 'e']
  | number {text : List Char} (digits : NumberText text) : Valid .value text
  | string {text : List Char} (chars : StringText text) : Valid .value ('"' :: (text ++ ['"']))
  | emptyList {text : List Char} (blank : Blank text) : Valid .value ('[' :: (text ++ [']']))
  | list {text : List Char} (items : Valid .items text) : Valid .value ('[' :: (text ++ [']']))
  | emptyObject {text : List Char} (blank : Blank text) : Valid .value ('{' :: (text ++ ['}']))
  | object {text : List Char} (members : Valid .members text) :
      Valid .value ('{' :: (text ++ ['}']))
  | item {before text behind : List Char} (blank : Blank before) (value : Valid .value text)
      (blank' : Blank behind) : Valid .item (before ++ (text ++ behind))
  | lastItem {text : List Char} (item : Valid .item text) : Valid .items text
  | consItem {text others : List Char} (item : Valid .item text) (items : Valid .items others) :
      Valid .items (text ++ ',' :: others)
  | member {before key behind text : List Char} (blank : Blank before) (chars : StringText key)
      (blank' : Blank behind) (item : Valid .item text) :
      Valid .member (before ++ '"' :: (key ++ '"' :: (behind ++ ':' :: text)))
  | lastMember {text : List Char} (member : Valid .member text) : Valid .members text
  | consMember {text others : List Char} (member : Valid .member text)
      (members : Valid .members others) : Valid .members (text ++ ',' :: others)

/-! ## Texts that stand for something -/

/-- What may stand between the quotes of a string, and the characters it stands for. -/
inductive SpellsChars : List Char → List Char → Prop
  | nil : SpellsChars [] []
  /-- A character that stands for itself. -/
  | plain {c : Char} {text chars : List Char} (quote : c ≠ '"') (backslash : c ≠ '\\')
      (shown : ¬c < ' ') (more : SpellsChars text chars) : SpellsChars (c :: text) (c :: chars)
  /-- An escape of one letter. -/
  | escape {letter c : Char} {text chars : List Char} (simple : simpleEscape? letter = some c)
      (more : SpellsChars text chars) : SpellsChars ('\\' :: letter :: text) (c :: chars)
  /-- A code unit that is a character of its own. -/
  | unit {digits text chars : List Char} {value : Nat} (hex : HexUnit digits value)
      (alone : isLeading value = false) (alone' : isTrailing value = false)
      (more : SpellsChars text chars) :
      SpellsChars ('\\' :: 'u' :: (digits ++ text)) (Char.ofNat value :: chars)
  /-- A pair of code units. -/
  | pair {digits digits' text chars : List Char} {leading trailing : Nat}
      (hex : HexUnit digits leading) (first : isLeading leading = true)
      (hex' : HexUnit digits' trailing) (second : isTrailing trailing = true)
      (more : SpellsChars text chars) :
      SpellsChars ('\\' :: 'u' :: (digits ++ '\\' :: 'u' :: (digits' ++ text)))
        (pairChar leading trailing :: chars)

/-- A natural: a plain run of digits. -/
def SpellsNatural (text : List Char) (n : Nat) : Prop :=
  WholeText text ∧ NumberToken.value text = n

/-- A word of 32 bits. -/
def SpellsWord32 (text : List Char) (n : UInt32) : Prop := SpellsNatural text n.toNat

/-- A word of 64 bits. -/
def SpellsWord64 (text : List Char) (n : UInt64) : Prop := SpellsNatural text n.toNat

/-- A truth value. -/
def SpellsFlag (text : List Char) (b : Bool) : Prop :=
  text = if b then ['t', 'r', 'u', 'e'] else ['f', 'a', 'l', 's', 'e']

/-- A string. -/
def SpellsString (text : List Char) (s : String) : Prop :=
  ∃ body, text = '"' :: (body ++ ['"']) ∧ SpellsChars body s.toList

section

variable {α : Type} (Spells : List Char → α → Prop)

/-- The items of a list that is not empty, with layout around them and commas between them. -/
inductive SpellsItems : List Char → List α → Prop
  | last {before text behind : List Char} {a : α} (blank : Blank before) (spells : Spells text a)
      (blank' : Blank behind) : SpellsItems (before ++ (text ++ behind)) [a]
  | cons {before text behind others : List Char} {a : α} {items : List α} (blank : Blank before)
      (spells : Spells text a) (blank' : Blank behind) (more : SpellsItems others items) :
      SpellsItems (before ++ (text ++ (behind ++ ',' :: others))) (a :: items)

/-- A list of any length. -/
def SpellsList (text : List Char) (items : List α) : Prop :=
  (∃ blank, Blank blank ∧ text = '[' :: (blank ++ [']']) ∧ items = []) ∨
    ∃ body, text = '[' :: (body ++ [']']) ∧ SpellsItems Spells body items

/-- A list of length three. -/
def SpellsTriple (text : List Char) (v : Vector α 3) : Prop :=
  ∃ body, text = '[' :: (body ++ [']']) ∧ SpellsItems Spells body v.toList

end

end RegionDispatch.Json
