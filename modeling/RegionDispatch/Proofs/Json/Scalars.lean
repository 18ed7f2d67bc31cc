import Mathlib.Data.List.TakeDrop
import RegionDispatch.Proofs.Json.Grammar

/-!
# Scalars are read back

A written number, truth value or string is read back as it was, whatever stands behind it, as long
as that does not go on with a number. The behaviour of a codec is summed up in `Codec.Lawful`, which
is all that the codecs of lists and records need to know of the codecs of their parts.

* `Apart` — texts that do not go on with a number.
* `Codec.Lawful` — codecs that read back what they write.
* `Codec.lawful_word32`, `Codec.lawful_word64`, `Codec.lawful_flag`, `Codec.lawful_string` — the
  scalars.
* `Codec.Lawful.map` — another form of the same data.
-/

namespace RegionDispatch.Json

/-- A text that does not go on with a number. -/
def Apart (text : List Char) : Prop :=
  ∀ c ∈ text.head?, isDigit c = false ∧ c ≠ '.' ∧ c ≠ 'e' ∧ c ≠ 'E'

@[simp] theorem apart_nil : Apart [] := by simp [Apart]

@[simp] theorem apart_comma (text : List Char) : Apart (',' :: text) := by
  simp [Apart, isDigit]

@[simp] theorem apart_bracket (text : List Char) : Apart (']' :: text) := by
  simp [Apart, isDigit]

@[simp] theorem apart_brace (text : List Char) : Apart ('}' :: text) := by
  simp [Apart, isDigit]

/-- A codec that reads back what it writes. -/
structure Codec.Lawful {α : Type} (codec : Codec α) : Prop where
  /-- A written value is read back, and its text is used up. -/
  read_write (a : α) {rest : List Char} : Apart rest →
    codec.read (codec.write a ++ rest) = .ok (a, rest)
  /-- A written value starts with neither layout nor the end of a list. -/
  opens (a : α) : ∃ c text, codec.write a = c :: text ∧ isBlank c = false ∧ c ≠ ']'

theorem exists_eq_three {α : Type} (v : Vector α 3) : ∃ a b c, v = #v[a, b, c] :=
  ⟨v[0], v[1], v[2], by ext i hi; match i, hi with | 0, _ => rfl | 1, _ => rfl | 2, _ => rfl⟩

theorem skipBlank_cons {c : Char} (h : isBlank c = false) (text : List Char) :
    skipBlank (c :: text) = c :: text := by
  simp [skipBlank, h]

/-! ## Numbers -/

theorem isDigit_of_mem_writeNatural {n : Nat} {c : Char} (h : c ∈ writeNatural n) :
    isDigit c = true := by
  have digit := Nat.isDigit_of_mem_toDigits (by decide) (by decide) h
  simpa [Char.isDigit, isDigit, Char.le_def] using digit

theorem value_writeNatural (n : Nat) : NumberToken.value (writeNatural n) = n := by
  have value := Nat.ofDigitChars_toDigits (n := n) (b := 10) (by decide) (by decide)
  rwa [Nat.ofDigitChars_eq_foldl] at value

/-- The first digit of a positive number is not zero. -/
theorem writeNatural_eq_cons {n : Nat} (h : 0 < n) :
    ∃ c digits, writeNatural n = c :: digits ∧ c ≠ '0' := by
  induction n using Nat.strongRecOn with
  | ind n ih =>
    unfold writeNatural at ih ⊢
    rw [Nat.toDigits_eq_if (by decide)]
    by_cases small : n < 10
    · exact ⟨n.digitChar, [], by rw [if_pos small], by simp; omega⟩
    · obtain ⟨c, digits, eq, nonzero⟩ := ih (n / 10) (by omega) (by omega)
      exact ⟨c, digits ++ [(n % 10).digitChar], by rw [if_neg small, eq]; rfl, nonzero⟩

/-- A text that does not go on with a digit. -/
def Stops (text : List Char) : Prop := ∀ c ∈ text.head?, isDigit c = false

theorem Apart.stops {text : List Char} (apart : Apart text) : Stops text :=
  fun c first => (apart c first).1

theorem readDigits_append {digits rest : List Char} (all : ∀ c ∈ digits, isDigit c = true)
    (stops : Stops rest) : NumberToken.readDigits (digits ++ rest) = (digits, rest) := by
  have stop : rest.takeWhile isDigit = [] ∧ rest.dropWhile isDigit = rest := by
    cases rest with
    | nil => simp
    | cons c rest => simp [stops c rfl]
  rw [NumberToken.readDigits, List.span_eq_takeWhile_dropWhile,
    List.takeWhile_append_of_pos all, List.dropWhile_append_of_pos all, stop.1, stop.2,
    List.append_nil]

theorem DigitRun.readSome {digits rest : List Char} (run : DigitRun digits) (stops : Stops rest)
    (atEnd : ReadError) :
    NumberToken.readSome atEnd (digits ++ rest) = .ok (digits, rest) := by
  obtain ⟨c, tail, rfl⟩ := List.exists_cons_of_ne_nil run.1
  rw [NumberToken.readSome, readDigits_append run.2 stops]

theorem WholeText.readWhole {digits rest : List Char} (whole : WholeText digits)
    (stops : Stops rest) (atEnd : ReadError) :
    NumberToken.readWhole atEnd (digits ++ rest) = .ok (digits, rest) := by
  simp only [NumberToken.readWhole, whole.1.readSome stops, bind, Except.bind]
  split
  · cases whole.2 _ rfl
  · rfl

theorem readFraction_of_apart {rest : List Char} (apart : Apart rest) (atEnd : ReadError) :
    NumberToken.readFraction atEnd rest = .ok (none, rest) := by
  cases rest with
  | nil => rfl
  | cons c rest => simp [NumberToken.readFraction, (apart c rfl).2.1]

theorem readExponent_of_apart {rest : List Char} (apart : Apart rest) (atEnd : ReadError) :
    NumberToken.readExponent atEnd rest = .ok (none, rest) := by
  cases rest with
  | nil => rfl
  | cons c rest => simp [NumberToken.readExponent, (apart c rfl).2.2]

/-- A number without point and exponent. -/
theorem WholeText.readToken {digits rest : List Char} (whole : WholeText digits)
    (apart : Apart rest) (atEnd : ReadError) :
    NumberToken.read atEnd (digits ++ rest) = .ok (⟨digits, none, none⟩, rest) := by
  simp only [NumberToken.read, whole.readWhole apart.stops, readFraction_of_apart apart,
    readExponent_of_apart apart, bind, Except.bind, pure, Except.pure]

theorem WholeText.opens {digits : List Char} (whole : WholeText digits) :
    ∃ c tail, digits = c :: tail ∧ isDigit c = true := by
  obtain ⟨c, tail, rfl⟩ := List.exists_cons_of_ne_nil whole.1.1
  exact ⟨c, tail, rfl, whole.1.2 c List.mem_cons_self⟩

theorem wholeText_writeNatural (n : Nat) : WholeText (writeNatural n) := by
  refine ⟨⟨Nat.toDigits_ne_nil, fun c => isDigit_of_mem_writeNatural⟩, fun rest leading => ?_⟩
  obtain rfl | pos := Nat.eq_zero_or_pos n
  · exact (List.cons.inj leading).2.symm
  · obtain ⟨c, digits, eq, nonzero⟩ := writeNatural_eq_cons pos
    exact absurd (List.cons.inj (eq.symm.trans leading)).1 nonzero

theorem ne_of_isDigit {c d : Char} (digit : isDigit c = true) (other : isDigit d = false) :
    c ≠ d := by
  rintro rfl
  simp [digit] at other

theorem isBlank_of_isDigit {c : Char} (digit : isDigit c = true) : isBlank c = false := by
  simp only [isBlank, decide_eq_false (ne_of_isDigit digit (d := ' ') rfl),
    decide_eq_false (ne_of_isDigit digit (d := '\n') rfl),
    decide_eq_false (ne_of_isDigit digit (d := '\t') rfl),
    decide_eq_false (ne_of_isDigit digit (d := '\r') rfl), Bool.or_false]

theorem WholeText.readNumber {digits rest : List Char} (whole : WholeText digits)
    (fits : NumberToken.value digits < UInt64.size) (apart : Apart rest) :
    readNumber (digits ++ rest) = .ok (some (NumberToken.value digits), rest) := by
  have token := whole.readToken apart .truncated
  have natural : NumberToken.natural? false ⟨digits, none, none⟩ =
      .ok (some (NumberToken.value digits)) := by
    simp [NumberToken.natural?, NumberToken.isPlain, NumberToken.fitsWord, fits]
  obtain ⟨c, tail, rfl, digit⟩ := whole.opens
  rw [List.cons_append] at token ⊢
  simp [Json.readNumber, ne_of_isDigit digit (d := '-') rfl, token, natural, bind, Except.bind,
    pure, Except.pure]

theorem SpellsNatural.readBelow {text rest : List Char} {n bound : Nat}
    (spells : SpellsNatural text n) (below : n < bound) (fits : n < UInt64.size)
    (apart : Apart rest) : readBelow bound (text ++ rest) = .ok (n, rest) := by
  obtain ⟨whole, rfl⟩ := spells
  have number := whole.readNumber fits apart
  obtain ⟨c, tail, rfl, digit⟩ := whole.opens
  rw [List.cons_append] at number ⊢
  simp [Json.readBelow, skipBlank_cons (isBlank_of_isDigit digit), digit, number, below, bind,
    Except.bind, pure, Except.pure]

theorem spellsNatural_writeNatural (n : Nat) : SpellsNatural (writeNatural n) n :=
  ⟨wholeText_writeNatural n, value_writeNatural n⟩

namespace Codec

theorem opens_writeNatural (n : Nat) :
    ∃ c text, writeNatural n = c :: text ∧ isBlank c = false ∧ c ≠ ']' := by
  obtain ⟨c, digits, eq, digit⟩ := (wholeText_writeNatural n).opens
  exact ⟨c, digits, eq, isBlank_of_isDigit digit, ne_of_isDigit digit rfl⟩

theorem lawful_word32 : word32.Lawful where
  read_write n rest apart := by
    have fits : n.toNat < UInt64.size := Nat.lt_trans n.toNat_lt (by decide)
    simp [word32, (spellsNatural_writeNatural n.toNat).readBelow n.toNat_lt fits apart, Except.map]
  opens n := opens_writeNatural n.toNat

theorem lawful_word64 : word64.Lawful where
  read_write n rest apart := by
    simp [word64, (spellsNatural_writeNatural n.toNat).readBelow n.toNat_lt n.toNat_lt apart,
      Except.map]
  opens n := opens_writeNatural n.toNat

theorem lawful_flag : flag.Lawful where
  read_write b rest apart := by
    cases b <;> simp [flag, readFlag, skipBlank, isBlank, readWord, Except.map]
  opens b := by
    cases b
    · exact ⟨'f', ['a', 'l', 's', 'e'], rfl, by decide, by decide⟩
    · exact ⟨'t', ['r', 'u', 'e'], rfl, by decide, by decide⟩

end Codec

/-! ## Strings -/

theorem hexValue?_hexDigit : ∀ n < 16, hexValue? (hexDigit n) = some n := by decide

/-- A control character is written by its number in four hexadecimal digits. -/
theorem readChars_control {c : Char} (control : c < ' ') (text : List Char) :
    readChars .plain ('\\' :: 'u' :: '0' :: '0' :: hexDigit (c.toNat / 16) ::
      hexDigit (c.toNat % 16) :: text) = consRead c (readChars .plain text) := by
  have small : c.toNat < 32 := control
  have zero : hexValue? '0' = some 0 := rfl
  have high := hexValue?_hexDigit (c.toNat / 16) (by omega)
  have low := hexValue?_hexDigit (c.toNat % 16) (by omega)
  have unit : 16 * (c.toNat / 16) + c.toNat % 16 = c.toNat := Nat.div_add_mod c.toNat 16
  -- a control character is no half of a surrogate pair, so its unit stands alone
  have single : finishUnit none c.toNat = .ok (.inl c) := by
    have trailing : isTrailing c.toNat = false := by simp [isTrailing]; omega
    have leading : isLeading c.toNat = false := by simp [isLeading]; omega
    simp [finishUnit, trailing, leading]
  simp [readChars, zero, high, low, unit, single]

/-- An escape of one letter. -/
theorem readChars_escape {letter c : Char} (simple : simpleEscape? letter = some c)
    (text : List Char) :
    readChars .plain ('\\' :: letter :: text) = consRead c (readChars .plain text) := by
  have other : letter ≠ 'u' := by
    rintro rfl
    cases simple
  simp [readChars, simple, other]

/-- **A character is read back** from what is written for it. -/
theorem readChars_writeChar (c : Char) (text : List Char) :
    readChars .plain (writeChar c ++ text) = consRead c (readChars .plain text) := by
  unfold writeChar
  split_ifs with quote backslash backspace feed line carriage tab control
  · exact readChars_escape (by rw [quote]; rfl) text
  · exact readChars_escape (by rw [backslash]; rfl) text
  · exact readChars_escape (by rw [backspace]; rfl) text
  · exact readChars_escape (by rw [feed]; rfl) text
  · exact readChars_escape (by rw [line]; rfl) text
  · exact readChars_escape (by rw [carriage]; rfl) text
  · exact readChars_escape (by rw [tab]; rfl) text
  · exact readChars_control control text
  · simp [readChars, quote, backslash, control]

theorem readChars_flatMap_writeChar (chars rest : List Char) :
    readChars .plain (chars.flatMap writeChar ++ '"' :: rest) = .ok (chars, rest) := by
  induction chars with
  | nil => simp [readChars]
  | cons c chars ih =>
    rw [List.flatMap_cons, List.append_assoc, readChars_writeChar, ih, consRead]

theorem readString_writeText (text : String) (rest : List Char) :
    readString (text.toList.flatMap writeChar ++ '"' :: rest) = .ok (text, rest) := by
  simp [readString, readChars_flatMap_writeChar, bind, Except.bind, pure, Except.pure]

theorem readQuoted_writeText (text : String) (rest : List Char) :
    readQuoted (writeText text ++ rest) = .ok (text, rest) := by
  have string := readString_writeText text rest
  simp [readQuoted, writeText, skipBlank, isBlank, string]

namespace Codec

theorem lawful_string : string.Lawful where
  read_write text rest _ := readQuoted_writeText text rest
  opens text := ⟨'"', _, rfl, by decide, by decide⟩

/-- Another form of the same data is read back as well. -/
theorem Lawful.map {α β : Type} {codec : Codec α} (lawful : codec.Lawful) {make : α → β}
    {view : β → α} (inverse : ∀ b, make (view b) = b) : (codec.map make view).Lawful where
  read_write b rest apart := by
    simp [Codec.map, lawful.read_write (view b) apart, inverse, bind, Except.bind, pure,
      Except.pure]
  opens b := lawful.opens (view b)

end Codec

end RegionDispatch.Json
