import RegionDispatch.Proofs.Json.Skipping

/-! # Every spelling of a value is read

A value may be spelled in many ways: with layout in front of it, its strings with escapes, its lists
with layout around the items. A codec reads each of them as the same value and uses up its text and
nothing else.

* `Codec.Accepts` — codecs that read all spellings of their values.
* `Codec.accepts_word32`, `Codec.accepts_word64`, `Codec.accepts_flag`, `Codec.accepts_string` — the
  scalars.
* `Front` — the text at an entry of a list or an object.
* `Codec.accepts_list`, `Codec.accepts_triple` — lists of items. -/

namespace RegionDispatch.Json

/-- A codec that reads all spellings of its values. -/
structure Codec.Accepts {α : Type} (codec : Codec α) (Spells : List Char → α → Prop) : Prop where
  /-- A spelled value is read, and its text is used up. -/
  read {text blank rest : List Char} {a : α} : Spells text a → Blank blank → Apart rest →
    codec.read (blank ++ (text ++ rest)) = .ok (a, rest)
  /-- A spelled value starts with neither layout nor the end of a list. -/
  opens {text : List Char} {a : α} : Spells text a →
    ∃ c tail, text = c :: tail ∧ isBlank c = false ∧ c ≠ ']'

theorem Codec.Accepts.read_text {α : Type} {codec : Codec α} {Spells : List Char → α → Prop}
    (accepts : codec.Accepts Spells) {text rest : List Char} {a : α} (spells : Spells text a)
    (apart : Apart rest) : codec.read (text ++ rest) = .ok (a, rest) := by
  simpa using accepts.read spells blank_nil apart

/-! ## Scalars -/

namespace Codec

theorem readBelow_append {blank : List Char} (h : Blank blank) (bound : Nat) (text : List Char) :
    readBelow bound (blank ++ text) = readBelow bound text := by
  simp only [readBelow, skipBlank_append h]

theorem opens_spellsNatural {text : List Char} {n : Nat} (h : SpellsNatural text n) :
    ∃ c tail, text = c :: tail ∧ isBlank c = false ∧ c ≠ ']' := by
  obtain ⟨c, tail, eq, digit⟩ := h.1.opens
  exact ⟨c, tail, eq, isBlank_of_isDigit digit, ne_of_isDigit digit rfl⟩

theorem accepts_word32 : word32.Accepts SpellsWord32 where
  read {text blank rest n} spells layout apart := by
    have fits : n.toNat < UInt64.size := Nat.lt_trans n.toNat_lt (by decide)
    simp [word32, readBelow_append layout, spells.readBelow n.toNat_lt fits apart, Except.map]
  opens := opens_spellsNatural

theorem accepts_word64 : word64.Accepts SpellsWord64 where
  read {text blank rest n} spells layout apart := by
    simp [word64, readBelow_append layout, spells.readBelow n.toNat_lt n.toNat_lt apart, Except.map]
  opens := opens_spellsNatural

theorem accepts_flag : flag.Accepts SpellsFlag where
  read {text blank rest b} spells layout _ := by
    obtain rfl := spells
    cases b <;> simp [flag, readFlag, skipBlank_append_cons layout, isBlank, readWord, Except.map]
  opens {text b} spells := by
    obtain rfl := spells
    cases b
    · exact ⟨'f', ['a', 'l', 's', 'e'], rfl, by decide, by decide⟩
    · exact ⟨'t', ['r', 'u', 'e'], rfl, by decide, by decide⟩

end Codec

/-! ## Strings -/

/-- An escape of four hexadecimal digits that completes a character. -/
theorem HexUnit.readChars_char {digits : List Char} {value : Nat} (h : HexUnit digits value)
    {leading : Option Nat} {c : Char} (finished : finishUnit leading value = .ok (.inl c))
    (text : List Char) :
    readChars (.unit leading 0 0) (digits ++ text) = consRead c (readChars .plain text) := by
  obtain ⟨first, second, third, fourth⟩ := h
  simp [readChars, first, second, third, fourth, finished]

/-- An escape of four hexadecimal digits that begins a pair. -/
theorem HexUnit.readChars_pair {digits : List Char} {value : Nat} (h : HexUnit digits value)
    {leading : Option Nat} {first : Nat} (begun : finishUnit leading value = .ok (.inr first))
    (text : List Char) :
    readChars (.unit leading 0 0) (digits ++ text) = readChars (.pair first) text := by
  obtain ⟨one, two, three, four⟩ := h
  simp [readChars, one, two, three, four, begun]

/-- A string is read up to its closing quote. -/
theorem SpellsChars.readChars {text chars : List Char} (h : SpellsChars text chars)
    (rest : List Char) : readChars .plain (text ++ '"' :: rest) = .ok (chars, rest) := by
  induction h with
  | nil => simp [Json.readChars]
  | plain quote backslash shown more ih =>
    simp [Json.readChars, quote, backslash, shown, ih, consRead]
  | escape simple more ih =>
    rw [List.cons_append, List.cons_append, readChars_escape simple, ih, consRead]
  | @unit digits text chars value hex alone alone' more ih =>
    have finished : finishUnit none value = .ok (.inl (Char.ofNat value)) := by
      simp [finishUnit, alone, alone']
    simp [Json.readChars, hex.readChars_char finished, ih, consRead]
  | @pair digits digits' text chars leading trailing hex first hex' second more ih =>
    -- a unit cannot be both halves of a pair
    have other : isTrailing leading = false := by
      simp only [isLeading, isTrailing, Bool.and_eq_true, decide_eq_true_eq] at first ⊢
      simp
      omega
    have begun : finishUnit none leading = .ok (.inr leading) := by
      simp [finishUnit, other, first]
    have finished : finishUnit (some leading) trailing =
        .ok (.inl (pairChar leading trailing)) := by
      simp [finishUnit, second]
    simp [Json.readChars, hex.readChars_pair begun, hex'.readChars_char finished, ih, consRead]

theorem readString_spelled {text : List Char} {s : String} (h : SpellsChars text s.toList)
    (rest : List Char) : readString (text ++ '"' :: rest) = .ok (s, rest) := by
  simp [readString, h.readChars, bind, Except.bind, pure, Except.pure]

namespace Codec

theorem accepts_string : string.Accepts SpellsString where
  read {text blank rest s} spells layout _ := by
    obtain ⟨body, rfl, chars⟩ := spells
    rw [List.cons_append, List.append_assoc, List.singleton_append]
    simp only [string, readQuoted, skipBlank_append_cons layout (c := '"') rfl,
      readString_spelled chars]
  opens {text s} spells := by
    obtain ⟨body, rfl, -⟩ := spells
    exact ⟨'"', _, rfl, by decide, by decide⟩

end Codec

/-! ## Lists -/

/-- The text at an entry of a list or an object: the first entry stands behind the bracket, every
other one behind a comma. -/
inductive Front : Bool → List Char → List Char → Prop
  | first (text : List Char) : Front true text text
  | later {blank : List Char} (layout : Blank blank) (text : List Char) :
      Front false (blank ++ ',' :: text) text

section

variable {α : Type} {codec : Codec α} {Spells : List Char → α → Prop}

/-- A list goes on if an item comes next. -/
theorem Codec.Accepts.nextItem (accepts : codec.Accepts Spells) {first : Bool}
    {front before text rest : List Char} {a : α}
    (here : Front first front (before ++ (text ++ rest))) (layout : Blank before)
    (spells : Spells text a) :
    nextItem first front = .ok (true, text ++ rest) := by
  obtain ⟨c, tail, rfl, solid, goesOn⟩ := accepts.opens spells
  have ahead := skipBlank_append_cons layout solid (tail ++ rest)
  cases here with
  | first => simp [Json.nextItem, ahead]
  | later layout' =>
    have comma : isBlank ',' = false := rfl
    simp [Json.nextItem, skipBlank_append_cons layout' comma, ahead, goesOn]

/-- There is at most one item more than there are commas. -/
theorem SpellsItems.length_le {body : List Char} {items : List α}
    (h : SpellsItems Spells body items) : items.length ≤ body.length + 1 := by
  induction h with
  | last => simp
  | cons blank spells blank' more ih =>
    simp only [List.length_append, List.length_cons]
    omega

/-- The text inside a list, with the items that are still to come and the text behind the list. -/
inductive Ahead (Spells : List Char → α → Prop) (rest : List Char) :
    Bool → List α → List Char → Prop
  | done {blank : List Char} (layout : Blank blank) (first : Bool) :
      Ahead Spells rest first [] (blank ++ ']' :: rest)
  | more {first : Bool} {front body : List Char} {a : α} {items : List α}
      (here : Front first front (body ++ ']' :: rest))
      (spells : SpellsItems Spells body (a :: items)) :
      Ahead Spells rest first (a :: items) front

variable {first : Bool} {a : α} {items : List α} {front rest : List Char}

/-- A list without further items ends. -/
theorem Ahead.ends (h : Ahead Spells rest first [] front) :
    nextItem first front = .ok (false, ']' :: rest) ∧ endList front = .ok rest := by
  obtain ⟨layout, -⟩ := h
  simp only [nextItem, endList, skipBlank_append_cons layout (c := ']') rfl, and_self]

/-- The next item of a list is read, and the items behind it are still to come. -/
theorem Ahead.uncons (accepts : codec.Accepts Spells)
    (h : Ahead Spells rest first (a :: items) front) :
    ∃ text behind, nextItem first front = .ok (true, text) ∧ codec.read text = .ok (a, behind) ∧
      Ahead Spells rest false items behind := by
  obtain - | ⟨here, spells⟩ := h
  cases spells with
  | @last before text behind _ blank spells blank' =>
    rw [List.append_assoc, List.append_assoc] at here
    exact ⟨_, _, accepts.nextItem here blank spells,
      accepts.read_text spells (blank'.apart (apart_bracket rest)), .done blank' false⟩
  | @cons before text behind others _ _ blank spells blank' more =>
    simp only [List.append_assoc, List.cons_append] at here
    have apart := blank'.apart (apart_comma (others ++ ']' :: rest))
    refine ⟨_, _, accepts.nextItem here blank spells, accepts.read_text spells apart, ?_⟩
    -- the items behind the comma are one or more
    cases more with
    | last before spells behind => exact .more (.later blank' _) (.last before spells behind)
    | cons before spells behind more =>
      exact .more (.later blank' _) (.cons before spells behind more)

/-- The items of a list are read, if the limit allows for their number. -/
theorem Ahead.readItems (accepts : codec.Accepts Spells) (h : Ahead Spells rest first items front)
    {limit : Nat} (room : items.length < limit) :
    readItems codec.read limit first front = .ok (items, rest) := by
  induction items generalizing first front limit with
  | nil =>
    obtain ⟨limit, rfl⟩ := Nat.exists_eq_succ_of_ne_zero (Nat.ne_of_gt room)
    have close : endList (']' :: rest) = .ok rest := rfl
    simp only [Json.readItems, h.ends, close, bind, Except.bind, pure, Except.pure]
  | cons a items ih =>
    obtain ⟨limit, rfl⟩ := Nat.exists_eq_succ_of_ne_zero (Nat.ne_of_gt (Nat.zero_lt_of_lt room))
    obtain ⟨text, behind, next, item, more⟩ := h.uncons accepts
    have others := ih more (Nat.lt_of_succ_lt_succ room)
    simp only [Json.readItems, next, item, others, bind, Except.bind, pure, Except.pure]

theorem SpellsItems.ahead {body : List Char} (h : SpellsItems Spells body items)
    (rest : List Char) : Ahead Spells rest true items (body ++ ']' :: rest) := by
  cases h with
  | last blank spells blank' => exact .more (.first _) (.last blank spells blank')
  | cons blank spells blank' more => exact .more (.first _) (.cons blank spells blank' more)

theorem Codec.accepts_list (accepts : codec.Accepts Spells) :
    (list codec).Accepts (SpellsList Spells) where
  read {text blank rest items} spells layout _ := by
    have bracket : isBlank '[' = false := rfl
    obtain ⟨inner, empty, rfl, rfl⟩ | ⟨body, rfl, items⟩ := spells
    · rw [List.cons_append, List.append_assoc, List.singleton_append]
      simp only [list, readList, skipBlank_append_cons layout bracket]
      exact (Ahead.done empty true).readItems accepts (Nat.succ_pos _)
    · rw [List.cons_append, List.append_assoc, List.singleton_append]
      simp only [list, readList, skipBlank_append_cons layout bracket]
      refine (items.ahead rest).readItems accepts ?_
      have := items.length_le
      simp only [List.length_append, List.length_cons]
      omega
  opens {text items} spells := by
    obtain ⟨_, _, rfl, _⟩ | ⟨_, rfl, _⟩ := spells <;> exact ⟨'[', _, rfl, by decide, by decide⟩

theorem Ahead.readItem (accepts : codec.Accepts Spells)
    (h : Ahead Spells rest first (a :: items) front) :
    ∃ behind, readItem codec.read first front = .ok (a, behind) ∧
      Ahead Spells rest false items behind := by
  obtain ⟨text, behind, next, item, more⟩ := h.uncons accepts
  exact ⟨behind, by simp only [Json.readItem, next, item, bind, Except.bind], more⟩

theorem Codec.accepts_triple (accepts : codec.Accepts Spells) :
    (triple codec).Accepts (SpellsTriple Spells) where
  read {text blank rest v} spells layout _ := by
    obtain ⟨body, rfl, items⟩ := spells
    have bracket : isBlank '[' = false := rfl
    obtain ⟨a, b, c, rfl⟩ := exists_eq_three v
    obtain ⟨_, first, ahead⟩ := (items.ahead rest).readItem accepts
    obtain ⟨_, second, ahead⟩ := ahead.readItem accepts
    obtain ⟨_, third, ahead⟩ := ahead.readItem accepts
    rw [List.cons_append, List.append_assoc, List.singleton_append]
    simp only [triple, readTriple, skipBlank_append_cons layout bracket, first, second, third,
      ahead.ends, bind, Except.bind, pure, Except.pure]
  opens {text v} spells := by
    obtain ⟨body, rfl, -⟩ := spells
    exact ⟨'[', _, rfl, by decide, by decide⟩

end

end RegionDispatch.Json
