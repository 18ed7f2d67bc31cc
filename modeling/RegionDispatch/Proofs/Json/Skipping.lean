import Mathlib.Data.List.DropRight
import Mathlib.Logic.Relation
import RegionDispatch.Json.Skip
import RegionDispatch.Proofs.Json.Scalars

/-! # Values are passed over

A value that nobody asked for is passed over up to its end and no further, however deep it is
nested and whatever its strings contain. The walk over it takes steps that each use up some text, so
it never runs out of steps.

* `Walk.Reaches` — a walk goes on to another.
* `Valid.skips` — the walk over each part of a value.
* **`skipValue_valid`** — a valid value is passed over exactly. -/

namespace RegionDispatch.Json

/-! ## Layout -/

@[simp] theorem blank_nil : Blank [] := fun _ none => absurd none List.not_mem_nil

theorem skipBlank_append {blank : List Char} (h : Blank blank) (text : List Char) :
    skipBlank (blank ++ text) = skipBlank text :=
  List.dropWhile_append_of_pos h

@[simp] theorem skipBlank_skipBlank (text : List Char) :
    skipBlank (skipBlank text) = skipBlank text :=
  List.dropWhile_idempotent isBlank text

/-- Behind layout stands the first character that is none. -/
theorem skipBlank_append_cons {blank : List Char} (h : Blank blank) {c : Char}
    (solid : isBlank c = false) (text : List Char) :
    skipBlank (blank ++ c :: text) = c :: text := by
  rw [skipBlank_append h, skipBlank_cons solid]

theorem apart_of_isBlank {c : Char} (h : isBlank c = true) (text : List Char) :
    Apart (c :: text) := by
  simp only [isBlank, Bool.or_eq_true, decide_eq_true_eq] at h
  simp only [Apart, List.head?_cons, Option.mem_some, forall_eq']
  rcases h with ((rfl | rfl) | rfl) | rfl <;> decide

/-- Layout never goes on with a number. -/
theorem Blank.apart {blank rest : List Char} (h : Blank blank) (apart : Apart rest) :
    Apart (blank ++ rest) := by
  cases blank with
  | nil => exact apart
  | cons c blank => exact apart_of_isBlank (h c List.mem_cons_self) _

theorem readColon_append {blank : List Char} (h : Blank blank) (text : List Char) :
    readColon (blank ++ ':' :: text) = .ok text := by
  simp only [readColon, skipBlank_append_cons h (c := ':') rfl]

/-! ## Numbers -/

theorem stops_cons {c : Char} (other : isDigit c = false) (text : List Char) :
    Stops (c :: text) := by
  simpa [Stops] using other

theorem ExponentText.stops {exponent rest : List Char} (h : ExponentText exponent)
    (apart : Apart rest) : Stops (exponent ++ rest) := by
  rcases h with rfl | ⟨mark, sign, digits, rfl | rfl, -, -, rfl⟩
  · exact apart.stops
  · exact stops_cons rfl _
  · exact stops_cons rfl _

theorem FractionText.stops {fraction exponent rest : List Char} (h : FractionText fraction)
    (exp : ExponentText exponent) (apart : Apart rest) :
    Stops (fraction ++ (exponent ++ rest)) := by
  rcases h with rfl | ⟨digits, -, rfl⟩
  · exact exp.stops apart
  · exact stops_cons rfl _

theorem FractionText.read {fraction exponent rest : List Char} (h : FractionText fraction)
    (exp : ExponentText exponent) (apart : Apart rest) (atEnd : ReadError) :
    ∃ found, NumberToken.readFraction atEnd (fraction ++ (exponent ++ rest)) =
      .ok (found, exponent ++ rest) := by
  rcases h with rfl | ⟨digits, run, rfl⟩
  · refine ⟨none, ?_⟩
    rcases exp with rfl | ⟨mark, sign, digits, rfl | rfl, -, -, rfl⟩
    · exact readFraction_of_apart apart atEnd
    · rfl
    · rfl
  · exact ⟨some digits, by simp [NumberToken.readFraction, run.readSome (exp.stops apart), bind,
      Except.bind, pure, Except.pure]⟩

theorem ExponentText.read {exponent rest : List Char} (h : ExponentText exponent)
    (apart : Apart rest) (atEnd : ReadError) :
    ∃ found, NumberToken.readExponent atEnd (exponent ++ rest) = .ok (found, rest) := by
  rcases h with rfl | ⟨mark, sign, digits, marked, signed, run, rfl⟩
  · exact ⟨none, readExponent_of_apart apart atEnd⟩
  · have sign_ : ∃ negative, NumberToken.readSign (sign ++ (digits ++ rest)) =
        (negative, digits ++ rest) := by
      rcases signed with rfl | rfl | rfl
      · -- the digits do not start with a sign
        obtain ⟨c, tail, rfl⟩ := List.exists_cons_of_ne_nil run.1
        have digit := run.2 c List.mem_cons_self
        refine ⟨false, ?_⟩
        rw [List.nil_append, List.cons_append]
        unfold NumberToken.readSign
        split
        · next same => cases same; cases digit
        · next same => cases same; cases digit
        · rfl
      · exact ⟨false, rfl⟩
      · exact ⟨true, rfl⟩
    obtain ⟨negative, sign_⟩ := sign_
    refine ⟨some (negative, digits), ?_⟩
    have mark_ : (mark = 'e' || mark = 'E') = true := by simpa using marked
    simp [NumberToken.readExponent, mark_, sign_, run.readSome apart.stops, bind, Except.bind,
      pure, Except.pure]

/-- A number is passed over. -/
theorem NumberText.skipNumber {text rest : List Char} (h : NumberText text) (apart : Apart rest) :
    skipNumber (text ++ rest) = .ok rest := by
  obtain ⟨signed, whole, fraction, exponent⟩ := h
  rename_i sign digits frac exp
  obtain ⟨found, fraction_⟩ := fraction.read exponent apart .malformed
  obtain ⟨found', exponent_⟩ := exponent.read apart .malformed
  have token : NumberToken.read .malformed (digits ++ (frac ++ (exp ++ rest))) =
      .ok (⟨digits, found, found'⟩, rest) := by
    simp only [NumberToken.read, whole.readWhole (fraction.stops exponent apart), fraction_,
      exponent_, bind, Except.bind, pure, Except.pure]
  obtain ⟨c, tail, rfl, digit⟩ := whole.opens
  simp only [List.append_assoc]
  rcases signed with rfl | rfl
  · simp only [List.nil_append, List.cons_append] at token ⊢
    simp [Json.skipNumber, ne_of_isDigit digit (d := '-') rfl, token, bind, Except.bind, pure,
      Except.pure]
  · simp only [List.cons_append, List.nil_append] at token ⊢
    simp [Json.skipNumber, token, bind, Except.bind, pure, Except.pure]

/-- A number starts with a minus sign or a digit. -/
theorem NumberText.opens {text : List Char} (h : NumberText text) :
    ∃ c tail, text = c :: tail ∧ (c = '-' ∨ isDigit c = true) := by
  obtain ⟨rfl | rfl, whole, -, -⟩ := h
  · obtain ⟨c, tail, rfl, digit⟩ := whole.opens
    exact ⟨c, _, rfl, .inr digit⟩
  · exact ⟨'-', _, rfl, .inl rfl⟩

/-! ## Strings -/

theorem HexUnit.skipChars {digits : List Char} {value : Nat} (h : HexUnit digits value)
    (rest : List Char) : skipChars (.unit 0) (digits ++ rest) = skipChars .plain rest := by
  obtain ⟨first, second, third, fourth⟩ := h
  simp [Json.skipChars, first, second, third, fourth]

/-- A string is passed over up to its closing quote. -/
theorem StringText.skipChars {text : List Char} (h : StringText text) (rest : List Char) :
    skipChars .plain (text ++ '"' :: rest) = .ok rest := by
  induction h with
  | nil => simp [Json.skipChars]
  | plain quote backslash shown more ih => simpa [Json.skipChars, quote, backslash, shown] using ih
  | @escape letter text simple more ih =>
    have other : letter ≠ 'u' := by
      rintro rfl
      cases simple
    simpa [Json.skipChars, other, simple] using ih
  | unit hex more ih =>
    rw [List.cons_append, List.cons_append, List.append_assoc]
    simpa [Json.skipChars, hex.skipChars] using ih

/-! ## The walk -/

namespace Walk

/-- One step of a walk, which uses up some text. -/
def Passes (walk next : Walk) : Prop :=
  skipStep walk = .ok next ∧ next.text.length < walk.text.length

/-- A walk goes on to another one. -/
def Reaches : Walk → Walk → Prop := Relation.ReflTransGen Passes

/-- A walk that has reached its end is at its end. -/
theorem not_passes_closed {text : List Char} {next : Walk} :
    ¬Passes ⟨.closed, [], text⟩ next := by
  rintro ⟨step, shorter⟩
  cases step
  exact Nat.lt_irrefl _ shorter

end Walk

open Walk

/-- The text allows for all steps to its end. -/
theorem skipSteps_of_reaches {walk : Walk} {rest : List Char}
    (reaches : walk.Reaches ⟨.closed, [], rest⟩) :
    ∀ {steps : Nat}, walk.text.length ≤ steps → skipSteps steps walk = .ok rest := by
  -- by induction from the end of the walk; a step uses up text, so one step is left for it
  induction reaches using Relation.ReflTransGen.head_induction_on with
  | refl => exact fun _ => skipSteps_closed _ _
  | @head walk next passes _ ih =>
    intro steps room
    obtain ⟨step, shorter⟩ := passes
    obtain ⟨steps, rfl⟩ := Nat.exists_eq_succ_of_ne_zero (n := steps) (by omega)
    have unfinished : skipSteps (steps + 1) walk = skipSteps steps next := by
      obtain ⟨place, brackets, text⟩ := walk
      cases place <;> cases brackets <;> simp only [skipSteps, step]
      exact absurd ⟨step, shorter⟩ not_passes_closed
    rw [unfinished]
    exact ih (by omega)

theorem skipScalar_append {blank : List Char} (h : Blank blank) (brackets : List Bracket)
    (text : List Char) : skipScalar brackets (blank ++ text) = skipScalar brackets text := by
  simp only [skipScalar, skipBlank_append h]

theorem skipKey_append {blank : List Char} (h : Blank blank) (brackets : List Bracket)
    (text : List Char) : skipKey brackets (blank ++ text) = skipKey brackets text := by
  simp only [skipKey, skipBlank_append h]

/-- How the walk goes over a part of a value, with what stands in front of it and behind it. -/
def Skips : Part → List Char → Prop
  | .value, text => ∀ (brackets : List Bracket) {blank rest : List Char}, Blank blank → Apart rest →
      Reaches ⟨.value, brackets, blank ++ (text ++ rest)⟩ ⟨.closed, brackets, rest⟩
  | .item, text => ∀ (brackets : List Bracket) {rest : List Char}, Apart rest →
      ∃ behind, Blank behind ∧
        Reaches ⟨.value, brackets, text ++ rest⟩ ⟨.closed, brackets, behind ++ rest⟩
  | .items, text => ∀ (brackets : List Bracket) (rest : List Char),
      Reaches ⟨.value, .list :: brackets, text ++ ']' :: rest⟩ ⟨.closed, brackets, rest⟩
  | .member, text => ∀ (brackets : List Bracket) {rest : List Char}, Apart rest →
      ∃ walk behind, skipKey brackets (text ++ rest) = .ok walk ∧
        walk.text.length < (text ++ rest).length ∧ Blank behind ∧
        Reaches walk ⟨.closed, brackets, behind ++ rest⟩
  | .members, text => ∀ (brackets : List Bracket) (rest : List Char),
      ∃ walk, skipKey (.object :: brackets) (text ++ '}' :: rest) = .ok walk ∧
        walk.text.length < (text ++ '}' :: rest).length ∧
        Reaches walk ⟨.closed, brackets, rest⟩

/-- A value that is passed over in one step. -/
theorem skips_of_skipScalar {text : List Char} (nonempty : text ≠ [])
    (step : ∀ (brackets : List Bracket) {rest : List Char}, Apart rest →
      skipScalar brackets (text ++ rest) = .ok ⟨.closed, brackets, rest⟩) :
    Skips .value text := by
  intro brackets blank rest layout apart
  refine .single ⟨(skipScalar_append layout brackets _).trans (step brackets apart), ?_⟩
  have := List.length_pos_iff.mpr nonempty
  simp only [List.length_append]
  omega

theorem NumberText.skips {text : List Char} (h : NumberText text) : Skips .value text := by
  obtain ⟨c, tail, rfl, first⟩ := h.opens
  refine skips_of_skipScalar (List.cons_ne_nil _ _) fun brackets rest apart => ?_
  have number := h.skipNumber apart
  have solid : isBlank c = false := by
    rcases first with rfl | digit
    · rfl
    · exact isBlank_of_isDigit digit
  have other {d : Char} (h : isDigit d = false) (h' : d ≠ '-') : c ≠ d := by
    rcases first with rfl | digit
    · exact h'.symm
    · exact ne_of_isDigit digit h
  rw [List.cons_append] at number ⊢
  unfold skipScalar
  rw [skipBlank_cons solid]
  split
  case h_1 same => cases same
  case h_8 c' rest' _ _ _ _ _ _ same =>
    obtain ⟨rfl, rfl⟩ := List.cons.inj same
    have known : (c = '-' || isDigit c) = true := by simpa using first
    rw [if_pos known, number, Except.map]
  -- a bracket, a quote or the first letter of a word is neither a digit nor a minus sign
  all_goals next same => exact absurd (List.cons.inj same).1 (other rfl (by decide))

theorem StringText.skips {text : List Char} (h : StringText text) :
    Skips .value ('"' :: (text ++ ['"'])) := by
  refine skips_of_skipScalar (List.cons_ne_nil _ _) fun brackets rest _ => ?_
  have quote : isBlank '"' = false := rfl
  rw [List.cons_append, List.append_assoc, List.singleton_append]
  simp only [skipScalar, skipBlank_cons quote, h.skipChars rest, Except.map]

/-! ## Lists and objects -/

/-- The character that opens a bracket. -/
def Bracket.opening : Bracket → Char
  | list => '['
  | object => '{'

/-- The character that closes it. -/
def Bracket.closing : Bracket → Char
  | list => ']'
  | object => '}'

namespace Walk

variable {brackets : List Bracket} {blank text : List Char} {next : Walk}

/-- An opening bracket. -/
theorem passes_open (bracket : Bracket) (layout : Blank blank) :
    Passes ⟨.value, brackets, blank ++ bracket.opening :: text⟩
      ⟨.opened, bracket :: brackets, text⟩ := by
  refine ⟨(skipScalar_append layout _ _).trans ?_, ?_⟩
  · cases bracket <;> rfl
  · simp only [List.length_append, List.length_cons]
    omega

/-- A closing bracket, which may stand where an entry has been or would be the first. -/
theorem passes_close (bracket : Bracket) (layout : Blank blank) {place : Place}
    (h : place ≠ .value) :
    Passes ⟨place, bracket :: brackets, blank ++ bracket.closing :: text⟩
      ⟨.closed, brackets, text⟩ := by
  refine ⟨?_, by simp only [List.length_append, List.length_cons]; omega⟩
  have close : skipBlank (blank ++ bracket.closing :: text) = bracket.closing :: text :=
    skipBlank_append_cons layout (by cases bracket <;> rfl) _
  cases place with
  | value => contradiction
  | opened => cases bracket <;> simp only [skipStep, close] <;> rfl
  | closed => cases bracket <;> simp only [skipStep, close] <;> rfl

/-- A list that goes on has an item next. -/
theorem passes_nextItem (layout : Blank blank) :
    Passes ⟨.closed, .list :: brackets, blank ++ ',' :: text⟩
      ⟨.value, .list :: brackets, text⟩ := by
  have comma : skipBlank (blank ++ ',' :: text) = ',' :: text := skipBlank_append_cons layout rfl _
  refine ⟨by simp only [skipStep, comma], ?_⟩
  simp only [List.length_append, List.length_cons]
  omega

/-- The first item of a list is passed over as any other value. -/
theorem Passes.firstItem {c : Char} (layout : Blank blank) (solid : isBlank c = false)
    (goesOn : c ≠ ']') (h : Passes ⟨.value, .list :: brackets, blank ++ c :: text⟩ next) :
    Passes ⟨.opened, .list :: brackets, blank ++ c :: text⟩ next := by
  have first : skipStep ⟨.opened, .list :: brackets, blank ++ c :: text⟩ =
      skipScalar (.list :: brackets) (c :: text) := by
    unfold skipStep
    simp only [skipBlank_append_cons layout solid]
    split
    · next same => exact absurd (List.cons.inj same).1 goesOn
    · rfl
  exact ⟨(first.trans (skipScalar_append layout _ _).symm).trans h.1, h.2⟩

/-- An object that goes on has a member next. -/
theorem passes_nextMember (layout : Blank blank)
    (key : skipKey (.object :: brackets) text = .ok next)
    (shorter : next.text.length < text.length) :
    Passes ⟨.closed, .object :: brackets, blank ++ ',' :: text⟩ next := by
  have comma : skipBlank (blank ++ ',' :: text) = ',' :: text := skipBlank_append_cons layout rfl _
  refine ⟨by simp only [skipStep, comma, key], ?_⟩
  simp only [List.length_append, List.length_cons]
  omega

theorem passes_firstMember (key : skipKey (.object :: brackets) text = .ok next)
    (shorter : next.text.length < text.length) :
    Passes ⟨.opened, .object :: brackets, text⟩ next := by
  refine ⟨?_, shorter⟩
  unfold skipStep
  simp only
  split
  · next rest close =>
    -- a closing brace is no key
    rw [skipKey, close] at key
    cases key
  · simpa only [skipKey, skipBlank_skipBlank] using key

end Walk

/-- A value starts with neither layout nor the end of a list. -/
theorem Valid.opens {text : List Char} (h : Valid .value text) :
    ∃ c tail, text = c :: tail ∧ isBlank c = false ∧ c ≠ ']' := by
  cases h with
  | number digits =>
    obtain ⟨c, tail, rfl, rfl | digit⟩ := digits.opens
    · exact ⟨'-', tail, rfl, by decide, by decide⟩
    · exact ⟨c, tail, rfl, isBlank_of_isDigit digit, ne_of_isDigit digit rfl⟩
  | _ => exact ⟨_, _, rfl, by decide, by decide⟩

theorem Valid.items_opens {text : List Char} (h : Valid .items text) :
    ∃ before c tail, text = before ++ c :: tail ∧ Blank before ∧ isBlank c = false ∧ c ≠ ']' := by
  have first {text : List Char} (h : Valid .item text) : ∃ before c tail,
      text = before ++ c :: tail ∧ Blank before ∧ isBlank c = false ∧ c ≠ ']' := by
    cases h with
    | @item before _ behind blank value _ =>
      obtain ⟨c, tail, rfl, solid, goesOn⟩ := value.opens
      exact ⟨before, c, tail ++ behind, rfl, blank, solid, goesOn⟩
  cases h with
  | lastItem item => exact first item
  | @consItem text others item _ =>
    obtain ⟨before, c, tail, rfl, rest⟩ := first item
    exact ⟨before, c, tail ++ ',' :: others, by simp, rest⟩

/-- An empty list or object. -/
theorem skips_empty (bracket : Bracket) {text : List Char} (blank : Blank text) :
    Skips .value (bracket.opening :: (text ++ [bracket.closing])) := by
  intro brackets before rest layout _
  rw [List.cons_append, List.append_assoc, List.singleton_append]
  exact .head (passes_open bracket layout) (.single (passes_close bracket blank (by decide)))

/-- A list with items. -/
theorem skips_list {text : List Char} (items : Valid .items text) (skips : Skips .items text) :
    Skips .value ('[' :: (text ++ [']'])) := by
  intro brackets before rest layout _
  rw [List.cons_append, List.append_assoc, List.singleton_append]
  refine .head (passes_open .list layout) ?_
  obtain ⟨front, c, tail, rfl, blank, solid, goesOn⟩ := items.items_opens
  rw [List.append_assoc, List.cons_append]
  -- behind the bracket the walk does what it does where a value has to come
  obtain same | ⟨next, passes, more⟩ := (skips brackets rest).cases_head
  · cases same
  · rw [List.append_assoc, List.cons_append] at passes
    exact .head (passes.firstItem blank solid goesOn) more

/-- **The walk over each part of a value.** -/
theorem Valid.skips {part : Part} {text : List Char} (h : Valid part text) : Skips part text := by
  -- by induction on the grammar; the open brackets and the text behind the part are any
  induction h with
  | null => exact skips_of_skipScalar (List.cons_ne_nil _ _) fun brackets rest _ => rfl
  | yes => exact skips_of_skipScalar (List.cons_ne_nil _ _) fun brackets rest _ => rfl
  | no => exact skips_of_skipScalar (List.cons_ne_nil _ _) fun brackets rest _ => rfl
  | number digits => exact digits.skips
  | string chars => exact chars.skips
  | emptyList blank => exact skips_empty .list blank
  | list items ih => exact skips_list items ih
  | emptyObject blank => exact skips_empty .object blank
  | object members ih =>
    intro brackets before rest layout _
    rw [List.cons_append, List.append_assoc, List.singleton_append]
    obtain ⟨walk, key, shorter, more⟩ := ih brackets rest
    exact .head (passes_open .object layout) (.head (passes_firstMember key shorter) more)
  | item blank value blank' ih =>
    intro brackets rest apart
    refine ⟨_, blank', ?_⟩
    simpa only [List.append_assoc] using ih brackets blank (blank'.apart apart)
  | lastItem item ih =>
    intro brackets rest
    obtain ⟨behind, blank, reaches⟩ := ih (.list :: brackets) (apart_bracket rest)
    exact reaches.tail (passes_close .list blank (by decide))
  | consItem item items ih ih' =>
    intro brackets rest
    rw [List.append_assoc, List.cons_append]
    obtain ⟨behind, blank, reaches⟩ := ih (.list :: brackets) (apart_comma _)
    exact (reaches.tail (passes_nextItem blank)).trans (ih' brackets rest)
  | @member before key behind text blank chars blank' item ih =>
    intro brackets rest apart
    obtain ⟨after, blank'', reaches⟩ := ih brackets apart
    have quote : isBlank '"' = false := rfl
    -- the key and its colon are passed over in the step that comes before the item
    refine ⟨_, after, ?_, ?_, blank'', reaches⟩
    · simp only [List.append_assoc, List.cons_append, skipKey_append blank]
      simp only [skipKey, skipBlank_cons quote, chars.skipChars, readColon_append blank', bind,
        Except.bind, pure, Except.pure]
    · simp only [List.length_append, List.length_cons]
      omega
  | lastMember member ih =>
    intro brackets rest
    obtain ⟨walk, behind, key, shorter, blank, reaches⟩ :=
      ih (.object :: brackets) (apart_brace rest)
    exact ⟨walk, key, shorter, reaches.tail (passes_close .object blank (by decide))⟩
  | consMember member members ih ih' =>
    intro brackets rest
    rw [List.append_assoc, List.cons_append]
    obtain ⟨walk, behind, key, shorter, blank, reaches⟩ := ih (.object :: brackets) (apart_comma _)
    obtain ⟨walk', key', shorter', reaches'⟩ := ih' brackets rest
    exact ⟨walk, key, shorter,
      (reaches.tail (passes_nextMember blank key' shorter')).trans reaches'⟩

/-- **A value is passed over** up to its end and no further. -/
theorem skipValue_valid {blank text rest : List Char} (layout : Blank blank)
    (valid : Valid .value text) (apart : Apart rest) :
    skipValue (blank ++ (text ++ rest)) = .ok rest :=
  skipSteps_of_reaches (valid.skips [] layout apart) (Nat.le_succ _)

end RegionDispatch.Json
