import RegionDispatch.Json.Record
import RegionDispatch.Proofs.Json.Spelling

/-! # Only the known members count

An object is read as a record by the members whose keys are known. They may come in any order, with
layout anywhere and their keys spelled in any way, and between them may stand members of other keys
with any values. A field that is missing has its fallback; a known key that is repeated, or missing
without a fallback, is a mismatch.

* `Member`, `Slot` — a member as it is spelled, and what is known of a field.
* `Slot.Takes` — the value that the members give a field.
* `Draft.Holds` — the draft after some of the members.
* `MembersAhead.outcome` — the members are read one by one.
* `Codec.ReadsObjects` — codecs of records that go by the known members.
* `Codec.readsObjects_map` — the codec of the records with given fields, in any form. -/

namespace RegionDispatch.Json

/-! ## Objects and fields -/

/-- A member of an object as it is spelled. -/
structure Member where
  /-- Layout in front of the key. -/
  before : List Char
  /-- What stands between the quotes of the key. -/
  spelled : List Char
  /-- The key. -/
  key : String
  /-- Layout between the key and the colon. -/
  between : List Char
  /-- Layout between the colon and the value. -/
  gap : List Char
  /-- The text of the value. -/
  value : List Char
  /-- Layout behind the value. -/
  after : List Char
  blank_before : Blank before
  spells_key : SpellsChars spelled key.toList
  blank_between : Blank between
  blank_gap : Blank gap
  blank_after : Blank after

/-- The text of a member. -/
def Member.text (m : Member) : List Char :=
  m.before ++ '"' :: (m.spelled ++ '"' :: (m.between ++ ':' :: (m.gap ++ (m.value ++ m.after))))

/-- The text of an object with the given members. -/
def SpellsObject (text : List Char) (members : List Member) : Prop :=
  ∃ body, text = '{' :: (body ++ ['}']) ∧
    (members = [] ∧ Blank body ∨ members ≠ [] ∧ body = joinCommas (members.map Member.text))

/-- What is known of a field of the records that stand for the values of `α`. -/
structure Slot (α : Type) extends Field where
  /-- Its value. -/
  get : α → Value
  /-- How its values are spelled. -/
  Spells : List Char → Value → Prop

section

variable {α : Type} (slots : List (Slot α))

/-- The member has a value of its field, or a value of any kind if no field has its key. -/
def Member.Fits (m : Member) : Prop :=
  (∀ slot ∈ slots, m.key = slot.key → ∃ value, slot.Spells m.value value) ∧
    ((∀ slot ∈ slots, m.key ≠ slot.key) → Valid .value m.value)

/-- No field occurs twice. -/
def Once (members : List Member) : Prop :=
  members.Pairwise fun m m' => ∀ slot ∈ slots, m.key = slot.key → m'.key ≠ slot.key

/-- Every field without a fallback occurs. -/
def Complete (members : List Member) : Prop :=
  ∀ slot ∈ slots, slot.fallback = none → ∃ m ∈ members, m.key = slot.key

end

/-- The value that the members give a field: the one that is spelled out, or else its fallback. -/
def Slot.Takes {α : Type} (slot : Slot α) (members : List Member) (value : slot.Value) : Prop :=
  (∃ m ∈ members, m.key = slot.key ∧ slot.Spells m.value value) ∨
    (∀ m ∈ members, m.key ≠ slot.key) ∧ slot.fallback = some value

/-! ## The text inside an object -/

theorem joinCommas_singleton (text : List Char) : joinCommas [text] = text :=
  List.intercalate_singleton

theorem joinCommas_cons_cons (text next : List Char) (texts : List (List Char)) :
    joinCommas (text :: next :: texts) = text ++ ',' :: joinCommas (next :: texts) := by
  have step : joinCommas (text :: next :: texts) = text ++ [','] ++ joinCommas (next :: texts) :=
    List.intercalate_cons_cons
  rw [step, List.append_assoc, List.singleton_append]

/-- There is at most one text more than there are commas. -/
theorem length_le_joinCommas (texts : List (List Char)) :
    texts.length ≤ (joinCommas texts).length + 1 := by
  induction texts with
  | nil => simp
  | cons text texts ih =>
    cases texts with
    | nil => simp
    | cons next texts =>
      rw [joinCommas_cons_cons]
      simp only [List.length_append, List.length_cons] at ih ⊢
      omega

/-- The text inside an object, with the members that are still to come and the text behind it. -/
inductive MembersAhead (rest : List Char) : Bool → List Member → List Char → Prop
  | done {blank : List Char} (layout : Blank blank) (first : Bool) :
      MembersAhead rest first [] (blank ++ '}' :: rest)
  | more {first : Bool} {front : List Char} {m : Member} {members : List Member}
      (here : Front first front (joinCommas ((m :: members).map Member.text) ++ '}' :: rest)) :
      MembersAhead rest first (m :: members) front

/-- An object goes on if a key comes next. -/
theorem Front.nextKey {first : Bool} {front before text : List Char}
    (here : Front first front (before ++ '"' :: text)) (layout : Blank before) :
    nextKey first front = .ok (true, text) := by
  have ahead := skipBlank_append_cons layout (c := '"') rfl text
  cases here with
  | first => simp [Json.nextKey, ahead]
  | later layout' =>
    simp [Json.nextKey, skipBlank_append_cons layout' (c := ',') rfl, ahead]

/-- An object without further members ends. -/
theorem MembersAhead.ends {first : Bool} {front rest : List Char}
    (h : MembersAhead rest first [] front) : nextKey first front = .ok (false, rest) := by
  obtain ⟨layout, -⟩ := h
  simp only [nextKey, skipBlank_append_cons layout (c := '}') rfl]

/-- The key of the next member comes first, and the members behind it are still to come. -/
theorem MembersAhead.uncons {first : Bool} {m : Member} {members : List Member}
    {front rest : List Char} (h : MembersAhead rest first (m :: members) front) :
    ∃ behind, nextKey first front =
        .ok (true, m.spelled ++ '"' :: (m.between ++ ':' :: (m.gap ++ (m.value ++ behind)))) ∧
      Apart behind ∧ MembersAhead rest false members behind := by
  obtain - | ⟨here⟩ := h
  cases members with
  | nil =>
    rw [List.map_singleton, joinCommas_singleton, Member.text] at here
    simp only [List.append_assoc, List.cons_append] at here
    exact ⟨_, here.nextKey m.blank_before, m.blank_after.apart (apart_brace rest),
      .done m.blank_after false⟩
  | cons next members =>
    rw [List.map_cons, List.map_cons, joinCommas_cons_cons, Member.text] at here
    simp only [List.append_assoc, List.cons_append] at here
    exact ⟨_, here.nextKey m.blank_before, m.blank_after.apart (apart_comma _),
      .more (.later m.blank_after _)⟩

/-! ## The draft of a record -/

section

variable {α : Type} {slots : List (Slot α)} {seen : List Member}

/-- What a draft holds of a field: its value, if one of the members was for it. -/
def Slot.Found (slot : Slot α) (seen : List Member) : Option slot.Value → Prop
  | none => ∀ m ∈ seen, m.key ≠ slot.key
  | some value => ∃ m ∈ seen, m.key = slot.key ∧ slot.Spells m.value value

/-- The draft holds what the members seen so far say. -/
def Draft.Holds (seen : List Member) :
    (slots : List (Slot α)) → Draft (slots.map Slot.toField) → Prop
  | [], () => True
  | slot :: slots, (found, draft) => slot.Found seen found ∧ Holds seen slots draft

/-- The values of a record are those that the members give its fields. -/
def Record.Takes (members : List Member) :
    (slots : List (Slot α)) → Record (slots.map Slot.toField) → Prop
  | [], () => True
  | slot :: slots, (value, values) => slot.Takes members value ∧ Takes members slots values

theorem Draft.holds_empty :
    (slots : List (Slot α)) → (empty (slots.map Slot.toField)).Holds [] slots
  | [] => trivial
  | _ :: slots => ⟨fun _ none => absurd none List.not_mem_nil, holds_empty slots⟩

/-- A member of another key does not matter for a field. -/
theorem Slot.Found.append {slot : Slot α} {found : Option slot.Value} (h : slot.Found seen found)
    {m : Member} (other : m.key ≠ slot.key) : slot.Found (seen ++ [m]) found := by
  cases found with
  | none =>
    intro m' mem
    rw [List.mem_append, List.mem_singleton] at mem
    obtain mem | rfl := mem
    · exact h m' mem
    · exact other
  | some value =>
    obtain ⟨m', mem, rest⟩ := h
    exact ⟨m', List.mem_append_left _ mem, rest⟩

theorem Draft.Holds.append {draft : Draft (slots.map Slot.toField)}
    (h : draft.Holds seen slots) {m : Member} (other : ∀ slot ∈ slots, m.key ≠ slot.key) :
    draft.Holds (seen ++ [m]) slots := by
  induction slots with
  | nil => trivial
  | cons slot slots ih =>
    simp only [List.mem_cons, forall_eq_or_imp] at other
    exact ⟨h.1.append other.1, ih h.2 other.2⟩

/-- A key that was seen before is a mismatch. -/
theorem Draft.Holds.readMember_repeated {draft : Draft (slots.map Slot.toField)}
    (h : draft.Holds seen slots) {slot : Slot α} (mem : slot ∈ slots) {m : Member}
    (before : m ∈ seen) (same : m.key = slot.key) (text : List Char) :
    draft.readMember slot.key (slots.map Slot.toField) text = .error .mismatch := by
  induction slots with
  | nil => cases mem
  | cons head slots ih =>
    obtain ⟨found, draft⟩ := draft
    obtain ⟨here, others⟩ := h
    change readMember slot.key (head.toField :: slots.map Slot.toField) (found, draft) text = _
    by_cases key : slot.key = head.key
    · cases found with
      | none => exact absurd (same.trans key) (here m before)
      | some value => simp only [readMember, if_pos key]
    · obtain rfl | mem := List.mem_cons.mp mem
      · exact absurd rfl key
      · simp only [readMember, if_neg key, ih others mem, bind, Except.bind]

/-- A member whose key was not seen before is read. -/
theorem Draft.Holds.readMember_fresh {draft : Draft (slots.map Slot.toField)}
    (h : draft.Holds seen slots) (accepts : ∀ slot ∈ slots, slot.codec.Accepts slot.Spells)
    (distinct : slots.Pairwise fun slot slot' => slot.key ≠ slot'.key) {m : Member}
    (fits : m.Fits slots)
    (fresh : ∀ slot ∈ slots, m.key = slot.key → ∀ m' ∈ seen, m'.key ≠ slot.key)
    {rest : List Char} (apart : Apart rest) :
    ∃ after : Draft (slots.map Slot.toField), after.Holds (seen ++ [m]) slots ∧
      draft.readMember m.key (slots.map Slot.toField)
        (m.between ++ ':' :: (m.gap ++ (m.value ++ rest))) = .ok (after, rest) := by
  -- by induction on the fields: at the end no field has the key, and the value is passed over
  induction slots with
  | nil =>
    have valid := skipValue_valid m.blank_gap (fits.2 (by simp)) apart
    refine ⟨(), trivial, ?_⟩
    change readMember m.key [] () _ = _
    simp only [readMember, readColon_append m.blank_between, valid, bind, Except.bind, pure,
      Except.pure]
  | cons slot slots ih =>
    obtain ⟨found, draft⟩ := draft
    obtain ⟨here, others⟩ := h
    simp only [List.mem_cons, forall_eq_or_imp] at accepts fresh
    rw [List.pairwise_cons] at distinct
    change ∃ after : Draft (slot.toField :: slots.map Slot.toField), _ ∧
      readMember m.key (slot.toField :: slots.map Slot.toField) (found, draft) _ = _
    by_cases key : m.key = slot.key
    · obtain ⟨value, spells⟩ := fits.1 slot List.mem_cons_self key
      have read := accepts.1.read spells m.blank_gap apart
      cases found with
      | some value =>
        obtain ⟨m', mem, same, -⟩ := here
        exact absurd same (fresh.1 key m' mem)
      | none =>
        have others := others.append fun slot' mem => key.trans_ne (distinct.1 slot' mem)
        refine ⟨(some value, draft), ⟨⟨m, by simp, key, spells⟩, others⟩, ?_⟩
        simp only [readMember, if_pos key, readColon_append m.blank_between, read, bind,
          Except.bind, pure, Except.pure]
    · have fits : m.Fits slots :=
        ⟨fun slot' mem => fits.1 slot' (List.mem_cons_of_mem _ mem),
          fun unknown => fits.2 (by simpa [key] using unknown)⟩
      obtain ⟨after, holds, read⟩ := ih others accepts.2 distinct.2 fits fresh.2
      refine ⟨(found, after), ⟨here.append key, holds⟩, ?_⟩
      simp only [readMember, if_neg key, read, bind, Except.bind, pure, Except.pure]

/-- A draft that holds what all members say is finished with their values. -/
theorem Draft.Holds.finish {draft : Draft (slots.map Slot.toField)} (h : draft.Holds seen slots)
    (complete : Complete slots seen) :
    ∃ values : Record (slots.map Slot.toField), draft.finish (slots.map Slot.toField) = .ok values ∧
      values.Takes seen slots := by
  induction slots with
  | nil => exact ⟨(), rfl, trivial⟩
  | cons slot slots ih =>
    obtain ⟨found, draft⟩ := draft
    obtain ⟨here, others⟩ := h
    rw [Complete, List.forall_mem_cons] at complete
    obtain ⟨values, finished, takes⟩ := ih others complete.2
    have value : ∃ value, (found <|> slot.fallback) = some value ∧ slot.Takes seen value := by
      cases found with
      | some value => exact ⟨value, rfl, .inl here⟩
      | none =>
        cases fallback : slot.fallback with
        | some value => exact ⟨value, rfl, .inr ⟨here, fallback⟩⟩
        | none =>
          obtain ⟨m, mem, same⟩ := complete.1 fallback
          exact absurd same (here m mem)
    obtain ⟨value, eq, taken⟩ := value
    refine ⟨(value, values), ?_, taken, takes⟩
    change Draft.finish (slot.toField :: slots.map Slot.toField) (found, draft) = _
    simp only [Draft.finish, eq, finished]
    rfl

/-- A draft without a value that has no fallback is a mismatch. -/
theorem Draft.Holds.finish_mismatch {draft : Draft (slots.map Slot.toField)}
    (h : draft.Holds seen slots) (incomplete : ¬Complete slots seen) :
    draft.finish (slots.map Slot.toField) = .error .mismatch := by
  induction slots with
  | nil => exact absurd (fun _ none => absurd none List.not_mem_nil) incomplete
  | cons slot slots ih =>
    obtain ⟨found, draft⟩ := draft
    obtain ⟨here, others⟩ := h
    change Draft.finish (slot.toField :: slots.map Slot.toField) (found, draft) = _
    rw [Complete, List.forall_mem_cons, not_and_or] at incomplete
    by_cases complete : Complete slots seen
    · obtain missing := incomplete.resolve_right (not_not_intro complete)
      simp only [Classical.not_imp, not_exists, not_and] at missing
      cases found with
      | some value =>
        obtain ⟨m, mem, same, -⟩ := here
        exact absurd same (missing.2 m mem)
      | none =>
        simp only [Draft.finish, missing.1]
        rfl
    · have finished := ih others complete
      simp only [Draft.finish, finished]
      cases found <|> slot.fallback <;> rfl

/-! ## The members of an object -/

/-- What reading the members of an object comes to, with the text that is left. -/
def Outcome (slots : List (Slot α)) (members : List Member) (rest : List Char)
    (result : Except ReadError (Record (slots.map Slot.toField) × List Char)) : Prop :=
  (Once slots members ∧ Complete slots members →
    ∃ values, result = .ok (values, rest) ∧ Record.Takes members slots values) ∧
  (¬(Once slots members ∧ Complete slots members) → result = .error .mismatch)

theorem once_append_singleton {m : Member} :
    Once slots (seen ++ [m]) ↔
      Once slots seen ∧ ∀ m' ∈ seen, ∀ slot ∈ slots, m'.key = slot.key → m.key ≠ slot.key := by
  simp [Once, List.pairwise_append]

/-- The members of an object are read, if the limit allows for their number. -/
theorem MembersAhead.outcome (accepts : ∀ slot ∈ slots, slot.codec.Accepts slot.Spells)
    (distinct : slots.Pairwise fun slot slot' => slot.key ≠ slot'.key) {members : List Member}
    (fits : ∀ m ∈ members, m.Fits slots) {first : Bool} {front rest : List Char}
    (h : MembersAhead rest first members front) {draft : Draft (slots.map Slot.toField)}
    (holds : draft.Holds seen slots) (once : Once slots seen) {limit : Nat}
    (room : members.length < limit) :
    Outcome slots (seen ++ members) rest
      (readMembers (slots.map Slot.toField) limit first draft front) := by
  -- the members move one by one from those still to come to those seen
  induction members generalizing seen first front draft limit with
  | nil =>
    obtain ⟨limit, rfl⟩ := Nat.exists_eq_succ_of_ne_zero (Nat.ne_of_gt room)
    rw [List.append_nil]
    simp only [readMembers, h.ends, bind, Except.bind]
    by_cases complete : Complete slots seen
    · obtain ⟨values, finished, takes⟩ := holds.finish complete
      exact ⟨fun _ => ⟨values, by rw [finished]; rfl, takes⟩,
        fun broken => absurd ⟨once, complete⟩ broken⟩
    · exact ⟨fun whole => absurd whole.2 complete, fun _ => by rw [holds.finish_mismatch complete]⟩
  | cons m members ih =>
    obtain ⟨limit, rfl⟩ := Nat.exists_eq_succ_of_ne_zero (Nat.ne_of_gt (Nat.zero_lt_of_lt room))
    obtain ⟨behind, next, apart, more⟩ := h.uncons
    rw [List.forall_mem_cons] at fits
    have key := readString_spelled m.spells_key (m.between ++ ':' :: (m.gap ++ (m.value ++ behind)))
    simp only [readMembers, next, key, bind, Except.bind]
    by_cases fresh : ∀ slot ∈ slots, m.key = slot.key → ∀ m' ∈ seen, m'.key ≠ slot.key
    · obtain ⟨after, holds', read⟩ := holds.readMember_fresh accepts distinct fits.1 fresh apart
      have once' : Once slots (seen ++ [m]) := once_append_singleton.mpr
        ⟨once, fun m' mem slot known same key => fresh slot known key m' mem same⟩
      have others := ih fits.2 more holds' once' (Nat.lt_of_succ_lt_succ room)
      rw [List.append_assoc, List.singleton_append] at others
      simpa only [read] using others
    · push Not at fresh
      obtain ⟨slot, known, same, m', mem, same'⟩ := fresh
      have repeated := holds.readMember_repeated known mem same'
        (m.between ++ ':' :: (m.gap ++ (m.value ++ behind)))
      have twice : ¬Once slots (seen ++ m :: members) := fun once =>
        (List.pairwise_append.mp once).2.2 m' mem m List.mem_cons_self slot known same' same
      refine ⟨fun whole => absurd whole.1 twice, fun _ => ?_⟩
      simp only [same, repeated]

end

section

variable {α : Type}

/-- A codec of records that goes by the known members of an object. -/
structure Codec.ReadsObjects (codec : Codec α) (slots : List (Slot α)) : Prop where
  /-- An object in which every field without a fallback occurs, and no field twice, is read. -/
  read {text blank : List Char} (rest : List Char) {members : List Member} : Blank blank →
    SpellsObject text members → (∀ m ∈ members, m.Fits slots) →
    Once slots members → Complete slots members →
    ∃ a, codec.read (blank ++ (text ++ rest)) = .ok (a, rest) ∧
      ∀ slot ∈ slots, slot.Takes members (slot.get a)
  /-- Any other object is a mismatch. -/
  read_mismatch {text blank : List Char} (rest : List Char) {members : List Member} : Blank blank →
    SpellsObject text members → (∀ m ∈ members, m.Fits slots) →
    ¬(Once slots members ∧ Complete slots members) →
    codec.read (blank ++ (text ++ rest)) = .error .mismatch

/-- The fields of a value are the values of a record. -/
def Record.Shows (a : α) : (slots : List (Slot α)) → Record (slots.map Slot.toField) → Prop
  | [], () => True
  | slot :: slots, (value, values) => slot.get a = value ∧ Shows a slots values

theorem Record.Takes.get {a : α} {members : List Member} {slots : List (Slot α)}
    {values : Record (slots.map Slot.toField)} (takes : values.Takes members slots)
    (shown : values.Shows a slots) : ∀ slot ∈ slots, slot.Takes members (slot.get a) := by
  induction slots with
  | nil => simp
  | cons slot slots ih =>
    obtain ⟨value, values⟩ := values
    obtain ⟨rfl, shown⟩ := shown
    exact List.forall_mem_cons.mpr ⟨takes.1, ih takes.2 shown⟩

theorem SpellsObject.ahead {text : List Char} {members : List Member}
    (h : SpellsObject text members) (rest : List Char) :
    ∃ front, text ++ rest = '{' :: front ∧ MembersAhead rest true members front ∧
      members.length < front.length + 1 := by
  obtain ⟨body, rfl, ⟨rfl, layout⟩ | ⟨nonempty, rfl⟩⟩ := h
  · exact ⟨body ++ '}' :: rest, by simp, .done layout true, Nat.succ_pos _⟩
  · refine ⟨joinCommas (members.map Member.text) ++ '}' :: rest, by simp, ?_, ?_⟩
    · obtain ⟨m, others, rfl⟩ := List.exists_cons_of_ne_nil nonempty
      exact .more (.first _)
    · have := length_le_joinCommas (members.map Member.text)
      simp only [List.length_append, List.length_cons, List.length_map] at this ⊢
      omega

/-- Records go by the known members, also in another form. -/
theorem Codec.readsObjects_map {slots : List (Slot α)}
    (accepts : ∀ slot ∈ slots, slot.codec.Accepts slot.Spells)
    (distinct : slots.Pairwise fun slot slot' => slot.key ≠ slot'.key)
    {make : Record (slots.map Slot.toField) → α} {view : α → Record (slots.map Slot.toField)}
    (shown : ∀ values, Record.Shows (make values) slots values) :
    ((Codec.record (slots.map Slot.toField)).map make view).ReadsObjects slots := by
  have outcome {text blank : List Char} (rest : List Char) {members : List Member}
      (layout : Blank blank) (object : SpellsObject text members)
      (fits : ∀ m ∈ members, m.Fits slots) :
      Outcome slots members rest
        (readRecord (slots.map Slot.toField) (blank ++ (text ++ rest))) := by
    obtain ⟨front, eq, ahead, room⟩ := object.ahead rest
    have brace : isBlank '{' = false := rfl
    rw [eq, readRecord, skipBlank_append_cons layout brace]
    exact ahead.outcome accepts distinct fits (Draft.holds_empty slots) List.Pairwise.nil room
  constructor
  · intro text blank rest members layout object fits once complete
    obtain ⟨values, read, takes⟩ := (outcome rest layout object fits).1 ⟨once, complete⟩
    refine ⟨make values, ?_, takes.get (shown values)⟩
    simp only [Codec.map, Codec.record, read, bind, Except.bind, pure, Except.pure]
  · intro text blank rest members layout object fits broken
    have read := (outcome rest layout object fits).2 broken
    simp only [Codec.map, Codec.record, read, bind, Except.bind]

end

end RegionDispatch.Json
