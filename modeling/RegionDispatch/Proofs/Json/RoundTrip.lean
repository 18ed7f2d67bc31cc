import RegionDispatch.Json.Forms
import RegionDispatch.Proofs.Json.Scalars

/-!
# Values and their texts

Launch configurations, extents, modes, architectures, masks and snapshots lose nothing when they are
written and read back. Lists and records read back what they write when their parts do; the members
of a record may even stand in another order.

* `Codec.lawful_list`, `Codec.lawful_triple` — lists of items.
* `Record.members`, `Draft.holding` — the members of a record, and the draft that holds the values
  of some of its fields.
* `Codec.lawful_record` — records with distinct keys.
* `Codec.Faithful` — values and texts determine each other.
* `codecs_faithful` — the forms that are exchanged.
-/

namespace RegionDispatch

namespace Json

theorem joinCommas_cons (text : List Char) (texts : List (List Char)) :
    joinCommas (text :: texts) = text ++ texts.flatMap (',' :: ·) := by
  induction texts generalizing text with
  | nil => simp [joinCommas]
  | cons next texts ih =>
    have step : joinCommas (text :: next :: texts) = text ++ [','] ++ joinCommas (next :: texts) :=
      List.intercalate_cons_cons
    rw [step, ih next]
    simp

/-! ## Lists -/

namespace Codec

variable {α : Type} {codec : Codec α}

theorem Lawful.nextItem_first (lawful : codec.Lawful) (a : α) (rest : List Char) :
    nextItem true (codec.write a ++ rest) = .ok (true, codec.write a ++ rest) := by
  obtain ⟨c, text, eq, solid, continues⟩ := lawful.opens a
  simp [nextItem, eq, skipBlank_cons solid]

theorem Lawful.nextItem_comma (lawful : codec.Lawful) (a : α) (rest : List Char) :
    nextItem false (',' :: (codec.write a ++ rest)) = .ok (true, codec.write a ++ rest) := by
  obtain ⟨c, text, eq, solid, continues⟩ := lawful.opens a
  have comma : isBlank ',' = false := rfl
  rw [eq, List.cons_append, nextItem, skipBlank_cons comma]
  simp [skipBlank_cons solid, continues]

/-- What stands behind an item of a written list. -/
theorem apart_items (codec : Codec α) (items : List α) (rest : List Char) :
    Apart (items.flatMap (fun a => ',' :: codec.write a) ++ ']' :: rest) := by
  cases items <;> simp

/-- The items behind the first one are read back, if the limit allows for their number. -/
theorem Lawful.readItems_false (lawful : codec.Lawful) (rest : List Char) {items : List α}
    {limit : Nat} (room : items.length < limit) :
    readItems codec.read limit false
      (items.flatMap (fun a => ',' :: codec.write a) ++ ']' :: rest) = .ok (items, rest) := by
  induction items generalizing limit with
  | nil =>
    obtain ⟨limit, rfl⟩ := Nat.exists_eq_succ_of_ne_zero (Nat.ne_of_gt room)
    simp [readItems, nextItem, endList, skipBlank, isBlank, bind, Except.bind, pure, Except.pure]
  | cons a items ih =>
    obtain ⟨limit, rfl⟩ := Nat.exists_eq_succ_of_ne_zero (Nat.ne_of_gt (Nat.zero_lt_of_lt room))
    have next := lawful.nextItem_comma a
      (items.flatMap (fun a => ',' :: codec.write a) ++ ']' :: rest)
    have item := lawful.read_write a (apart_items codec items rest)
    have others := ih (Nat.lt_of_succ_lt_succ room)
    simp [readItems, next, item, others, bind, Except.bind, pure, Except.pure]

theorem writeList_cons (write : α → List Char) (a : α) (items : List α) :
    writeList write (a :: items) =
      '[' :: (write a ++ (items.flatMap (fun a => ',' :: write a) ++ [']'])) := by
  simp [writeList, joinCommas_cons, List.flatMap_map]

/-- Every item takes a character of its own, so the length of the text is limit enough. -/
theorem length_le_flatMap (write : α → List Char) (items : List α) :
    items.length ≤ (items.flatMap fun a => ',' :: write a).length := by
  induction items with
  | nil => simp
  | cons a items ih =>
    simp only [List.flatMap_cons, List.length_cons, List.length_append]
    omega

theorem lawful_list (lawful : codec.Lawful) : (list codec).Lawful where
  read_write items rest _ := by
    cases items with
    | nil =>
      simp [list, readList, writeList, joinCommas, readItems, nextItem, endList, skipBlank, isBlank,
        bind, Except.bind, pure, Except.pure]
    | cons a items =>
      have first := lawful.nextItem_first a
        (items.flatMap (fun a => ',' :: codec.write a) ++ ']' :: rest)
      have item := lawful.read_write a (apart_items codec items rest)
      have bracket : isBlank '[' = false := rfl
      have room := length_le_flatMap codec.write items
      simp only [list, readList, writeList_cons, List.cons_append, List.append_assoc,
        List.nil_append, skipBlank_cons bracket, readItems, first, item, bind, Except.bind]
      rw [lawful.readItems_false rest (by simp only [List.length_append, List.length_cons]; omega)]
      rfl
  opens items := ⟨'[', _, rfl, by decide, by decide⟩

theorem Lawful.readItem_first (lawful : codec.Lawful) (a : α) {rest : List Char}
    (apart : Apart rest) : readItem codec.read true (codec.write a ++ rest) = .ok (a, rest) := by
  simp only [readItem, lawful.nextItem_first, lawful.read_write a apart, bind, Except.bind]

theorem Lawful.readItem_comma (lawful : codec.Lawful) (a : α) {rest : List Char}
    (apart : Apart rest) :
    readItem codec.read false (',' :: (codec.write a ++ rest)) = .ok (a, rest) := by
  simp only [readItem, lawful.nextItem_comma, lawful.read_write a apart, bind, Except.bind]

theorem lawful_triple (lawful : codec.Lawful) : (triple codec).Lawful where
  read_write v rest _ := by
    obtain ⟨a, b, c, rfl⟩ := exists_eq_three v
    have bracket : isBlank '[' = false := rfl
    have third := lawful.readItem_comma c (apart_bracket rest)
    have second := lawful.readItem_comma b (apart_comma (codec.write c ++ ']' :: rest))
    have first := lawful.readItem_first a
      (apart_comma (codec.write b ++ ',' :: (codec.write c ++ ']' :: rest)))
    have close : endList (']' :: rest) = .ok rest := rfl
    simp [triple, readTriple, writeList_cons, skipBlank_cons bracket, first, second, third, close,
      bind, Except.bind, pure, Except.pure]
  opens v := ⟨'[', _, rfl, by decide, by decide⟩

end Codec

/-! ## Records -/

/-- The members of a record: the key and the written value of every field. -/
def Record.members : (fields : List Field) → Record fields → List (String × List Char)
  | [], () => []
  | field :: fields, (value, values) =>
    (field.key, field.codec.write value) :: members fields values

/-- The text of a member. -/
def writeMember (member : String × List Char) : List Char :=
  writeText member.1 ++ ':' :: member.2

theorem writeMembers_eq_map (fields : List Field) (values : Record fields) :
    writeMembers fields values = (values.members fields).map writeMember := by
  induction fields with
  | nil => rfl
  | cons field fields ih => exact congrArg (writeMember (field.key, _) :: ·) (ih values.2)

theorem Record.map_members (fields : List Field) (values : Record fields) :
    (values.members fields).map Prod.fst = fields.map Field.key := by
  induction fields with
  | nil => rfl
  | cons field fields ih => exact congrArg (field.key :: ·) (ih values.2)

namespace Draft

/-- The draft that holds the values of the fields whose keys are in `seen`. -/
def holding (seen : List String) : (fields : List Field) → Record fields → Draft fields
  | [], () => ()
  | field :: fields, (value, values) =>
    (if field.key ∈ seen then some value else none, holding seen fields values)

theorem holding_nil (fields : List Field) (values : Record fields) :
    holding [] fields values = empty fields := by
  induction fields with
  | nil => rfl
  | cons field fields ih => exact congrArg (Prod.mk none) (ih values.2)

/-- A key that no field has does not matter. -/
theorem holding_cons_of_notMem {key : String} {seen : List String} {fields : List Field}
    (other : key ∉ fields.map Field.key) (values : Record fields) :
    holding (key :: seen) fields values = holding seen fields values := by
  induction fields with
  | nil => rfl
  | cons field fields ih =>
    simp only [List.map_cons, List.mem_cons, not_or] at other
    exact Prod.ext (if_congr (by simp [Ne.symm other.1]) rfl rfl) (ih other.2 values.2)

/-- With all keys seen the draft is complete. -/
theorem finish_holding {seen : List String} {fields : List Field}
    (all : ∀ key ∈ fields.map Field.key, key ∈ seen) (values : Record fields) :
    finish fields (holding seen fields values) = .ok values := by
  induction fields with
  | nil => rfl
  | cons field fields ih =>
    simp only [List.map_cons, List.mem_cons, forall_eq_or_imp] at all
    obtain ⟨value, values⟩ := values
    have others := ih all.2 values
    simp only [holding, finish, all.1, others, if_true]
    rfl

/-- The value of a member goes into its place, if its key was not seen before. -/
theorem readMember_holding {seen : List String} {fields : List Field}
    (lawful : ∀ field ∈ fields, field.codec.Lawful) (distinct : (fields.map Field.key).Nodup)
    {values : Record fields} {key : String} {text : List Char}
    (mem : (key, text) ∈ values.members fields) (fresh : key ∉ seen) {rest : List Char}
    (apart : Apart rest) :
    (holding seen fields values).readMember key fields (':' :: (text ++ rest)) =
      .ok (holding (key :: seen) fields values, rest) := by
  induction fields with
  | nil => cases mem
  | cons field fields ih =>
    simp only [List.map_cons, List.nodup_cons] at distinct
    simp only [List.mem_cons, forall_eq_or_imp] at lawful
    obtain ⟨value, values⟩ := values
    rw [Record.members, List.mem_cons] at mem
    have colon (text : List Char) : readColon (':' :: text) = .ok text := rfl
    by_cases same : key = field.key
    · -- the key occurs nowhere else, so the member is the one of this field
      have other : key ∉ fields.map Field.key := same ▸ distinct.1
      obtain here | later := mem
      · obtain ⟨-, rfl⟩ := Prod.mk.inj here
        subst same
        simp only [holding, readMember, if_true, fresh, if_false, colon,
          lawful.1.read_write value apart, holding_cons_of_notMem other, List.mem_cons_self,
          bind, Except.bind, pure, Except.pure]
      · exact absurd (values.map_members fields ▸ List.mem_map_of_mem later) other
    · have later := mem.resolve_left fun here => same (Prod.mk.inj here).1
      have others := ih lawful.2 distinct.2 later
      simp only [holding, readMember, same, if_false, others, List.mem_cons, Ne.symm same, false_or,
        bind, Except.bind, pure, Except.pure]

end Draft

theorem nextKey_first (member : String × List Char) (rest : List Char) :
    nextKey true (writeMember member ++ rest) =
      .ok (true, member.1.toList.flatMap writeChar ++ '"' :: (':' :: (member.2 ++ rest))) := by
  simp [nextKey, writeMember, writeText, skipBlank, isBlank]

theorem nextKey_comma (member : String × List Char) (rest : List Char) :
    nextKey false (',' :: (writeMember member ++ rest)) =
      .ok (true, member.1.toList.flatMap writeChar ++ '"' :: (':' :: (member.2 ++ rest))) := by
  simp [nextKey, writeMember, writeText, skipBlank, isBlank]

theorem nextKey_brace (first : Bool) (rest : List Char) :
    nextKey first ('}' :: rest) = .ok (false, rest) := by
  simp [nextKey, skipBlank, isBlank]

/-- What stands behind a member of a written object. -/
theorem apart_members (members : List (String × List Char)) (rest : List Char) :
    Apart (members.flatMap (fun member => ',' :: writeMember member) ++ '}' :: rest) := by
  cases members <;> simp

section

variable {fields : List Field} (lawful : ∀ field ∈ fields, field.codec.Lawful)
  (distinct : (fields.map Field.key).Nodup) {values : Record fields}

include lawful distinct

/-- One member is read, and its key counts as seen from then on. -/
theorem readMembers_member {first : Bool} {seen : List String} {member : String × List Char}
    {text rest : List Char}
    (next : nextKey first text =
      .ok (true, member.1.toList.flatMap writeChar ++ '"' :: (':' :: (member.2 ++ rest))))
    (mem : member ∈ values.members fields) (fresh : member.1 ∉ seen) (apart : Apart rest)
    (limit : Nat) :
    readMembers fields (limit + 1) first (Draft.holding seen fields values) text =
      readMembers fields limit false (Draft.holding (member.1 :: seen) fields values) rest := by
  have key := readString_writeText member.1 (':' :: (member.2 ++ rest))
  have value := Draft.readMember_holding lawful distinct mem fresh apart
  simp only [readMembers, next, key, value, bind, Except.bind]

/-- The members that are left, in any order, complete the draft of those seen so far. -/
theorem readMembers_holding {members : List (String × List Char)} {seen : List String}
    (part : members ⊆ values.members fields) (fresh : ∀ key ∈ members.map Prod.fst, key ∉ seen)
    (once : (members.map Prod.fst).Nodup)
    (all : ∀ key ∈ fields.map Field.key, key ∈ seen ∨ key ∈ members.map Prod.fst)
    {limit : Nat} (room : members.length < limit) (rest : List Char) :
    readMembers fields limit false (Draft.holding seen fields values)
      (members.flatMap (fun member => ',' :: writeMember member) ++ '}' :: rest) =
      .ok (values, rest) := by
  -- the keys move one by one from the members that are left to those seen
  induction members generalizing seen limit with
  | nil =>
    obtain ⟨limit, rfl⟩ := Nat.exists_eq_succ_of_ne_zero (Nat.ne_of_gt room)
    have complete := Draft.finish_holding (fun key h => (all key h).resolve_right (by simp)) values
    simp [readMembers, nextKey_brace, complete, bind, Except.bind, pure, Except.pure]
  | cons member members ih =>
    obtain ⟨limit, rfl⟩ := Nat.exists_eq_succ_of_ne_zero (Nat.ne_of_gt (Nat.zero_lt_of_lt room))
    simp only [List.map_cons, List.mem_cons, forall_eq_or_imp, List.nodup_cons,
      List.cons_subset] at part fresh once all
    rw [List.flatMap_cons, List.cons_append, List.cons_append, List.append_assoc,
      readMembers_member lawful distinct (nextKey_comma member _) part.1 fresh.1
        (apart_members members rest)]
    refine ih part.2 (fun key h => ?_) once.2 (fun key h => ?_) (Nat.lt_of_succ_lt_succ room)
    · have other : key ≠ member.1 := fun eq => once.1 (eq ▸ h)
      simp [other, fresh.2 key h]
    · obtain seen | rfl | left := all key h
      · exact .inl (List.mem_cons_of_mem _ seen)
      · exact .inl List.mem_cons_self
      · exact .inr left

/-- A record is read back from its members in any order. -/
theorem readRecord_of_perm {members : List (String × List Char)}
    (perm : members.Perm (values.members fields)) (rest : List Char) :
    readRecord fields ('{' :: (joinCommas (members.map writeMember) ++ '}' :: rest)) =
      .ok (values, rest) := by
  have keys : (members.map Prod.fst).Perm (fields.map Field.key) :=
    values.map_members fields ▸ perm.map Prod.fst
  have brace : isBlank '{' = false := rfl
  simp only [readRecord, skipBlank_cons brace, ← Draft.holding_nil fields values]
  cases members with
  | nil =>
    have complete : Draft.finish fields (Draft.holding [] fields values) = .ok values :=
      Draft.finish_holding (fun key h => absurd (keys.mem_iff.mpr h) (by simp)) values
    simp [joinCommas, readMembers, nextKey_brace, complete, bind, Except.bind, pure, Except.pure]
  | cons member members =>
    have once := keys.nodup_iff.mpr distinct
    simp only [List.map_cons, List.nodup_cons] at once
    have part := perm.subset
    rw [List.cons_subset] at part
    have room := Codec.length_le_flatMap writeMember members
    rw [List.map_cons, joinCommas_cons, List.append_assoc, List.flatMap_map,
      readMembers_member lawful distinct (nextKey_first member _) part.1 (by simp)
        (apart_members members rest)]
    refine readMembers_holding lawful distinct part.2 (fun key h => ?_) once.2
      (fun key h => ?_) ?_ rest
    · have other : key ≠ member.1 := fun eq => once.1 (eq ▸ h)
      simp [other]
    · simpa using keys.mem_iff.mpr h
    · simp only [List.length_append, List.length_cons]
      omega

theorem Codec.lawful_record : (Codec.record fields).Lawful where
  read_write values rest _ := by
    have text := readRecord_of_perm lawful distinct (.refl (values.members fields)) rest
    simpa [Codec.record, writeMembers_eq_map] using text
  opens values := ⟨'{', _, rfl, by decide, by decide⟩

end

/-! ## Whole texts -/

namespace Codec

variable {α : Type}

/-- The text of the value that a text stands for. -/
def rewrite (codec : Codec α) (text : String) : Except ReadError String :=
  (codec.parse text).map codec.render

/-- Nothing is lost between the values of a type and their texts. -/
structure Faithful (codec : Codec α) : Prop where
  /-- Every value is read back from its text. -/
  parse_render (a : α) : codec.parse (codec.render a) = .ok a
  /-- Different values have different texts. -/
  render_injective : Function.Injective codec.render
  /-- A text that was rewritten once is not changed by rewriting it again. -/
  rewrite_rewrite {text once : String} : codec.rewrite text = .ok once →
    codec.rewrite once = .ok once

theorem Lawful.parse_render {codec : Codec α} (lawful : codec.Lawful) (a : α) :
    codec.parse (codec.render a) = .ok a := by
  have whole := lawful.read_write a apart_nil
  rw [List.append_nil] at whole
  simp [parse, render, whole, skipBlank, bind, Except.bind, pure, Except.pure]

theorem Lawful.faithful {codec : Codec α} (lawful : codec.Lawful) : codec.Faithful where
  parse_render := lawful.parse_render
  render_injective a b same := by
    have read := lawful.parse_render a
    rw [same, lawful.parse_render b] at read
    exact (Except.ok.inj read).symm
  rewrite_rewrite {text once} rewritten := by
    rw [rewrite] at rewritten
    cases parsed : codec.parse text with
    | error e => simp [parsed, Except.map] at rewritten
    | ok a =>
      obtain rfl : codec.render a = once := by simpa [parsed, Except.map] using rewritten
      rw [rewrite, lawful.parse_render a, Except.map]

end Codec

end Json

/-! ## The forms that are exchanged -/

open Json

theorem Extent.lawful_codec : Extent.codec.Lawful := by
  have lawful : ∀ field ∈ fields, field.codec.Lawful := by
    simp [fields, Field.required, Codec.lawful_word32]
  have distinct : (fields.map Field.key).Nodup := by
    simp [fields, Field.required]
  exact (Codec.lawful_record lawful distinct).map fun _ => rfl

theorem Arch.lawful_codec : Arch.codec.Lawful := by
  have lawful : ∀ field ∈ fields, field.codec.Lawful := by
    simp [fields, Field.required, Codec.lawful_string, Codec.lawful_word32, Codec.lawful_flag]
  have distinct : (fields.map Field.key).Nodup := by
    simp [fields, Field.required]
  exact (Codec.lawful_record lawful distinct).map fun _ => rfl

theorem LaunchConfig.lawful_codec : LaunchConfig.codec.Lawful := by
  have lawful : ∀ field ∈ fields, field.codec.Lawful := by
    simp [fields, Field.required, Field.optional, Extent.lawful_codec, Codec.lawful_word32,
      Codec.lawful_flag]
  have distinct : (fields.map Field.key).Nodup := by
    simp [fields, Field.required, Field.optional]
  exact (Codec.lawful_record lawful distinct).map fun _ => rfl

theorem ExecMode.lawful_codec : ExecMode.codec.Lawful where
  read_write mode rest _ := by
    have name := readString_writeText mode.tag rest
    have tag : ofTag mode.tag = .ok mode := by cases mode <;> rfl
    simp [codec, read, writeText, skipBlank, isBlank, name, tag, bind, Except.bind, pure,
      Except.pure]
  opens mode := ⟨'"', _, rfl, by decide, by decide⟩

theorem LaneMask.lawful_codec : LaneMask.codec.Lawful :=
  Codec.lawful_word64.map fun _ => rfl

theorem Snapshot.lawful_codec : Snapshot.codec.Lawful := by
  have lawful : ∀ field ∈ fields, field.codec.Lawful := by
    simp [fields, Field.required, Field.optional, Codec.lawful_string, Codec.lawful_word32,
      Codec.lawful_word64, Codec.lawful_flag, Codec.lawful_list, Codec.lawful_triple]
  have distinct : (fields.map Field.key).Nodup := by
    simp [fields, Field.required, Field.optional]
  exact (Codec.lawful_record lawful distinct).map ofRecord_toRecord

/-- Every value that is exchanged is read back from its text as it was: different values have
different texts, and writing out what was read settles a text for good. -/
theorem codecs_faithful :
    LaunchConfig.codec.Faithful ∧ Arch.codec.Faithful ∧ Extent.codec.Faithful ∧
      ExecMode.codec.Faithful ∧ LaneMask.codec.Faithful ∧ Snapshot.codec.Faithful :=
  ⟨LaunchConfig.lawful_codec.faithful, Arch.lawful_codec.faithful, Extent.lawful_codec.faithful,
    ExecMode.lawful_codec.faithful, LaneMask.lawful_codec.faithful,
    Snapshot.lawful_codec.faithful⟩

end RegionDispatch
