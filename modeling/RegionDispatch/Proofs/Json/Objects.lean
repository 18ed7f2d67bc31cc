import Mathlib.Data.List.Pairwise
import RegionDispatch.Json.Forms
import RegionDispatch.Proofs.Json.Members

/-! # Configurations and snapshots go by their known members

What a launch configuration, an architecture, an extent or a snapshot is read as depends on the
members of its own fields and on nothing else. The tables of the fields say what each is called,
what it is where it is missing, and how its values are spelled.

* `Extent.Spells` — an extent is spelled as an object or as a list.
* `LaunchConfig.slots`, `Arch.slots`, `Extent.slots`, `Snapshot.slots` — the fields.
* `Codec.ParsesObjects` — whole texts go by the known members.
* **`parses_objects`** — they do for each of the four forms. -/

namespace RegionDispatch

namespace Json

section

variable {α : Type}

/-- The text of an object whose members give the fields of a value. -/
def SpellsRecord (slots : List (Slot α)) (text : List Char) (a : α) : Prop :=
  ∃ members, SpellsObject text members ∧ (∀ m ∈ members, m.Fits slots) ∧ Once slots members ∧
    Complete slots members ∧ ∀ slot ∈ slots, slot.Takes members (slot.get a)

/-- A text spells one value only. -/
theorem Codec.Accepts.unique {codec : Codec α} {Spells : List Char → α → Prop}
    (accepts : codec.Accepts Spells) {text : List Char} {a b : α} (h : Spells text a)
    (h' : Spells text b) : a = b := by
  have read := accepts.read_text h apart_nil
  rw [accepts.read_text h' apart_nil] at read
  exact (Prod.mk.inj (Except.ok.inj read)).1.symm

/-- A field does not occur in two members. -/
theorem Once.unique {slots : List (Slot α)} {members : List Member} (once : Once slots members)
    {slot : Slot α} (mem : slot ∈ slots) {m m' : Member} (h : m ∈ members) (h' : m' ∈ members)
    (key : m.key = slot.key) (key' : m'.key = slot.key) : m = m' := by
  have : Std.Symm fun m m' : Member => ∀ slot ∈ slots, m.key = slot.key → m'.key ≠ slot.key :=
    ⟨fun _ _ apart slot mem key' key => apart slot mem key key'⟩
  by_contra other
  exact List.Pairwise.forall once h h' other slot mem key key'

/-- Members without repetitions give a field one value only. -/
theorem Slot.Takes.unique {slots : List (Slot α)} {slot : Slot α} (mem : slot ∈ slots)
    (accepts : slot.codec.Accepts slot.Spells) {members : List Member} (once : Once slots members)
    {value value' : slot.Value} (h : slot.Takes members value) (h' : slot.Takes members value') :
    value = value' := by
  obtain ⟨m, m_mem, key, spells⟩ | ⟨absent, fallback⟩ := h
  · obtain ⟨m', m'_mem, key', spells'⟩ | ⟨absent', -⟩ := h'
    · obtain rfl := once.unique mem m_mem m'_mem key key'
      exact accepts.unique spells spells'
    · exact absurd key (absent' m m_mem)
  · obtain ⟨m', m'_mem, key', -⟩ | ⟨-, fallback'⟩ := h'
    · exact absurd key' (absent m' m'_mem)
    · exact Option.some.inj (fallback.symm.trans fallback')

/-- A text that is one object with the given members, whose values fit the fields. -/
def IsObject (slots : List (Slot α)) (text : String) (members : List Member) : Prop :=
  ∃ before object after, Blank before ∧ Blank after ∧ text.toList = before ++ (object ++ after) ∧
    SpellsObject object members ∧ ∀ m ∈ members, m.Fits slots

/-- Whole texts go by the known members. -/
structure Codec.ParsesObjects (codec : Codec α) (slots : List (Slot α)) : Prop where
  /-- An object in which no field occurs twice and every field without a fallback occurs is read as
  the value that its members give. -/
  parse {text : String} {members : List Member} : IsObject slots text members →
    Once slots members → Complete slots members →
    ∃ a, codec.parse text = .ok a ∧ ∀ slot ∈ slots, slot.Takes members (slot.get a)
  /-- Any other object is a mismatch. -/
  parse_mismatch {text : String} {members : List Member} : IsObject slots text members →
    ¬(Once slots members ∧ Complete slots members) → codec.parse text = .error .mismatch

theorem Codec.ReadsObjects.parsesObjects {codec : Codec α} {slots : List (Slot α)}
    (reads : codec.ReadsObjects slots) : codec.ParsesObjects slots where
  parse {text members} object once complete := by
    obtain ⟨before, _, after, layout, layout', eq, spells, fits⟩ := object
    obtain ⟨a, read, takes⟩ := reads.read after layout spells fits once complete
    have trailing : skipBlank after = [] := by
      simpa [skipBlank] using skipBlank_append layout' []
    exact ⟨a, by simp [parse, eq, read, trailing, bind, Except.bind, pure, Except.pure], takes⟩
  parse_mismatch {text members} object broken := by
    obtain ⟨before, _, after, layout, -, eq, spells, fits⟩ := object
    have read := reads.read_mismatch after layout spells fits broken
    simp [parse, eq, read, bind, Except.bind]

end

end Json

open Json

namespace Extent

/-- The fields of an extent. -/
def slots : List (Slot Extent) :=
  [⟨.required "x" .word32, Extent.x, SpellsWord32⟩, ⟨.required "y" .word32, Extent.y, SpellsWord32⟩,
    ⟨.required "z" .word32, Extent.z, SpellsWord32⟩]

/-- An extent: the list of its dimensions, or an object. -/
def Spells (text : List Char) (e : Extent) : Prop :=
  (∃ body, text = '[' :: (body ++ [']']) ∧ SpellsItems SpellsWord32 body e.toList) ∨
    SpellsRecord slots text e

theorem accepts_slots : ∀ slot ∈ slots, slot.codec.Accepts slot.Spells := by
  simp [slots, Field.required, Codec.accepts_word32]

theorem readsObjects_codec : codec.ReadsObjects slots :=
  Codec.readsObjects_map accepts_slots (by simp [slots, Field.required])
    fun _ => ⟨rfl, rfl, rfl, trivial⟩

/-- An extent is read from the list of its dimensions. -/
theorem read_list {blank body : List Char} (layout : Blank blank) {e : Extent}
    (items : SpellsItems SpellsWord32 body e.toList) (rest : List Char) :
    codec.read (blank ++ '[' :: (body ++ ']' :: rest)) = .ok (e, rest) := by
  have bracket : isBlank '[' = false := rfl
  obtain ⟨_, _, next, first, ahead⟩ := (items.ahead rest).uncons Codec.accepts_word32
  obtain ⟨_, _, next', second, ahead⟩ := ahead.uncons Codec.accepts_word32
  obtain ⟨_, _, next'', third, ahead⟩ := ahead.uncons Codec.accepts_word32
  simp only [codec, Codec.map, Codec.record, readRecord, skipBlank_append_cons layout bracket,
    fields, Field.required, readValues, next, first, next', second, next'', third, ahead.ends, bind,
    Except.bind, pure, Except.pure]

theorem accepts_codec : codec.Accepts Spells where
  read {text blank rest e} spells layout _ := by
    obtain ⟨body, rfl, items⟩ | ⟨members, object, fits, once, complete, takes⟩ := spells
    · simpa using read_list layout items rest
    · obtain ⟨e', read, takes'⟩ := readsObjects_codec.read rest layout object fits once complete
      have same : ∀ slot ∈ slots, slot.get e' = slot.get e := fun slot mem =>
        (takes' slot mem).unique mem (accepts_slots slot mem) once (takes slot mem)
      simp only [slots, List.forall_mem_cons, List.not_mem_nil, false_imp_iff, implies_true,
        and_true] at same
      obtain ⟨x, y, z⟩ := e'
      obtain ⟨rfl, rfl, rfl⟩ := same
      exact read
  opens {text e} spells := by
    obtain ⟨body, rfl, -⟩ | ⟨members, ⟨body, rfl, -⟩, -⟩ := spells
    · exact ⟨'[', _, rfl, by decide, by decide⟩
    · exact ⟨'{', _, rfl, by decide, by decide⟩

end Extent

namespace LaunchConfig

/-- The fields of a launch configuration. -/
def slots : List (Slot LaunchConfig) :=
  [⟨.required "grid_dim" Extent.codec, LaunchConfig.grid, Extent.Spells⟩,
    ⟨.required "block_dim" Extent.codec, LaunchConfig.block, Extent.Spells⟩,
    ⟨.optional "runtime_initialized" .flag true, LaunchConfig.fullRuntime, SpellsFlag⟩,
    ⟨.optional "thread_limit" .word32 0, LaunchConfig.threadLimit, SpellsWord32⟩]

theorem accepts_slots : ∀ slot ∈ slots, slot.codec.Accepts slot.Spells := by
  simp [slots, Field.required, Field.optional, Extent.accepts_codec, Codec.accepts_word32,
    Codec.accepts_flag]

theorem readsObjects_codec : codec.ReadsObjects slots :=
  Codec.readsObjects_map accepts_slots (by simp [slots, Field.required, Field.optional])
    fun _ => ⟨rfl, rfl, rfl, rfl, trivial⟩

end LaunchConfig

namespace Arch

/-- The fields of an architecture. -/
def slots : List (Slot Arch) :=
  [⟨.required "name" .string, Arch.name, SpellsString⟩,
    ⟨.required "simd_width" .word32, Arch.groupWidth, SpellsWord32⟩,
    ⟨.required "full_group_activation" .flag, Arch.wholeGroups, SpellsFlag⟩]

theorem accepts_slots : ∀ slot ∈ slots, slot.codec.Accepts slot.Spells := by
  simp [slots, Field.required, Codec.accepts_string, Codec.accepts_word32, Codec.accepts_flag]

theorem readsObjects_codec : codec.ReadsObjects slots :=
  Codec.readsObjects_map accepts_slots (by simp [slots, Field.required])
    fun _ => ⟨rfl, rfl, rfl, trivial⟩

end Arch

namespace Snapshot

/-- The fields of a snapshot. -/
def slots : List (Slot Snapshot) :=
  [⟨.required "status" .string, Snapshot.status, SpellsString⟩,
    ⟨.required "kernel_name" .string, Snapshot.kernelName, SpellsString⟩,
    ⟨.required "arch" .string, Snapshot.arch, SpellsString⟩,
    ⟨.required "mode" .string, Snapshot.mode, SpellsString⟩,
    ⟨.required "grid" (.triple .word32), Snapshot.grid, SpellsTriple SpellsWord32⟩,
    ⟨.required "block" (.triple .word32), Snapshot.block, SpellsTriple SpellsWord32⟩,
    ⟨.required "blocks_total" .word32, Snapshot.blocksTotal, SpellsWord32⟩,
    ⟨.required "blocks_executed" .word32, Snapshot.blocksExecuted, SpellsWord32⟩,
    ⟨.required "simd_width" .word32, Snapshot.groupWidth, SpellsWord32⟩,
    ⟨.required "available_lanes" .word32, Snapshot.availableLanes, SpellsWord32⟩,
    ⟨.required "regions" .word32, Snapshot.regions, SpellsWord32⟩,
    ⟨.required "activations" .word32, Snapshot.activations, SpellsWord32⟩,
    ⟨.required "serialized_regions" .word32, Snapshot.serializedRegions, SpellsWord32⟩,
    ⟨.required "convergent_teams" .word32, Snapshot.convergentTeams, SpellsWord32⟩,
    ⟨.required "last_team_size" .word32, Snapshot.lastTeamSize, SpellsWord32⟩,
    ⟨.required "last_limiter" .string, Snapshot.lastLimiter, SpellsString⟩,
    ⟨.required "lane_active" (.list .flag), Snapshot.laneActive, SpellsList SpellsFlag⟩,
    ⟨.optional "barrier_arrivals" (.list .word64) [], Snapshot.barrierArrivals,
      SpellsList SpellsWord64⟩,
    ⟨.required "timestamp_ms" .word64, Snapshot.timestampMs, SpellsWord64⟩]

theorem accepts_slots : ∀ slot ∈ slots, slot.codec.Accepts slot.Spells := by
  simp [slots, Field.required, Field.optional, Codec.accepts_string, Codec.accepts_word32,
    Codec.accepts_word64, Codec.accepts_flag, Codec.accepts_list, Codec.accepts_triple]

theorem readsObjects_codec : codec.ReadsObjects slots :=
  Codec.readsObjects_map accepts_slots (by simp [slots, Field.required, Field.optional])
    fun _ => ⟨rfl, rfl, rfl, rfl, rfl, rfl, rfl, rfl, rfl, rfl, rfl, rfl, rfl, rfl, rfl, rfl, rfl,
      rfl, rfl, trivial⟩

end Snapshot

/-- **A text that is an object is read by its known members**, in any order, whatever else stands in
it: if no field occurs twice and every field without a fallback occurs, the value that is read has
what the members say and the fallbacks for the rest, and otherwise the text is a mismatch. -/
theorem parses_objects :
    LaunchConfig.codec.ParsesObjects LaunchConfig.slots ∧ Arch.codec.ParsesObjects Arch.slots ∧
      Extent.codec.ParsesObjects Extent.slots ∧ Snapshot.codec.ParsesObjects Snapshot.slots :=
  ⟨LaunchConfig.readsObjects_codec.parsesObjects, Arch.readsObjects_codec.parsesObjects,
    Extent.readsObjects_codec.parsesObjects, Snapshot.readsObjects_codec.parsesObjects⟩

/-! ## An object out of order -/

namespace Json

/-- Characters that stand for themselves. -/
def standPlain (text : List Char) : Bool := text.all fun c => c != '"' && c != '\\' && !(c < ' ')

theorem spellsChars_self {text : List Char} (plain : standPlain text = true) :
    SpellsChars text text := by
  induction text with
  | nil => exact .nil
  | cons c text ih =>
    simp only [standPlain, List.all_cons, Bool.and_eq_true, bne_iff_ne, Bool.not_eq_true',
      decide_eq_false_iff_not] at plain
    obtain ⟨⟨⟨quote, backslash⟩, shown⟩, plain⟩ := plain
    exact .plain quote backslash shown (ih plain)

/-- A member without layout. -/
def Member.tight (key : String) (spelled : List Char) (spells : SpellsChars spelled key.toList)
    (value : List Char) : Member :=
  ⟨[], spelled, key, [], [], value, [], blank_nil, spells, blank_nil, blank_nil, blank_nil⟩

/-- The text of an object without layout around its members. -/
def objectText (members : List Member) : String :=
  String.ofList ('{' :: (joinCommas (members.map Member.text) ++ ['}']))

theorem isObject_objectText {α : Type} {slots : List (Slot α)} {members : List Member}
    (nonempty : members ≠ []) (fits : ∀ m ∈ members, m.Fits slots) :
    IsObject slots (objectText members) members :=
  ⟨[], _, [], blank_nil, blank_nil, by simp [objectText], ⟨_, rfl, .inr ⟨nonempty, rfl⟩⟩, fits⟩

end Json

namespace Arch

/-- A member that no field asks for: a list of an empty object and a string of a bracket and a
quote. -/
def stray : Member :=
  .tight "x" ['x'] (spellsChars_self (by decide))
    ['[', '{', '}', ',', '"', ']', '\\', '"', '"', ']']

/-- The name, with an escape in its key. -/
def escapedName : Member :=
  .tight "name" ['n', '\\', 'u', '0', '0', '6', '1', 'm', 'e']
    (.plain (by decide) (by decide) (by decide)
      (.unit (.mk (a := '0') (b := '0') (c := '6') (d := '1') rfl rfl rfl rfl) rfl rfl
        (spellsChars_self (by decide))))
    ['"', 'a', '"']

/-- The members of an architecture without its name, the last field first. -/
def nameless : List Member :=
  [stray,
    .tight "full_group_activation" "full_group_activation".toList (spellsChars_self (by decide))
      ['t', 'r', 'u', 'e'],
    .tight "simd_width" "simd_width".toList (spellsChars_self (by decide)) ['3', '2']]

theorem fits_stray : stray.Fits slots := by
  have brackets : Valid .value stray.value := by
    have string : StringText [']', '\\', '"'] :=
      .plain (by decide) (by decide) (by decide) (.escape rfl .nil)
    exact .list (.consItem (.item blank_nil (.emptyObject blank_nil) blank_nil)
      (.lastItem (.item blank_nil (.string string) blank_nil)))
  exact ⟨by simp [slots, stray, Member.tight, Field.required], fun _ => brackets⟩

theorem fits_escapedName : escapedName.Fits slots := by
  have spells : SpellsString ['"', 'a', '"'] "a" := ⟨['a'], rfl, spellsChars_self (by decide)⟩
  simpa [Member.Fits, slots, escapedName, Member.tight, Field.required] using Exists.intro _ spells

theorem fits_nameless : ∀ m ∈ nameless, m.Fits slots := by
  have width : SpellsWord32 ['3', '2'] 32 := spellsNatural_writeNatural 32
  have whole : SpellsFlag ['t', 'r', 'u', 'e'] true := rfl
  simp only [nameless, List.forall_mem_cons, fits_stray, List.not_mem_nil, false_imp_iff,
    implies_true, and_true, true_and]
  constructor
  · simpa [Member.Fits, slots, Member.tight, Field.required] using Exists.intro _ whole
  · simpa [Member.Fits, slots, Member.tight, Field.required] using Exists.intro _ width

/-- The members of an architecture, its name last. -/
def named : List Member := nameless ++ [escapedName]

theorem fits_named : ∀ m ∈ named, m.Fits slots :=
  List.forall_mem_append.mpr ⟨fits_nameless, List.forall_mem_singleton.mpr fits_escapedName⟩

end Arch

/-- With its name the architecture is read, although the members are out of order, one of them is
not known and the key of the last one is escaped; without it the text is a mismatch. -/
theorem parses_objects_shuffled :
    objectText Arch.named = "\x7b\"x\":[\x7b\x7d,\"]\\\"\"],\"full_group_activation\":true," ++
        "\"simd_width\":32,\"n\\u0061me\":\"a\"\x7d" ∧
      (∃ arch, Arch.codec.parse (objectText Arch.named) = .ok arch ∧
        ∀ slot ∈ Arch.slots, slot.Takes Arch.named (slot.get arch)) ∧
      Arch.codec.parse (objectText Arch.nameless) = .error .mismatch := by
  have object : IsObject Arch.slots (objectText Arch.named) Arch.named :=
    isObject_objectText (by simp [Arch.named]) Arch.fits_named
  have once : Once Arch.slots Arch.named := by
    simp [Once, Arch.slots, Arch.named, Arch.nameless, Arch.stray, Arch.escapedName, Member.tight,
      Field.required]
  have complete : Complete Arch.slots Arch.named := by
    simp [Complete, Arch.slots, Arch.named, Arch.nameless, Arch.stray, Arch.escapedName,
      Member.tight, Field.required]
  have object' : IsObject Arch.slots (objectText Arch.nameless) Arch.nameless :=
    isObject_objectText (List.cons_ne_nil _ _) Arch.fits_nameless
  have incomplete : ¬Complete Arch.slots Arch.nameless := by
    simp [Complete, Arch.slots, Arch.nameless, Arch.stray, Member.tight, Field.required]
  exact ⟨by decide, parses_objects.2.1.parse object once complete,
    parses_objects.2.1.parse_mismatch object' fun whole => incomplete whole.2⟩

end RegionDispatch
