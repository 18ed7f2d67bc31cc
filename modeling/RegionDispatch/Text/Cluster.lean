import RegionDispatch.Text.Property

/-!
# Character clusters

What a reader sees as one character may be several: a letter with its accents, a syllable of Hangul,
a flag, a family of pictographs. Such clusters are found by the rules of the Unicode standard, which
decide between any two neighbours from what stands before them.

* `BreakClass`, `breakClass` — the classes of characters the rules speak of.
* `Context` — what the rules remember of the text so far.
* `Context.joins` — whether the next character stays with the one before it.
* `clusters` — the clusters of a text.
-/

namespace RegionDispatch.Text

/-- What the rules tell apart. -/
inductive BreakClass where
  /-- A carriage return. -/
  | carriageReturn
  /-- A line feed. -/
  | lineFeed
  /-- Any other control or separator. -/
  | control
  /-- A mark that extends the character before it. -/
  | extender
  /-- The joiner of pictographs. -/
  | joiner
  /-- A mark with a width of its own. -/
  | spacingMark
  /-- A mark that stays with the character behind it. -/
  | prepended
  /-- Half a flag. -/
  | flag
  /-- The leading consonant of a syllable. -/
  | leading
  /-- The vowel of a syllable. -/
  | vowel
  /-- The trailing consonant of a syllable. -/
  | trailing
  /-- A whole syllable without a trailing consonant. -/
  | openSyllable
  /-- A whole syllable with a trailing consonant. -/
  | closedSyllable
  /-- Anything else. -/
  | other
  deriving DecidableEq, Repr

/-- Skin tones, which extend a pictograph. -/
def isTone (c : Char) : Bool := 0x1F3FB ≤ c.toNat && c.toNat ≤ 0x1F3FF

/-- Whether a code point lies between two others. -/
def within (first last code : Nat) : Bool := first ≤ code && code ≤ last

/-- Vowels of Hangul. -/
def isVowel (c : Char) : Bool := within 0x1160 0x11A7 c.toNat || within 0xD7B0 0xD7C6 c.toNat

/-- Trailing consonants of Hangul. -/
def isTrailingConsonant (c : Char) : Bool :=
  within 0x11A8 0x11FF c.toNat || within 0xD7CB 0xD7FB c.toNat

/-- The class of a character. -/
def breakClass (c : Char) : BreakClass :=
  let code := c.toNat
  if c = '\r' then .carriageReturn
  else if c = '\n' then .lineFeed
  else if code = 0x200D then .joiner
  else if within 0x1F1E6 0x1F1FF code then .flag
  else if within 0x1100 0x115F code || within 0xA960 0xA97C code then .leading
  else if isVowel c then .vowel
  else if isTrailingConsonant c then .trailing
  else if within 0xAC00 0xD7A3 code then
    if (code - 0xAC00) % 28 = 0 then .openSyllable else .closedSyllable
  else if controls.has c then .control
  else if extenders.has c || isTone c then .extender
  else if spacingMarks.has c then .spacingMark
  else if prepended.has c then .prepended
  else .other

/-- Consonants of the scripts whose conjuncts are one cluster. -/
def conjunctConsonants : CodeRanges :=
  [(0x915, 0x939), (0x958, 0x95F), (0x978, 0x97F), (0x995, 0x9A8), (0x9AA, 0x9B0),
   (0x9B2, 0x9B2), (0x9B6, 0x9B9), (0x9DC, 0x9DD), (0x9DF, 0x9DF), (0x9F0, 0x9F1),
   (0xA95, 0xAA8), (0xAAA, 0xAB0), (0xAB2, 0xAB3), (0xAB5, 0xAB9), (0xAF9, 0xAF9),
   (0xB15, 0xB28), (0xB2A, 0xB30), (0xB32, 0xB33), (0xB35, 0xB39), (0xB5C, 0xB5D),
   (0xB5F, 0xB5F), (0xB71, 0xB71), (0xC15, 0xC28), (0xC2A, 0xC39), (0xC58, 0xC5A),
   (0xD15, 0xD3A)]

/-- The marks that bind two consonants to a conjunct. -/
def conjunctLinkers : CodeRanges :=
  [(0x94D, 0x94D), (0x9CD, 0x9CD), (0xACD, 0xACD), (0xB4D, 0xB4D), (0xC4D, 0xC4D),
   (0xD4D, 0xD4D)]

/-- How far a bond between two characters of a kind has come. -/
inductive Bond where
  /-- There is none. -/
  | none
  /-- The first character is there, with its marks. -/
  | begun
  /-- What binds it to the second is there, too. -/
  | bound
  deriving DecidableEq, Repr

/-- What the rules remember of the text so far. -/
structure Context where
  /-- The class of the last character, if there is one. -/
  last : Option BreakClass := none
  /-- The bond of pictographs at the end of the text. -/
  pictographBond : Bond := .none
  /-- The bond of consonants at the end of the text. -/
  consonantBond : Bond := .none
  /-- Whether the text ends in an odd number of halves of flags. -/
  halfFlag : Bool := false
  deriving DecidableEq, Repr

namespace Context

/-- Whether the classes of two neighbours alone keep them together; none where they do not
decide. -/
def classesJoin : BreakClass → BreakClass → Option Bool
  | .carriageReturn, .lineFeed => some true
  | .carriageReturn, _ | .lineFeed, _ | .control, _ => some false
  | _, .carriageReturn | _, .lineFeed | _, .control => some false
  | .leading, .leading | .leading, .vowel | .leading, .openSyllable => some true
  | .leading, .closedSyllable => some true
  | .openSyllable, .vowel | .openSyllable, .trailing => some true
  | .vowel, .vowel | .vowel, .trailing => some true
  | .closedSyllable, .trailing | .trailing, .trailing => some true
  | _, .extender | _, .joiner | _, .spacingMark => some true
  | .prepended, _ => some true
  | _, _ => none

/-- Whether the next character stays with the one before it. -/
def joins (context : Context) (next : Char) : Bool :=
  match context.last with
  | none => false
  | some last =>
    let nextClass := breakClass next
    match classesJoin last nextClass with
    | some together => together
    | none =>
      (context.consonantBond == .bound && conjunctConsonants.has next)
        || (context.pictographBond == .bound && pictographs.has next)
        || (context.halfFlag && nextClass == .flag)

/-- The bond of pictographs behind one more character. -/
def pictographsBehind (context : Context) (c : Char) (cls : BreakClass) : Bond :=
  if pictographs.has c then .begun
  else if context.pictographBond = .begun then
    match cls with
    | .extender => .begun
    | .joiner => .bound
    | _ => .none
  else .none

/-- The bond of consonants behind one more character. -/
def consonantsBehind (context : Context) (c : Char) (cls : BreakClass) : Bond :=
  if conjunctConsonants.has c then .begun
  else if context.consonantBond = .none then .none
  else if conjunctLinkers.has c then .bound
  else if cls = .extender || cls = .joiner then context.consonantBond
  else .none

/-- The context behind one more character. -/
def advance (context : Context) (c : Char) : Context :=
  let cls := breakClass c
  { last := some cls
    pictographBond := context.pictographsBehind c cls
    consonantBond := context.consonantsBehind c cls
    halfFlag := cls = .flag && !context.halfFlag }

end Context

/-- The rest of the cluster before a text, and the clusters behind it. -/
def clustersFrom (context : Context) : List Char → List Char × List (List Char)
  | [] => ([], [])
  | c :: text =>
    let (rest, behind) := clustersFrom (context.advance c) text
    if context.joins c then (c :: rest, behind) else ([], (c :: rest) :: behind)

/-- The clusters of a text. -/
def clusters (text : List Char) : List (List Char) := (clustersFrom {} text).2

end RegionDispatch.Text
