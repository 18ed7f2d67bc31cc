import RegionDispatch.Text.Cluster

/-!
# Column widths

How many columns of a screen a character or cluster takes. East Asian characters and pictographs
take two; marks, joiners and controls take none. A cluster takes what its characters take together,
but pictographs bound together take the place of one.

* `charWidth`, `columnCount` — the columns of a character, and of several.
* `clusterWidth` — the columns of a cluster.
-/

namespace RegionDispatch.Text

/-- Whether a character takes no column. -/
def isZeroWidth (c : Char) : Bool :=
  c < ' ' || within 0x7F 0x9F c.toNat || isVowel c || isTrailingConsonant c || extenders.has c
    || ignorables.has c || unshownMarks.has c

/-- The columns a character takes. -/
def charWidth (c : Char) : Nat :=
  if within 0x20 0x7E c.toNat then 1
  else if isZeroWidth c then 0
  else if wideCharacters.has c then 2
  else 1

/-- The columns several characters take together. -/
def columnCount : List Char → Nat
  | [] => 0
  | c :: text => charWidth c + columnCount text

/-- The selector that asks for a character as text. -/
def textSelector : Char := '\ufe0e'

/-- The selector that asks for a character as a picture. -/
def pictureSelector : Char := '\ufe0f'

/-- The columns a cluster takes. -/
def clusterWidth : List Char → Nat
  | [] => 0
  | base :: marks =>
    if pictographs.has base && marks.any (fun c => pictographs.has c || isTone c) then 2
    else if marks.head? = some pictureSelector && textPictographs.has base then
      2 + columnCount marks
    else if marks.head? = some textSelector && pictographs.has base then 1
    else columnCount (base :: marks)

end RegionDispatch.Text
