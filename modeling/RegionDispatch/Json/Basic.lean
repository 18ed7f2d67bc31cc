/-!
# Reading text

Configurations and snapshots are exchanged as JSON. A reader takes what it wants off the front of a
list of characters and leaves the rest; it works from left to right and stops at the first thing it
cannot accept.

* `ReadError` — the three ways to stop.
* `Reader` — readers.
* `skipBlank`, `readWord` — the layout between values, and fixed words.
-/

namespace RegionDispatch.Json

/-- Why a text was not read. -/
inductive ReadError where
  /-- The text is not JSON, or its layout does not fit the expected value. -/
  | malformed
  /-- The text is JSON so far, but not of the expected shape, type or range. -/
  | mismatch
  /-- The text ended too early. -/
  | truncated
  deriving DecidableEq, Repr

/-- Takes a value off the front of a text. -/
abbrev Reader (α : Type) := List Char → Except ReadError (α × List Char)

/-- Whether a character is layout. -/
def isBlank (c : Char) : Bool := c = ' ' || c = '\n' || c = '\t' || c = '\r'

/-- The text without the layout at its front. -/
def skipBlank (text : List Char) : List Char := text.dropWhile isBlank

/-- The rest of a fixed word. -/
def readWord : List Char → List Char → Except ReadError (List Char)
  | [], text => .ok text
  | _ :: _, [] => .error .truncated
  | c :: word, d :: text => if c = d then readWord word text else .error .malformed

/-- The text behind a colon. -/
def readColon (text : List Char) : Except ReadError (List Char) :=
  match skipBlank text with
  | ':' :: rest => .ok rest
  | [] => .error .truncated
  | _ => .error .malformed

end RegionDispatch.Json
