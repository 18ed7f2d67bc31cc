import RegionDispatch.Json.Chars
import RegionDispatch.Json.Number

/-!
# Passing over a value

A value nobody asked for is passed over: only its layout is checked, however deep it is nested. The
open brackets are kept in a list, the innermost first, so the walk is a plain loop over the tokens
of the text.

* `Bracket`, `Place` — the open brackets, and what may come next.
* `skipStep` — passes over one token and what has to stand beside it.
* `skipValue` — passes over a whole value.
-/

namespace RegionDispatch.Json

/-- An open bracket. -/
inductive Bracket where
  /-- A list. -/
  | list
  /-- An object. -/
  | object
  deriving DecidableEq, Repr

/-- What may come next. -/
inductive Place where
  /-- A value. -/
  | value
  /-- The first entry of the innermost bracket, or its end. -/
  | opened
  /-- Whatever follows a value. -/
  | closed
  deriving DecidableEq, Repr

/-- A walk in the middle of a value: what may come next, the open brackets, and the text ahead. -/
structure Walk where
  /-- What may come next. -/
  place : Place
  /-- The open brackets, the innermost first. -/
  brackets : List Bracket
  /-- The text ahead. -/
  text : List Char
  deriving DecidableEq, Repr

/-- Passes over a value that is no list or object, or over its opening bracket. -/
def skipScalar (brackets : List Bracket) (text : List Char) : Except ReadError Walk :=
  match skipBlank text with
  | [] => .error .truncated
  | '[' :: rest => .ok ⟨.opened, .list :: brackets, rest⟩
  | '{' :: rest => .ok ⟨.opened, .object :: brackets, rest⟩
  | 'n' :: rest => (readWord ['u', 'l', 'l'] rest).map fun rest => ⟨.closed, brackets, rest⟩
  | 't' :: rest => (readWord ['r', 'u', 'e'] rest).map fun rest => ⟨.closed, brackets, rest⟩
  | 'f' :: rest => (readWord ['a', 'l', 's', 'e'] rest).map fun rest => ⟨.closed, brackets, rest⟩
  | '"' :: rest => (skipChars .plain rest).map fun rest => ⟨.closed, brackets, rest⟩
  | c :: rest =>
    if c = '-' || isDigit c then (skipNumber (c :: rest)).map fun rest => ⟨.closed, brackets, rest⟩
    else .error .malformed

/-- Passes over the key of a member and its colon. -/
def skipKey (brackets : List Bracket) (text : List Char) : Except ReadError Walk :=
  match skipBlank text with
  | [] => .error .truncated
  | '"' :: rest => do
    let rest ← skipChars .plain rest
    let rest ← readColon rest
    return ⟨.value, brackets, rest⟩
  | _ => .error .malformed

/-- Passes over the next token and what has to stand beside it. Behind a comma an entry has to
follow. -/
def skipStep : Walk → Except ReadError Walk
  | ⟨.value, brackets, text⟩ => skipScalar brackets text
  | ⟨.opened, .list :: brackets, text⟩ =>
    match skipBlank text with
    | ']' :: rest => .ok ⟨.closed, brackets, rest⟩
    | rest => skipScalar (.list :: brackets) rest
  | ⟨.opened, .object :: brackets, text⟩ =>
    match skipBlank text with
    | '}' :: rest => .ok ⟨.closed, brackets, rest⟩
    | rest => skipKey (.object :: brackets) rest
  | ⟨.closed, .list :: brackets, text⟩ =>
    match skipBlank text with
    | [] => .error .truncated
    | ',' :: rest => .ok ⟨.value, .list :: brackets, rest⟩
    | ']' :: rest => .ok ⟨.closed, brackets, rest⟩
    | _ => .error .malformed
  | ⟨.closed, .object :: brackets, text⟩ =>
    match skipBlank text with
    | [] => .error .truncated
    | ',' :: rest => skipKey (.object :: brackets) rest
    | '}' :: rest => .ok ⟨.closed, brackets, rest⟩
    | _ => .error .malformed
  | walk => .ok walk

/-- Takes steps until no bracket is open, at most `steps`. -/
def skipSteps : (steps : Nat) → Walk → Except ReadError (List Char)
  | _, ⟨.closed, [], text⟩ => .ok text
  | 0, _ => .error .truncated
  | steps + 1, walk =>
    match skipStep walk with
    | .ok next => skipSteps steps next
    | .error e => .error e

/-- The text behind a value. Every step takes at least one character, so there are never more steps
than characters. -/
def skipValue (text : List Char) : Except ReadError (List Char) :=
  skipSteps (text.length + 1) ⟨.value, [], text⟩

@[simp] theorem skipSteps_closed (steps : Nat) (text : List Char) :
    skipSteps steps ⟨.closed, [], text⟩ = .ok text := by
  cases steps <;> rfl

end RegionDispatch.Json
