import RegionDispatch.Json.Codec
import RegionDispatch.Json.Skip

/-!
# Records

A record is read by its list of fields: from an object, with the members in any order and members of
unknown names passed over, or from a list of the field values in order. A field with a fallback may
be missing, in a list only at the end. It is written as an object, in the order of the fields.

* `Field` — one field: its key, its codec, and its fallback.
* `Record` — one value for every field.
* `Draft` — the values found so far; `Draft.finish` fills in the fallbacks.
* `Codec.record` — the codec of the records with given fields.
-/

namespace RegionDispatch.Json

/-- One field of a record. -/
structure Field where
  /-- The type of its values. -/
  Value : Type
  /-- Its name. -/
  key : String
  /-- How its values are read and written. -/
  codec : Codec Value
  /-- Its value where it is missing. -/
  fallback : Option Value

namespace Field

/-- A field that has to be there. -/
def required {α : Type} (key : String) (codec : Codec α) : Field := ⟨α, key, codec, none⟩

/-- A field that may be missing. -/
def optional {α : Type} (key : String) (codec : Codec α) (fallback : α) : Field :=
  ⟨α, key, codec, some fallback⟩

end Field

/-- One value for every field. -/
def Record : List Field → Type
  | [] => Unit
  | field :: fields => field.Value × Record fields

/-- The values found so far. -/
def Draft : List Field → Type
  | [] => Unit
  | field :: fields => Option field.Value × Draft fields

namespace Draft

/-- No value yet. -/
def empty : (fields : List Field) → Draft fields
  | [] => ()
  | _ :: fields => (none, empty fields)

/-- The record a draft amounts to; a value that is missing without a fallback is a mismatch. -/
def finish : (fields : List Field) → Draft fields → Except ReadError (Record fields)
  | [], () => .ok ()
  | field :: fields, (found, draft) => do
    match found <|> field.fallback with
    | some value => return (value, ← finish fields draft)
    | none => throw .mismatch

/-- Reads the rest of a member behind its key into the draft. The value of an unknown key is passed
over; a key that occurred before is a mismatch, whatever follows it. -/
def readMember (key : String) : (fields : List Field) → Draft fields → Reader (Draft fields)
  | [], (), text => do return ((), ← skipValue (← readColon text))
  | field :: fields, (found, draft), text =>
    if key = field.key then
      match found with
      | some _ => .error .mismatch
      | none => do
        let (value, rest) ← field.codec.read (← readColon text)
        return ((some value, draft), rest)
    else do
      let (draft, rest) ← readMember key fields draft text
      return ((found, draft), rest)

end Draft

/-- Whether an object goes on, and the text behind the opening quote of its next key; `first` says
that no member was read yet. -/
def nextKey (first : Bool) (text : List Char) : Except ReadError (Bool × List Char) :=
  let quote : List Char → Except ReadError (Bool × List Char)
    | [] => .error .truncated
    | '"' :: rest => .ok (true, rest)
    | _ => .error .malformed
  match skipBlank text with
  | '}' :: rest => .ok (false, rest)
  | ',' :: rest => if first then .error .malformed else quote (skipBlank rest)
  | rest => if first || rest.isEmpty then quote rest else .error .malformed

/-- The members of an object up to its end; every member takes at least one character, so `limit` is
the length of the text. -/
def readMembers (fields : List Field) :
    (limit : Nat) → (first : Bool) → Draft fields → Reader (Record fields)
  | 0, _, _, _ => .error .truncated
  | limit + 1, first, draft, text => do
    match ← nextKey first text with
    | (false, rest) => return (← draft.finish fields, rest)
    | (true, rest) =>
      let (key, rest) ← readString rest
      let (draft, rest) ← draft.readMember key fields rest
      readMembers fields limit false draft rest

/-- The values of the fields in a list, up to its end. A list that is too short leaves the last
fields to their fallbacks. -/
def readValues : (fields : List Field) → (first : Bool) → Reader (Record fields)
  | [], _, text => do return ((), ← endList text)
  | field :: fields, first, text => do
    match ← nextItem first text, field.fallback with
    | (true, rest), _ =>
      let (value, rest) ← field.codec.read rest
      let (values, rest) ← readValues fields false rest
      return ((value, values), rest)
    | (false, rest), some value =>
      let (values, rest) ← readValues fields first rest
      return ((value, values), rest)
    | (false, _), none => throw .mismatch

/-- A record, from an object or a list. -/
def readRecord (fields : List Field) : Reader (Record fields) := fun text =>
  match skipBlank text with
  | '{' :: rest => readMembers fields (rest.length + 1) true (Draft.empty fields) rest
  | '[' :: rest => readValues fields true rest
  | rest => .error (wrongKind rest)

/-- The texts of the members of a record. -/
def writeMembers : (fields : List Field) → Record fields → List (List Char)
  | [], () => []
  | field :: fields, (value, values) =>
    (writeText field.key ++ ':' :: field.codec.write value) :: writeMembers fields values

/-- The codec of the records with the given fields. -/
def Codec.record (fields : List Field) : Codec (Record fields) where
  read := readRecord fields
  write values := '{' :: (joinCommas (writeMembers fields values) ++ ['}'])

end RegionDispatch.Json
