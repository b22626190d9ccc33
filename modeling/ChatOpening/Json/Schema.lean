import ChatOpening.Json.Sequence

/-!
# Schemas

A schema says which JSON values are wanted and what they mean. A value that fits a schema means an element of its
carrier; the carrier of a record is the product of the carriers of its fields.

One reader and one writer serve all schemas. The reader goes through the text once and reports the first fault, so
what it reports depends on where things stand: a wrong kind of value is a fault at its place even if the text is
broken later on. Whether a report names the way to the value in question is a parameter of the reader.

* A record is an object with every declared field once, in any order, other members passed over; or a list with the
  fields in the declared order. An optional field may be left out of an object, not out of a list.
* A variant is its name, or an object with the name as the only key and null as its value.
* A dictionary, and an object of any shape, keep the last of several members of the same key.
-/

namespace ChatOpening

namespace Json

mutual

/-- The kinds of values that a text can be asked for. -/
inductive Schema where
  | text
  | truth
  | int64
  | uint32
  | optional (inner : Schema)
  | list (item : Schema)
  | dictionary
  | object
  | variant (names : List String)
  | record (name : String) (fields : Fields)

/-- The declared fields of a record. -/
inductive Fields where
  | none
  | field (name : String) (schema : Schema) (others : Fields)

end

mutual

/-- What the values of a schema mean. -/
def Schema.Carrier : Schema → Type
  | .text => String
  | .truth => Bool
  | .int64 => Int64
  | .uint32 => UInt32
  | .optional inner => Option inner.Carrier
  | .list item => List item.Carrier
  | .dictionary => Dictionary String
  | .object => List (String × Value)
  | .variant names => Fin names.length
  | .record _ fields => fields.Row

/-- One value for each field. -/
def Fields.Row : Fields → Type
  | .none => Unit
  | .field _ schema others => schema.Carrier × others.Row

end

/-- For each field its value, once it has been read. -/
def Fields.Slots : Fields → Type
  | .none => Unit
  | .field _ schema others => Option schema.Carrier × others.Slots

namespace Fields

/-- The slots before any field has been read. -/
def free : (fields : Fields) → fields.Slots
  | .none => ()
  | .field _ _ others => (Option.none, others.free)

/-- The number of fields. -/
def count : Fields → Nat
  | .none => 0
  | .field _ _ others => others.count + 1

end Fields

/-- The value of a field that an object does not have. -/
def Schema.absent : (schema : Schema) → Option schema.Carrier
  | .optional _ => some Option.none
  | _ => Option.none

/-- The row of the values in the slots, or the first field that has none and needs one. -/
def Fields.complete : (fields : Fields) → fields.Slots → Except Cause fields.Row
  | .none, () => .ok ()
  | .field name schema others, (slot, slots) =>
    match slot <|> schema.absent with
    | Option.none => .error (.missingField name)
    | some v =>
      match others.complete slots with
      | .ok row => .ok (v, row)
      | .error cause => .error cause

/-- The fault of a value that has been read and is of another kind than the wanted one. -/
def wrongKind {α : Type} {bound : Nat} (wanted : String) (found : α → Found) : Outcome bound α → Fault
  | .ok p => .here (.wrongKind (found p.value) wanted) p.rest
  | .error fault => fault

/-- The fault of a value of another kind than the wanted one. A value that is no list and no object is read to its
end first, and what is wrong with it goes before. -/
def mismatch (wanted : String) (first : UInt8) (rest : Bytes) : Fault :=
  if first = 0x6E then wrongKind wanted (fun _ => .null) (wordValue afterN () rest)
  else if first = 0x74 then wrongKind wanted .truth (wordValue afterT true rest)
  else if first = 0x66 then wrongKind wanted .truth (wordValue afterF false rest)
  else if first = 0x2D then wrongKind wanted .number (number true rest)
  else if isDigit first then wrongKind wanted .number (number false (first :: rest))
  else if first = quoteMark then wrongKind wanted .text (text rest)
  else if first = 0x5B then .here (.wrongKind .sequence wanted) (first :: rest)
  else if first = 0x7B then .here (.wrongKind .map wanted) (first :: rest)
  else .next .expectedValue (first :: rest)

section Readers

variable {α : Type} {bound : Nat}

/-- Reads what stands inside a list or an object with one level less, unless there is none left. -/
def deeper (levels : Nat) (opening : Bytes) (inside : (fewer : Nat) → Outcome bound α) : Outcome bound α :=
  match levels with
  | 0 => .error (.next .tooDeep opening)
  | fewer + 1 => inside fewer

def readText : Reader String :=
  afterBlanks .endInValue fun first rest =>
    if first = quoteMark then (text rest).afterFirst
    else .error (mismatch "a string" first rest)

def readTruth : Reader Bool :=
  afterBlanks .endInValue fun first rest =>
    if first = 0x74 then wordValue afterT true rest
    else if first = 0x66 then wordValue afterF false rest
    else .error (mismatch "a boolean" first rest)

/-- Takes whole numbers for which `convert` has a result. -/
def bounded (wanted : String) (convert : Int → Option α) : Outcome bound Number → Outcome bound α
  | .error fault => .error fault
  | .ok p =>
    match p.value with
    | .fraction x => .error (.here (.wrongKind (.number (.fraction x)) wanted) p.rest)
    | .integer n =>
      match convert n with
      | some a => .ok ⟨a, p.rest, p.shorter⟩
      | none => .error (.here (.integerOutOfRange n wanted) p.rest)

/-- Reads a whole number for which `convert` has a result. -/
def readInteger (wanted : String) (convert : Int → Option α) : Reader α :=
  afterBlanks .endInValue fun first rest =>
    if first = 0x2D then (bounded wanted convert (number true rest)).afterFirst
    else if isDigit first then bounded wanted convert (number false (first :: rest))
    else .error (mismatch wanted first rest)

/-- The signed number of 64 bits with the given value. -/
def int64Of? (n : Int) : Option Int64 :=
  if Int64.minValue.toInt ≤ n && n ≤ Int64.maxValue.toInt then some (Int64.ofInt n) else none

/-- The number of 32 bits without sign with the given value. -/
def uint32Of? (n : Int) : Option UInt32 :=
  if 0 ≤ n && n.toNat < UInt32.size then some (UInt32.ofNat n.toNat) else none

/-- Reads null as no value, and leaves everything else to the reader. -/
def readOptional (inner : Reader α) : Reader (Option α) :=
  afterBlanks .endInValue fun first rest =>
    if first = 0x6E then wordValue afterN none rest else (inner (first :: rest)).map some

def readList (tracking : Tracking) (item : (levels : Nat) → Reader α) (levels : Nat) : Reader (List α) :=
  afterBlanks .endInValue fun first rest =>
    if first = 0x5B then
      deeper levels (first :: rest) fun fewer => items tracking (item fewer) rest (length_le_self rest) []
    else .error (mismatch "a sequence" first rest)

/-- Reads an object whose members have values that `value` reads, and puts one after the other into `start`. -/
def readEntries {σ : Type} (tracking : Tracking) (put : σ → String → α → σ) (start : σ)
    (value : (levels : Nat) → Reader α) (levels : Nat) : Reader σ :=
  afterBlanks .endInValue fun first rest =>
    if first = 0x7B then
      deeper levels (first :: rest) fun fewer => entries tracking put start (value fewer) rest
    else .error (mismatch "a map" first rest)

/-- Reads the name of a variant. -/
def readVariantName (names : List String) : Reader (Fin names.length) :=
  afterBlanks .endInValue fun first rest =>
    if first = quoteMark then
      match text rest with
      | .error fault => .error fault
      | .ok p =>
        match names.finIdxOf? p.value with
        | some i => .ok ⟨i, p.rest, Nat.lt_succ_of_lt p.shorter⟩
        | none => .error (.here (.unknownVariant p.value names) p.rest)
    else .error (mismatch "variant identifier" first rest)

/-- Reads the null that a variant without content has as its content. -/
def readUnit : Reader Unit :=
  afterBlanks .endInValue fun first rest =>
    if first = 0x6E then wordValue afterN () rest else .error (mismatch "unit" first rest)

/-- Reads the end of the object around a variant. -/
def readVariantEnd : Reader Unit :=
  fun input =>
    match h : skipBlanks input with
    | [] => .error (.here .endInObject [])
    | first :: rest =>
      if first = 0x7D then .ok ⟨(), rest, length_lt_of_skipBlanks h⟩
      else .error (.here .expectedValue (first :: rest))

def readVariant (names : List String) (levels : Nat) : Reader (Fin names.length) :=
  afterBlanks .endInValue fun first rest =>
    if first = quoteMark then readVariantName names (first :: rest)
    else if first = 0x7B then
      deeper levels (first :: rest) fun _ =>
        ((readVariantName names rest).andThen fun i =>
          ((colon.andThen fun _ => readUnit).andThen fun _ => readVariantEnd).map fun _ => i).afterFirst
    else .error (.next .expectedValue (first :: rest))

end Readers

/-- What a record does with a key. -/
inductive Slot (σ : Type) where
  /-- The key is no field; its value is passed over. -/
  | unknown
  /-- The field has a value already. -/
  | taken
  /-- The field is free; its value is read and put into its slot. -/
  | free (read : Reader σ)

/-- The bytes after a repeated key at which the record is left: behind the blanks, or behind the brace that closes the
record. -/
def afterRepeated (input : Bytes) : Bytes :=
  match skipBlanks input with
  | [] => []
  | first :: rest => if first = 0x7D then rest else first :: rest

/-- Reads a member of a record. -/
def recordMember {σ : Type} (tracking : Tracking) (slot : σ → String → Slot σ) (slots : σ) (name : String) :
    Reader σ :=
  match slot slots name with
  | .unknown => (memberValue tracking name pass).map fun _ => slots
  | .taken => fun input => .error (.here (.repeatedField name) (afterRepeated input))
  | .free read => memberValue tracking name read

/-- Reads the end of a record that is written as a list, behind its last field. -/
def readRowEnd (input : Bytes) : Outcome input.length Unit :=
  match h : skipBlanks input with
  | [] => .error (.next .endInList [])
  | first :: rest =>
    if first = 0x5D then .ok ⟨(), rest, length_lt_of_skipBlanks h⟩
    else if first = comma then
      match skipBlanks rest with
      | [] => .error (.next .trailingCharacters [])
      | second :: others =>
        if second = 0x5D then .error (.next .commaBeforeEnd (second :: others))
        else .error (.next .trailingCharacters (second :: others))
    else .error (.next .trailingCharacters (first :: rest))

/-- The place of a field in the list form of a record. -/
structure RowPlace where
  record : String
  fields : Nat
  index : Nat

/-- Reads the next field of a record that is written as a list. -/
def readRowField {α : Type} (tracking : Tracking) (place : RowPlace) (read : Reader α) (input : Bytes) :
    Outcome input.length α :=
  match (nextItem (place.index = 0) input).within tracking (.index place.index) with
  | .error fault => .error fault
  | .ok more =>
    if more.value then
      ((read more.rest).within tracking (.index place.index)).widen (Nat.le_of_lt_succ more.shorter)
    else .error (.here (.wrongLength place.index place.record place.fields) more.rest)

mutual

/-- Reads a value that fits the schema. -/
def Schema.read (tracking : Tracking) : (schema : Schema) → (levels : Nat) → Reader schema.Carrier
  | .text => fun _ => readText
  | .truth => fun _ => readTruth
  | .int64 => fun _ => readInteger "i64" int64Of?
  | .uint32 => fun _ => readInteger "u32" uint32Of?
  | .optional inner => fun levels => readOptional (inner.read tracking levels)
  | .list item => fun levels => readList tracking (item.read tracking) levels
  | .dictionary => fun levels => readEntries tracking Dictionary.insert Dictionary.empty (fun _ => readText) levels
  | .object => fun levels => readEntries tracking putMember [] (value tracking) levels
  | .variant names => fun levels => readVariant names levels
  | .record name fields => fun levels =>
    afterBlanks .endInValue fun first rest =>
      if first = 0x5B then
        deeper levels (first :: rest) fun fewer =>
          (fields.readRow tracking fewer ⟨name, fields.count, 0⟩ rest).afterFirst
      else if first = 0x7B then
        deeper levels (first :: rest) fun fewer =>
          (members tracking (recordMember tracking fun slots key => fields.slot tracking fewer slots key)
            fields.complete true fields.free rest (length_le_self rest)).afterFirst
      else .error (mismatch s!"struct {name}" first rest)

/-- What the record does with a key when some slots are filled. -/
def Fields.slot (tracking : Tracking) :
    (fields : Fields) → (levels : Nat) → fields.Slots → (key : String) → Slot fields.Slots
  | .none => fun _ _ _ => .unknown
  | .field name schema others => fun levels slots key =>
    if key = name then
      if slots.1.isSome then .taken
      else .free ((schema.read tracking levels).map fun v => (some v, slots.2))
    else
      match others.slot tracking levels slots.2 key with
      | .unknown => .unknown
      | .taken => .taken
      | .free read => .free (read.map fun filled => (slots.1, filled))

/-- Reads the fields in the declared order, and the end of the list. -/
def Fields.readRow (tracking : Tracking) : (fields : Fields) → (levels : Nat) → RowPlace → Reader fields.Row
  | .none => fun _ _ => readRowEnd
  | .field _ schema others => fun levels place =>
    Reader.andThen (readRowField tracking place (schema.read tracking levels)) fun v =>
      Reader.map (fun row => (v, row)) (others.readRow tracking levels { place with index := place.index + 1 })

end

/-- Reads one value that fits the schema, with nothing but blanks around it. -/
def Schema.readWhole (tracking : Tracking) (schema : Schema) (source : Bytes) : Except Fault schema.Carrier :=
  match schema.read tracking deepest source with
  | .error fault => .error fault
  | .ok p =>
    match skipBlanks p.rest with
    | [] => .ok p.value
    | rest => .error (.next .trailingCharacters rest)

/-- The value that a text as a whole means. -/
def Schema.decode (tracking : Tracking) (schema : Schema) (source : Bytes) : Except Report schema.Carrier :=
  match schema.readWhole tracking source with
  | .ok v => .ok v
  | .error fault => .error (fault.report source)

mutual

/-- The canonical text of a value that fits the schema. -/
def Schema.written : (schema : Schema) → schema.Carrier → String
  | .text => writtenText
  | .truth => writtenTruth
  | .int64 => fun n => toString n.toInt
  | .uint32 => fun n => toString n.toNat
  | .optional inner => fun v =>
    match v with
    | none => "null"
    | some a => inner.written a
  | .list item => fun vs => writtenArray (vs.map item.written)
  | .dictionary => fun d => writtenObject (d.entries.map fun e => (e.1, writtenText e.2))
  | .object => fun ms => writtenObject (Value.writtenMembers ms)
  | .variant names => fun i => writtenText (names.get i)
  | .record _ fields => fun row => writtenObject (fields.writtenRow row)

/-- The names of the fields with their written values, in the declared order. -/
def Fields.writtenRow : (fields : Fields) → fields.Row → List (String × String)
  | .none => fun _ => []
  | .field name schema others => fun row => (name, schema.written row.1) :: others.writtenRow row.2

end

/-- A type whose elements are written in JSON by a schema. -/
class Described (α : Type) where
  schema : Schema
  toCarrier : α → schema.Carrier
  ofCarrier : schema.Carrier → α
  ofCarrier_toCarrier : ∀ a, ofCarrier (toCarrier a) = a

section Described

variable {α : Type} [Described α]

/-- The element that a text means; a report names the way to the value in question if it is noted. -/
def decodeWith (tracking : Tracking) (α : Type) [Described α] (source : Bytes) : Except Report α :=
  match (Described.schema α).decode tracking source with
  | .ok v => .ok (Described.ofCarrier v)
  | .error report => .error report

/-- The element that a text means. -/
def decode (α : Type) [Described α] (source : Bytes) : Except Report α :=
  decodeWith .off α source

/-- The canonical text of an element. -/
def encode (a : α) : String :=
  (Described.schema α).written (Described.toCarrier a)

end Described

end Json

end ChatOpening
