import OverlayGateway.Json.Reading
import OverlayGateway.Text.Quoted
/-!
Decoding what was read. A decoder goes through the tree in reading order and stops at the first
fault, which is either a place where the text is no JSON or a value other than the one expected
there. A record may be written as an object or as an array of its fields in order; members with
other names are passed over.
-/

set_option autoImplicit false
set_option relaxedAutoImplicit false

namespace OverlayGateway.Json

/-- A step from a value to one inside it. -/
inductive Step where
  | key (name : String)
  | index (position : Nat)
  deriving DecidableEq, Repr

/-- Why a text does not decode. -/
inductive Fault where
  /-- The text is no JSON. -/
  | malformed
  /-- A value is not what it has to be; where it stands, and in words what is wrong. -/
  | schema (path : List Step) (message : String)
  deriving DecidableEq, Repr

abbrev Decoder (α : Type) := Reading → Except Fault α

/-- A fault inside a value, seen from outside. -/
def Fault.inside (step : Step) : Fault → Fault
  | .malformed => .malformed
  | .schema path message => .schema (step :: path) message

/-- Runs a decoder on a value inside another one. -/
def within {α : Type} (step : Step) (result : Except Fault α) : Except Fault α :=
  result.mapError (Fault.inside step)

/-- The path to a fault, in words. -/
def pathText : List Step → List Char
  | [] => []
  | .key name :: path =>
    name.toList ++
      (match path with
        | .key _ :: _ => '.' :: pathText path
        | _ => pathText path)
  | .index position :: path =>
    '[' :: Nat.toDigits 10 position ++ ']' ::
      (match path with
        | .key _ :: _ => '.' :: pathText path
        | _ => pathText path)

/-- A message with the path to the fault in front. -/
def located (path : List Step) (message : String) : String :=
  if path = [] then message else String.ofList (pathText path) ++ ": " ++ message

/-- What a value is, in words; nothing where the text is no JSON. -/
def Reading.describe? : Reading → Option String
  | .null => some "null"
  | .bool value => some (if value then "boolean `true`" else "boolean `false`")
  | .number numeral =>
    match numeral.value? with
    | some (.int value) => some ("integer `" ++ (Number.int value).text ++ "`")
    | some (.float value) => some ("floating point `" ++ (Number.float value).text ++ "`")
    | none => none
  | .string (some text) => some ("string " ++ Text.quoted text)
  | .string none => none
  | .array _ _ => some "sequence"
  | .object _ _ => some "map"
  | .broken => none

/-- The fault of a value that is not the one expected. -/
def mismatch (expected : String) (value : Reading) : Fault :=
  match value.describe? with
  | some found => .schema [] ("invalid type: " ++ found ++ ", expected " ++ expected)
  | none => .malformed

def asText : Decoder String
  | .string (some text) => .ok text
  | value => .error (mismatch "a string" value)

/-- Decodes items in order, counting them from `index`. -/
def eachItem {α : Type} (decode : Decoder α) (index : Nat) :
    List Reading → Except Fault (List α)
  | [] => .ok []
  | item :: items => do
    let first ← within (.index index) (decode item)
    let rest ← eachItem decode (index + 1) items
    return first :: rest

/-- The end of an array or an object, which is missing if the text breaks off. -/
def atEnd {α : Type} (closed : Bool) (value : α) : Except Fault α :=
  if closed then .ok value else .error .malformed

def asListOf {α : Type} (decode : Decoder α) : Decoder (List α)
  | .array items closed => do
    let values ← eachItem decode 0 items
    atEnd closed values
  | value => .error (mismatch "a sequence" value)

/-- Nothing for `null`, else what is decoded. -/
def orNull {α : Type} (decode : Decoder α) : Decoder (Option α)
  | .null => .ok none
  | value => (decode value).map some

/-- Decodes members in order; of two members with one key the later one counts. -/
def eachMember {α : Type} (decode : Decoder α) :
    List (Option String × Reading) → Except Fault (List (String × α))
  | [] => .ok []
  | (none, _) :: _ => .error .malformed
  | (some key, value) :: members => do
    let first ← within (.key key) (decode value)
    let rest ← eachMember decode members
    return (key, first) :: rest

def asMapOf {α : Type} (decode : Decoder α) : Decoder (List (String × α))
  | .object members closed => do
    let values ← eachMember decode members
    atEnd closed values
  | value => .error (mismatch "a map" value)

/-- A field of a record: its name, how its value decodes, and what it is when it is not there. -/
structure RecordField (α : Type) where
  name : String
  decode : Decoder α
  absent : Option α

/-- Decodes the fields among the members, in the order of the members. -/
def eachField {α : Type} (fields : List (RecordField α)) (seen : List (String × α)) :
    List (Option String × Reading) → Except Fault (List (String × α))
  | [] => .ok seen
  | (none, _) :: _ => .error .malformed
  | (some key, value) :: members =>
    match fields.find? fun field ↦ field.name = key with
    | none => eachField fields seen members
    | some field =>
      if seen.any fun entry ↦ entry.1 = key then
        .error (.schema [] ("duplicate field `" ++ key ++ "`"))
      else do
        let decoded ← within (.key key) (field.decode value)
        eachField fields ((key, decoded) :: seen) members

/-- Every field with its value, in the order of the record. -/
def complete {α : Type} (seen : List (String × α)) :
    List (RecordField α) → Except Fault (List α)
  | [] => .ok []
  | field :: fields =>
    match (seen.lookup field.name).or field.absent with
    | none => .error (.schema [] ("missing field `" ++ field.name ++ "`"))
    | some value => (complete seen fields).map (value :: ·)

/-- The number of fields in words. -/
def elementCount (n : Nat) : String :=
  if n = 1 then "1 element" else Decimal.write n ++ " elements"

/-- Decodes fields by their places in an array, counting from `index`; also gives the items that are
left over. -/
def eachPlace {α : Type} (record : String) (total : Nat) (closed : Bool) (index : Nat) :
    List (RecordField α) → List Reading → Except Fault (List α × List Reading)
  | [], items => .ok ([], items)
  | field :: fields, [] =>
    if !closed then .error .malformed
    else
      match field.absent with
      | none =>
        .error (.schema [] ("invalid length " ++ Decimal.write index ++ ", expected struct " ++
          record ++ " with " ++ elementCount total))
      | some value => do
        let (values, items) ← eachPlace record total closed (index + 1) fields []
        return (value :: values, items)
  | field :: fields, item :: items => do
    let first ← within (.index index) (field.decode item)
    let (values, items) ← eachPlace record total closed (index + 1) fields items
    return (first :: values, items)

/-- A record as an object with any other members, or as an array with no other items. -/
def asRecord {α : Type} (record : String) (fields : List (RecordField α)) :
    Decoder (List α)
  | .object members closed => do
    let seen ← eachField fields [] members
    atEnd closed ()
    complete seen fields
  | .array items closed => do
    let (values, extra) ← eachPlace record fields.length closed 0 fields items
    atEnd (closed && extra.isEmpty) values
  | value => .error (mismatch ("struct " ++ record) value)

/-- Decodes a whole text; what follows the value has to be blank. -/
def Document.decode {α : Type} (decode : Decoder α) (document : Document) : Except Fault α := do
  let value ← decode document.value
  atEnd document.clean value

end OverlayGateway.Json
