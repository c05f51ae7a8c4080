import OverlayGateway.Yaml.Node
/-!
Decoding YAML nodes. The members of a record are taken in the order in which they are written, those
with other names are passed over, and a record that is not there has no members; the first node that
is not what it has to be is the fault. Tags in front of a node count only where a choice is made.
-/

set_option autoImplicit false
set_option relaxedAutoImplicit false

namespace OverlayGateway.Yaml

/-- Why a node does not decode. -/
inductive Fault where
  | mismatch (found : Node) (expected : String)
  | missing (field : String)
  /-- A text that is none of the words for a choice. -/
  | unknownWord (word : String)

def Fault.message : Fault → String
  | .mismatch found expected => "invalid type: " ++ found.describe ++ ", expected " ++ expected
  | .missing field => "missing field `" ++ field ++ "`"
  | .unknownWord word => "unknown variant `" ++ word ++ "`"

abbrev Decoder (α : Type) := Node → Except Fault α

/-- A text, where something else is expected in words. -/
def asTextFor (expected : String) : Decoder String := fun node ↦
  match node.untagged with
  | .text value => .ok value
  | node => .error (.mismatch node expected)

def asText : Decoder String := asTextFor "a string"

def asBool : Decoder Bool := fun node ↦
  match node.untagged with
  | .bool value => .ok value
  | node => .error (.mismatch node "a boolean")

def asNull : Decoder Unit := fun node ↦
  match node.untagged with
  | .null => .ok ()
  | node => .error (.mismatch node "unit")

/-- One of some words; as a tag it stands in front of nothing. -/
def asWord (words : List String) : Decoder Unit
  | .text value => if words.contains value then .ok () else .error (.unknownWord value)
  | .tagged tag content =>
    let word := String.ofList (if tag = "!" then ['!'] else tag.toList.drop 1)
    if words.contains word then asNull content else .error (.unknownWord word)
  | node => .error (.mismatch node "a Value::Tagged enum")

def asListOf {α : Type} (decode : Decoder α) : Decoder (List α) := fun node ↦
  match node.untagged with
  | .null => .ok []
  | .sequence items => items.mapM decode
  | node => .error (.mismatch node "a sequence")

def asMapOf {α : Type} (decode : Decoder α) : Decoder (List (String × α)) := fun node ↦
  match node.untagged with
  | .null => .ok []
  | .mapping members => members.mapM fun (key, value) ↦ do
    let key ← asText key
    return (key, ← decode value)
  | node => .error (.mismatch node "a map")

/-- Nothing for a null, else what is decoded. -/
def orNull {α : Type} (decode : Decoder α) : Decoder (Option α)
  | .null => .ok none
  | node => (decode node).map some

mutual

/-- A check of a value that JSON has as well. -/
def asJson : Decoder Unit
  | .sequence items => allJson items
  | .mapping members => membersJson members
  | .tagged tag content => .error (.mismatch (.tagged tag content) "any valid JSON value")
  | _ => .ok ()

def allJson : List Node → Except Fault Unit
  | [] => .ok ()
  | item :: items => do
    asJson item
    allJson items

def membersJson : List (Node × Node) → Except Fault Unit
  | [] => .ok ()
  | (key, value) :: members => do
    let _ ← asTextFor "a string key" key
    asJson value
    membersJson members

end

/-- A record whose members are taken one after the other. -/
def asRecord {α : Type} (record : String) (start : α)
    (take : α → String → Node → Except Fault α) : Decoder α := fun node ↦
  match node.untagged with
  | .null => .ok start
  | .mapping members =>
    members.foldlM
      (fun value member ↦ do take value (← asTextFor "field identifier" member.1) member.2) start
  | node => .error (.mismatch node ("struct " ++ record))

/-- The value of a field that has to be there. -/
def required {α : Type} (field : String) : Option α → Except Fault α
  | some value => .ok value
  | none => .error (.missing field)

end OverlayGateway.Yaml
