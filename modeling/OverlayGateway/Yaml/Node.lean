import OverlayGateway.Text.Quoted
import OverlayGateway.Yaml.Anchor
import OverlayGateway.Yaml.Plain
/-!
The content of YAML documents. Aliases stand for what bears their name, tags of the common kinds for
what they ask of a scalar, and every other tag stays with its node. No key of a mapping is there
twice, and nodes are nested to a limited depth.
-/

set_option autoImplicit false
set_option relaxedAutoImplicit false

namespace OverlayGateway.Yaml

inductive Node where
  | null
  | bool (value : Bool)
  | number (value : Number)
  | text (value : String)
  | sequence (items : List Node)
  /-- Members in the order in which they are written, no key twice. -/
  | mapping (members : List (Node × Node))
  /-- A node with a tag of the document's own. -/
  | tagged (tag : String) (content : Node)
  deriving Inhabited

namespace Node

/-- A node without the tags in front of it. -/
def untagged : Node → Node
  | .tagged _ content => content.untagged
  | node => node

/-- What a node is, in words. -/
def describe : Node → String
  | .null => "unit value"
  | .bool value => if value then "boolean `true`" else "boolean `false`"
  | .number (.int value) => "integer `" ++ integerText value ++ "`"
  | .number (.float value) => "floating point `" ++ Decimal.positionalText value ++ "`"
  | .text value => "string " ++ Text.quoted value
  | .sequence _ => "sequence"
  | .mapping _ => "map"
  | .tagged _ _ => "enum"

mutual

/-- Whether two nodes are the same; the order of members does not matter. -/
def isSame : Node → Node → Bool
  | .null, .null => true
  | .bool a, .bool b => a == b
  | .number a, .number b => a.isSame b
  | .text a, .text b => a == b
  | .sequence a, .sequence b => allSame a b
  | .mapping a, .mapping b => a.length == b.length && allAmong a b
  | .tagged s a, .tagged t b => s == t && isSame a b
  | _, _ => false

def allSame : List Node → List Node → Bool
  | [], [] => true
  | a :: as, b :: bs => isSame a b && allSame as bs
  | _, _ => false

def allAmong : List (Node × Node) → List (Node × Node) → Bool
  | [], _ => true
  | (key, value) :: rest, others => isAmong key value others && allAmong rest others

/-- Whether a member is one of some members. -/
def isAmong (key value : Node) : List (Node × Node) → Bool
  | [] => false
  | (otherKey, otherValue) :: rest =>
    (isSame key otherKey && isSame value otherValue) || isAmong key value rest

end

end Node

/-- Why a text has no content. -/
inductive Flaw where
  | malformed
  /-- A document that is an integer of more than 64 bits. -/
  | tooWide (value : Int)
  /-- A document whose tag asks for something else than its text is. -/
  | misfit (text expected : String)
  deriving DecidableEq, Repr

def Flaw.message : Flaw → String
  | .malformed => "the text is no YAML"
  | .tooWide value =>
    "invalid type: integer `" ++ integerText value ++ "` as " ++
      (if value < 0 then "i128" else "u128") ++ ", expected any YAML value"
  | .misfit text expected => "invalid value: string " ++ Text.quoted text ++ ", expected " ++ expected

namespace Scalar

/-- The node of an integer, which has to fit into 64 bits with or without a sign. -/
def ofInteger (value : Int) : Except Flaw Node :=
  if -(UInt64.size / 2 : Int) ≤ value ∧ value < UInt64.size then .ok (.number (.int value))
  else .error (.tooWide value)

/-- The node of a scalar without quotes. -/
def ofPlain (cs : List Char) : Except Flaw Node :=
  if cs = [] || Plain.isNull cs then .ok .null
  else
    match Plain.bool? cs, Plain.integer? cs with
    | some value, _ => .ok (.bool value)
    | none, some value => ofInteger value
    | none, none =>
      match if Plain.hasLeadingZero cs then none else Plain.float? cs with
      | some value => .ok (.number (.float value))
      | none => .ok (.text (String.ofList cs))

/-- The beginning of the common tags. -/
def commonTag (kind : String) : String := "tag:yaml.org,2002:" ++ kind

/-- The node of a scalar with a tag, where the tag is not the document's own. -/
def ofCommon (tag text : String) : Except Flaw Node :=
  let cs := text.toList
  if tag = commonTag "bool" then
    ((Plain.bool? cs).map fun value ↦ .ok (.bool value)).getD (.error (.misfit text "a boolean"))
  else if tag = commonTag "int" then
    ((Plain.integer? cs).map ofInteger).getD (.error (.misfit text "an integer"))
  else if tag = commonTag "float" then
    ((Plain.float? cs).map fun value ↦ .ok (.number (.float value))).getD
      (.error (.misfit text "a float"))
  else if tag = commonTag "null" then
    if Plain.isNull cs then .ok .null else .error (.misfit text "null")
  else .ok (.text text)

/-- The node of a scalar whose tag is none or the document's own. -/
def ofOwn (text : String) (isPlain : Bool) : Except Flaw Node :=
  if isPlain then ofPlain text.toList else .ok (.text text)

end Scalar

namespace Tree

/-- How many collections may stand in one another. -/
def deepest : Nat := 128

/-- How many aliases are followed for each event of a document. -/
def jumpsEach : Nat := 100

/-- The name of a tag that is the document's own. -/
def ownTag? (tag : Option String) : Option String :=
  tag.filter fun tag ↦ tag.toList.head? = some '!'

/-- A node behind a tag, which stays with it if it is the document's own. -/
def behind (tag : Option String) (node : Node) : Node :=
  match ownTag? tag with
  | some tag => .tagged tag node
  | none => node

/-- The node of a scalar with what stands in front of it. -/
def scalarNode (tag : Option String) (text : String) (isPlain : Bool) : Except Flaw Node :=
  (match tag, ownTag? tag with
    | some tag, none => Scalar.ofCommon tag text
    | _, _ => Scalar.ofOwn text isPlain).map (behind tag)

/-- A flaw that is told apart only where it concerns the whole document. -/
def seen {α : Type} (isOutermost : Bool) (result : Except Flaw α) : Except Flaw α :=
  if isOutermost then result else result.mapError fun _ ↦ .malformed

/-- What a tree is: itself, or for an alias what bears its label. A number of jumps is left. -/
def follow (bearers : List (String × Tree)) : Tree → StateT Nat (Except Flaw) Tree
  | .alias label => do
    let jumps ← get
    if jumps = 0 then throw .malformed
    set (jumps - 1)
    match bearers.lookup label with
    | some tree => return tree
    | none => throw .malformed
  | tree => return tree

/-- The node of a tree with labels, whose bearers are given with the last one first. Collections
stand in one another less deep than `fuel`. -/
def content (bearers : List (String × Tree)) (isOutermost : Bool) :
    Nat → Tree → StateT Nat (Except Flaw) Node
  | 0, _ => throw .malformed
  | fuel + 1, tree => do
    match ← follow bearers tree with
    | .alias _ => throw .malformed
    | .scalar properties text isPlain =>
      seen isOutermost (scalarNode properties.tag text isPlain)
    | .sequence properties items =>
      if fuel = 0 then throw .malformed
      return behind properties.tag (.sequence (← items.mapM (content bearers false fuel)))
    | .mapping properties members =>
      if fuel = 0 then throw .malformed
      let members ← members.foldlM
        (fun (known : List (Node × Node)) member ↦ do
          let key ← content bearers isOutermost fuel member.1
          if known.any fun other ↦ key.isSame other.1 then throw .malformed
          let value ← content bearers false fuel member.2
          return known ++ [(key, value)])
        []
      return behind properties.tag (.mapping members)

/-- The node of a document. -/
def node (tree : Tree) : Except Flaw Node := do
  match tree.labelled? [] with
  | none => throw .malformed
  | some (tree, _) =>
    (content tree.bearers.reverse true (deepest + 1) tree).run' (tree.size * jumpsEach)

end Tree

/-- The documents of a text, each with its node unless it is flawed. -/
def read (s : String) : List (Except Flaw Node) :=
  (Tree.documents s).map fun
    | some tree => tree.node
    | none => .error .malformed

end OverlayGateway.Yaml
