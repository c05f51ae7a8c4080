import OverlayGateway.Yaml.Token.Lexer
/-!
The structure of YAML documents: what stands in what, with anchors, tags and aliases as they are
written. A place where a node may stand and none does holds an empty scalar.
-/

set_option autoImplicit false
set_option relaxedAutoImplicit false

namespace OverlayGateway.Yaml

/-- What may stand in front of a node: a name under which it can be had again, and a tag. -/
structure Properties where
  anchor : Option String := none
  tag : Option String := none
  deriving DecidableEq, Repr

inductive Tree where
  | alias (name : String)
  | scalar (properties : Properties) (text : String) (isPlain : Bool)
  | sequence (properties : Properties) (items : List Tree)
  | mapping (properties : Properties) (members : List (Tree × Tree))
  deriving Inhabited

namespace Tree

/-- The scalar where nothing is written. -/
def empty : Tree := .scalar {} "" true

/-- What the handles of tags stand for. -/
abbrev Handles := List (String × String)

/-- The handles that are always there. -/
def commonHandles : Handles := [("!", "!"), ("!!", "tag:yaml.org,2002:")]

/-- A tag in full. -/
def fullTag? (handles : Handles) (handle suffix : String) : Option String :=
  if handle = "" then some suffix
  else (handles.lookup handle).map fun expansion ↦ expansion ++ suffix

/-- The anchor and the tag in front of a node, in either order. -/
def properties? (handles : Handles) : List Token → Option (Properties × List Token)
  | .anchor name :: .tag handle suffix :: rest => do
    return ({ anchor := some name, tag := some (← fullTag? handles handle suffix) }, rest)
  | .tag handle suffix :: .anchor name :: rest => do
    return ({ anchor := some name, tag := some (← fullTag? handles handle suffix) }, rest)
  | .anchor name :: rest => some ({ anchor := some name }, rest)
  | .tag handle suffix :: rest => do
    return ({ tag := some (← fullTag? handles handle suffix) }, rest)
  | tokens => some ({}, tokens)

/-- The tag that says nothing makes a scalar without quotes plain. -/
def ofScalar (properties : Properties) (text : String) (isPlain : Bool) : Tree :=
  if properties.tag = some "!" then .scalar { properties with tag := none } text isPlain
  else .scalar properties text isPlain

/-- Where a node may stand. -/
inductive Place where
  | flow
  | block
  /-- In a mapping, whose column the dashes of a sequence may stand in as well. -/
  | member
  deriving DecidableEq, Repr

/-- Whether a token shows that no node stands in front of it. -/
def isOneOf (tokens : List Token) (ends : List Token) : Bool :=
  tokens.head?.any ends.contains

mutual

/-- Reads a node; `fuel` bounds how deep and how long it can be. -/
def node? (handles : Handles) (place : Place) :
    Nat → List Token → Option (Tree × List Token)
  | 0, _ => none
  | _ + 1, .alias name :: rest => some (.alias name, rest)
  | fuel + 1, tokens => do
    let (properties, tokens) ← properties? handles tokens
    match tokens with
    | .blockEntry :: _ =>
      if place = .member then do
        let (items, rest) ← dashes? handles fuel tokens
        return (.sequence properties items, rest)
      else if properties = {} then none
      else return (.scalar properties "" true, tokens)
    | .scalar text isPlain :: rest => return (ofScalar properties text isPlain, rest)
    | .flowSequence :: rest =>
      let (items, rest) ← flowItems? handles true fuel rest
      return (.sequence properties items, rest)
    | .flowMapping :: rest =>
      let (members, rest) ← flowMembers? handles true fuel rest
      return (.mapping properties members, rest)
    | .blockSequence :: rest =>
      if place = .flow then
        if properties = {} then none else return (.scalar properties "" true, tokens)
      else
        let (items, rest) ← blockItems? handles fuel rest
        return (.sequence properties items, rest)
    | .blockMapping :: rest =>
      if place = .flow then
        if properties = {} then none else return (.scalar properties "" true, tokens)
      else
        let (members, rest) ← blockMembers? handles fuel rest
        return (.mapping properties members, rest)
    | tokens =>
      if properties = {} then none else return (.scalar properties "" true, tokens)

/-- Reads a node, or an empty scalar in front of some tokens. -/
def nodeUnless? (handles : Handles) (place : Place) (ends : List Token) :
    Nat → List Token → Option (Tree × List Token)
  | 0, _ => none
  | fuel + 1, tokens =>
    if isOneOf tokens ends then some (empty, tokens) else node? handles place fuel tokens

/-- The items of a block. -/
def blockItems? (handles : Handles) : Nat → List Token → Option (List Tree × List Token)
  | 0, _ => none
  | fuel + 1, .blockEntry :: rest => do
    let (item, rest) ← nodeUnless? handles .block [.blockEntry, .blockEnd] fuel rest
    let (items, rest) ← blockItems? handles fuel rest
    return (item :: items, rest)
  | _ + 1, .blockEnd :: rest => some ([], rest)
  | _ + 1, _ => none

/-- The items of a sequence in the column of a mapping. -/
def dashes? (handles : Handles) : Nat → List Token → Option (List Tree × List Token)
  | 0, _ => none
  | fuel + 1, .blockEntry :: rest => do
    let (item, rest) ←
      nodeUnless? handles .block [.blockEntry, .key, .value, .blockEnd] fuel rest
    let (items, rest) ← dashes? handles fuel rest
    return (item :: items, rest)
  | _ + 1, tokens => some ([], tokens)

/-- The value behind a key, in front of which some tokens show that there is none. -/
def value? (handles : Handles) (place : Place) (ends : List Token) :
    Nat → List Token → Option (Tree × List Token)
  | 0, _ => none
  | fuel + 1, .value :: rest => nodeUnless? handles place ends fuel rest
  | _ + 1, tokens => some (empty, tokens)

/-- The members of a block. -/
def blockMembers? (handles : Handles) : Nat → List Token → Option (List (Tree × Tree) × List Token)
  | 0, _ => none
  | fuel + 1, .key :: rest => do
    let ends := [.key, .value, .blockEnd]
    let (key, rest) ← nodeUnless? handles .member ends fuel rest
    let (value, rest) ← value? handles .member ends fuel rest
    let (members, rest) ← blockMembers? handles fuel rest
    return ((key, value) :: members, rest)
  | _ + 1, .blockEnd :: rest => some ([], rest)
  | _ + 1, _ => none

/-- The items between square brackets; all but the first one stand behind a comma. A key in front of
an item makes it a mapping of one member. -/
def flowItems? (handles : Handles) (isFirst : Bool) :
    Nat → List Token → Option (List Tree × List Token)
  | 0, _ => none
  | _ + 1, .flowSequenceEnd :: rest => some ([], rest)
  | fuel + 1, tokens => do
    let tokens ← if isFirst then some tokens else match tokens with
      | .flowEntry :: rest => some rest
      | _ => none
    match tokens with
    | .flowSequenceEnd :: rest => return ([], rest)
    | .key :: rest =>
      let (key, rest) ←
        if isOneOf rest [.value, .flowEntry, .flowSequenceEnd] then some (empty, rest.tail)
        else node? handles .flow fuel rest
      let (value, rest) ← value? handles .flow [.flowEntry, .flowSequenceEnd] fuel rest
      let (items, rest) ← flowItems? handles false fuel rest
      return (.mapping {} [(key, value)] :: items, rest)
    | tokens =>
      let (item, rest) ← node? handles .flow fuel tokens
      let (items, rest) ← flowItems? handles false fuel rest
      return (item :: items, rest)

/-- The members between braces; a node without a colon behind it is a key as well. -/
def flowMembers? (handles : Handles) (isFirst : Bool) :
    Nat → List Token → Option (List (Tree × Tree) × List Token)
  | 0, _ => none
  | _ + 1, .flowMappingEnd :: rest => some ([], rest)
  | fuel + 1, tokens => do
    let tokens ← if isFirst then some tokens else match tokens with
      | .flowEntry :: rest => some rest
      | _ => none
    match tokens with
    | .flowMappingEnd :: rest => return ([], rest)
    | .key :: rest =>
      let (key, rest) ← nodeUnless? handles .flow [.value, .flowEntry, .flowMappingEnd] fuel rest
      let (value, rest) ← value? handles .flow [.flowEntry, .flowMappingEnd] fuel rest
      let (members, rest) ← flowMembers? handles false fuel rest
      return ((key, value) :: members, rest)
    | tokens =>
      let (key, rest) ← node? handles .flow fuel tokens
      let (members, rest) ← flowMembers? handles false fuel rest
      return ((key, empty) :: members, rest)

end

/-- The versions of the format. -/
def isVersion (major minor : Nat) : Bool := major = 1 && (minor = 1 || minor = 2)

/-- The handles that directives state, each once, and the tokens behind them. -/
def directives? (isVersioned : Bool) (handles : Handles) :
    List Token → Option (Handles × List Token)
  | .versionDirective major minor :: rest =>
    if isVersioned || !isVersion major minor then none else directives? true handles rest
  | .tagDirective handle expansion :: rest =>
    if (handles.lookup handle).isSome then none
    else directives? isVersioned ((handle, expansion) :: handles) rest
  | tokens => some (handles, tokens)

/-- Whether a document that starts here is started by a sign of its own. -/
def isMarked (tokens : List Token) : Bool :=
  match tokens with
  | .versionDirective _ _ :: _ | .tagDirective _ _ :: _ | .documentStart :: _ => true
  | _ => false

/-- Whether nothing stands in a document behind the sign that starts it. -/
def isEmptyDocument (tokens : List Token) : Bool :=
  match tokens with
  | .documentEnd :: _ | .streamEnd :: _ => true
  | tokens => isMarked tokens

/-- The next document. Only the first one may start without a sign. -/
def document? (isFirst : Bool) (tokens : List Token) : Option (Tree × List Token) := do
  let fuel := 4 * tokens.length + 8
  let (tree, rest) ←
    if isFirst && !isMarked tokens then node? commonHandles .block fuel tokens
    else do
      let (handles, tokens) ← directives? false [] tokens
      match tokens with
      | .documentStart :: rest =>
        if isEmptyDocument rest then some (empty, rest)
        else node? (handles ++ commonHandles) .block fuel rest
      | _ => none
  match rest with
  | .documentEnd :: rest => return (tree, rest)
  | [] => none
  | rest => return (tree, rest)

/-- The documents in some tokens; a faulty one is nothing, and the last one. -/
def documentsFrom : Nat → Bool → List Token → List (Option Tree)
  | 0, _, _ => []
  | fuel + 1, isFirst, tokens =>
    let tokens := if isFirst then tokens else tokens.dropWhile (· = .documentEnd)
    match tokens with
    | [.streamEnd] => []
    | tokens =>
      match document? isFirst tokens with
      | none => [none]
      | some (tree, rest) => some tree :: documentsFrom fuel false rest

/-- The documents of a text. -/
def documents (s : String) : List (Option Tree) :=
  let tokens := (Token.ofChars s.toList).toList
  documentsFrom (tokens.length + 1) true tokens

end Tree

end OverlayGateway.Yaml
