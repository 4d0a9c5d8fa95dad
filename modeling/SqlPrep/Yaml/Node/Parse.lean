import SqlPrep.Yaml.Node
import SqlPrep.Yaml.Token.Stream

/-!
# The node of a document

Reads the one document that a row of tokens may hold as a node. An alias stands for the node whose
anchor it names; a node cannot stand inside itself.
-/

namespace SqlPrep.Yaml

/-- What is known between two tokens: those left, what tag handles stand for, the nodes with anchors
so far (`none` inside the node itself), and how many nodes have been read. -/
structure Reading where
  tokens : List Token
  handles : List (List Char × List Char)
  anchors : List (List Char × Option Node)
  count : Nat

/-- A reader of a part of a row of tokens. -/
abbrev Parse (α : Type) := StateT Reading (Except ReadError) α

namespace Parse

/-- Fails with a fault of the document. -/
def fail (fault : Fault) : Parse α :=
  throw (.malformed fault)

/-- The next token. -/
def peek : Parse Token :=
  return ((← get).tokens.head?).getD .streamEnd

/-- Goes on after the next token. -/
def next : Parse Unit :=
  modify fun r => { r with tokens := r.tokens.tail }

/-- Goes on after the next token, which has to be a given one. -/
def expect (t : Token) : Parse Unit := do
  if (← peek) = t then next else fail .unexpectedToken

/-- An identity that no node has yet. -/
def fresh : Parse (Option Nat) := do
  let r ← get
  set { r with count := r.count + 1 }
  return some r.count

/-- Takes down a name for a node, or for the node that is being read. -/
def anchored (name : List Char) (node : Option Node) : Parse Unit :=
  modify fun r => { r with anchors := (name, node) :: r.anchors }

/-- The properties in front of a node. -/
structure Properties where
  anchor : Option (List Char) := none
  tag : Option WrittenTag := none

/-- An anchor, if one is next. -/
def anchor? : Parse (Option (List Char)) := do
  match ← peek with
  | .anchor name =>
    next
    return some name
  | _ => return none

/-- A tag, if one is next. -/
def tag? : Parse (Option WrittenTag) := do
  match ← peek with
  | .tag written =>
    next
    return some written
  | _ => return none

/-- An anchor and a tag in either order, both optional. -/
def properties : Parse Properties := do
  match ← anchor? with
  | some name => return ⟨some name, ← tag?⟩
  | none =>
    match ← tag? with
    | some written => return ⟨← anchor?, some written⟩
    | none => return {}

/-- The full name of a tag. The tag `!` asks for the tag that a node has without one. -/
def fullTag (written : WrittenTag) : Parse (Option Tag) := do
  let name ←
    match written.handle with
    | none => pure written.suffix
    | some handle =>
      match (← get).handles.lookup handle with
      | some start => pure (start ++ written.suffix)
      | none => fail .tagHandle
  return if name = ['!'] then none else some (Tag.ofName name)

/-- A scalar without text. -/
def empty : Parse Node :=
  return .scalar (← fresh) .null []

/-- The node that an alias stands for. -/
def aliased (name : List Char) : Parse Node := do
  match (← get).anchors.lookup name with
  | some (some node) => return node
  | _ => fail .undefinedAlias

/-- Whether a token ends the member of a flow sequence, a flow mapping or a block collection. -/
def endsFlowItem (t : Token) : Bool :=
  t == .flowEntry || t == .flowSequenceEnd

@[inherit_doc endsFlowItem] def endsFlowPair (t : Token) : Bool :=
  t == .flowEntry || t == .flowMappingEnd

@[inherit_doc endsFlowItem] def endsBlockItem (t : Token) : Bool :=
  t == .key || t == .value || t == .blockEnd

/-- Where a node stands: in a flow collection, in a block, or in a block where a sequence need not
be indented. -/
inductive Place where
  | flow
  | block
  | mappingValue
  deriving DecidableEq

mutual

/-- A node. -/
def node (place : Place) : Nat → Parse Node
  | 0 => fail .tooDeep
  | fuel + 1 => do
    if let .alias name ← peek then
      next
      return ← aliased name
    let p ← properties
    if let some name := p.anchor then
      if ((← get).anchors.lookup name).isSome then fail .repeatedAnchor
    let tag ←
      match p.tag with
      | some written => fullTag written
      | none => pure none
    let identity ← fresh
    if let some name := p.anchor then anchored name none
    let node ← content place p identity tag fuel
    if let some name := p.anchor then anchored name (some node)
    return node

/-- A node without its properties. -/
def content (place : Place) (p : Properties) (identity : Option Nat) (tag : Option Tag) :
    Nat → Parse Node
  | 0 => fail .tooDeep
  | fuel + 1 => do
    match ← peek with
    | .scalar text plain =>
      next
      let untagged := if plain || p.tag.isSome then Tag.implicit text else .str
      return .scalar identity (tag.getD untagged) text
    | .flowSequenceStart =>
      next
      return .sequence identity (tag.getD .seq) (← flowItems true fuel)
    | .flowMappingStart =>
      next
      return .mapping identity (tag.getD .map) (← flowPairs true fuel)
    | .entry =>
      if place = .mappingValue then
        return .sequence identity (tag.getD .seq) (← looseItems fuel)
      bare p identity tag
    | .sequenceStart =>
      if place = .flow then return ← bare p identity tag
      next
      return .sequence identity (tag.getD .seq) (← blockItems fuel)
    | .mappingStart =>
      if place = .flow then return ← bare p identity tag
      next
      return .mapping identity (tag.getD .map) (← blockPairs fuel)
    | _ => bare p identity tag

/-- A node of which only properties are written. -/
def bare (p : Properties) (identity : Option Nat) (tag : Option Tag) : Parse Node := do
  if p.anchor.isNone && p.tag.isNone then fail .unexpectedToken
  return .scalar identity (tag.getD .null) []

/-- A node, or an empty scalar in front of a token that ends the place. -/
def nodeUnless (ends : Token → Bool) (place : Place) : Nat → Parse Node
  | 0 => fail .tooDeep
  | fuel + 1 => do
    if ends (← peek) then empty else node place fuel

/-- The value after a key, if there is one. -/
def valueUnless (ends : Token → Bool) (place : Place) : Nat → Parse Node
  | 0 => fail .tooDeep
  | fuel + 1 => do
    if (← peek) = .value then
      next
      nodeUnless ends place fuel
    else empty

/-- The members of a block sequence. -/
def blockItems : Nat → Parse (List Node)
  | 0 => fail .tooDeep
  | fuel + 1 => do
    if (← peek) = .entry then
      next
      let item ← nodeUnless (fun t => t == .entry || t == .blockEnd) .block fuel
      return item :: (← blockItems fuel)
    expect .blockEnd
    return []

/-- The members of a sequence that is not indented inside its mapping. -/
def looseItems : Nat → Parse (List Node)
  | 0 => fail .tooDeep
  | fuel + 1 => do
    if (← peek) = .entry then
      next
      let item ← nodeUnless (fun t => t == .entry || endsBlockItem t) .block fuel
      return item :: (← looseItems fuel)
    return []

/-- The entries of a block mapping. -/
def blockPairs : Nat → Parse (List (Node × Node))
  | 0 => fail .tooDeep
  | fuel + 1 => do
    if (← peek) = .key then
      next
      let key ← nodeUnless endsBlockItem .mappingValue fuel
      let value ← valueUnless endsBlockItem .mappingValue fuel
      return (key, value) :: (← blockPairs fuel)
    expect .blockEnd
    return []

/-- The members of a flow sequence. A key in it makes a mapping of one entry. -/
def flowItems (first : Bool) : Nat → Parse (List Node)
  | 0 => fail .tooDeep
  | fuel + 1 => do
    if (← peek) = .flowSequenceEnd then
      next
      return []
    if !first then expect .flowEntry
    match ← peek with
    | .flowSequenceEnd =>
      next
      return []
    | .key =>
      next
      let identity ← fresh
      let key ← nodeUnless (fun t => t == .value || endsFlowItem t) .flow fuel
      let value ← valueUnless endsFlowItem .flow fuel
      return .mapping identity .map [(key, value)] :: (← flowItems false fuel)
    | _ =>
      let item ← node .flow fuel
      return item :: (← flowItems false fuel)

/-- The entries of a flow mapping. A node without a value is a key with an empty one. -/
def flowPairs (first : Bool) : Nat → Parse (List (Node × Node))
  | 0 => fail .tooDeep
  | fuel + 1 => do
    if (← peek) = .flowMappingEnd then
      next
      return []
    if !first then expect .flowEntry
    match ← peek with
    | .flowMappingEnd =>
      next
      return []
    | .key =>
      next
      let key ← nodeUnless (fun t => t == .value || endsFlowPair t) .flow fuel
      let value ← valueUnless endsFlowPair .flow fuel
      return (key, value) :: (← flowPairs false fuel)
    | _ =>
      let key ← node .flow fuel
      let value ← empty
      return (key, value) :: (← flowPairs false fuel)

end

/-- What the two tag handles stand for that need no directive. -/
def standardHandles : List (List Char × List Char) :=
  [(['!'], ['!']), (['!', '!'], Tag.standard.toList)]

/-- The directives in front of a document: the tag handles that they define. -/
def directives (versioned : Bool) (handles : List (List Char × List Char)) :
    List Token → Except ReadError (List (List Char × List Char) × List Token)
  | .directive d :: rest =>
    match d with
    | .version major _ =>
      if versioned then .error (.malformed .repeatedDirective)
      else if major ≠ 1 then .error (.malformed .version)
      else directives true handles rest
    | .tag handle start =>
      if (handles.lookup handle).isSome then .error (.malformed .repeatedDirective)
      else directives versioned ((handle, start) :: handles) rest
    | .other => directives versioned handles rest
  | rest => .ok (handles ++ standardHandles, rest)

/-- Whether a document without content ends at a token. -/
def endsDocument : Token → Bool
  | .directive _ | .documentStart | .documentEnd | .streamEnd => true
  | _ => false

/-- The content of a document, from its first token on. -/
def document (explicit : Bool) (handles : List (List Char × List Char)) (tokens : List Token) :
    Except ReadError (Node × List Token) := do
  let fuel := 4 * tokens.length + 8
  let part := if explicit then nodeUnless endsDocument .block fuel else node .block fuel
  let (node, r) ← part.run ⟨tokens, handles, [], 0⟩
  return (node, r.tokens)

end Parse

/-- The node of the one document in a row of tokens, or none if there is no document. -/
def Node.ofTokens (tokens : List Token) : Except ReadError (Option Node) := do
  let (node, rest) ←
    match tokens with
    | [] | .streamEnd :: _ => return none
    | .directive _ :: _ | .documentStart :: _ => do
      let (handles, rest) ← Parse.directives false [] tokens
      match rest with
      | .documentStart :: rest => Parse.document true handles rest
      | _ => throw (.malformed .unexpectedToken)
    | _ => Parse.document false Parse.standardHandles tokens
  match rest.dropWhile (· == .documentEnd) with
  | [] | .streamEnd :: _ => return some node
  | _ => throw (.malformed .severalDocuments)

/-- The node of the document that a text holds, or none if it holds no document. -/
def Node.ofText (text : List Char) : Except ReadError (Option Node) := do
  Node.ofTokens (← Token.ofText text)

end SqlPrep.Yaml
