import RunCharts.Yaml.Resolve
import RunCharts.Yaml.Token

/-!
# Graphs of nodes

The nodes of a token sequence. Nodes refer to each other by their places, so that an alias refers to
the node that it names, and a collection may contain itself. A name is given before the content is
read. A text holds one document at most.

Each call of the mutual block passes on less fuel. A token is met by a bounded number of calls, so
that a multiple of their number is enough. How deeply collections nest is limited apart from that.
-/

namespace RunCharts.Yaml

abbrev NodeId := Nat

inductive Content where
  | scalar (text : List Char)
  | sequence (items : List NodeId)
  | mapping (entries : List (NodeId × NodeId))

structure Node where
  tag : Tag
  content : Content

/-- The nodes of a document, and the place of the one at the top. -/
structure Graph where
  nodes : Array Node
  root : NodeId

namespace Node

def empty : Node := ⟨.null, .scalar []⟩

def openTag : List Char := ['!']

/-- The kind of a scalar: by its tag, or else by its text unless it is quoted. -/
def scalarTag (tag : Option (List Char)) (plain : Bool) (text : List Char) : Tag :=
  match tag with
  | none => if plain then Resolve.tagOf text else .text
  | some name => if name = openTag then Resolve.tagOf text else .ofName name

def collectionTag (tag : Option (List Char)) (kind : Tag) : Tag :=
  match tag with
  | none => kind
  | some name => if name = openTag then kind else .ofName name

end Node

namespace Graph

structure State where
  tokens : List Token
  anchors : List (List Char × NodeId)
  nodes : Array Node

abbrev Parse := StateT State (Except Fault)

abbrev Handles := List (List Char × List Char)

def defaultHandles : Handles := [(['!'], ['!']), (['!', '!'], Tag.nameStart)]

/-- How many collections may stand inside each other. -/
def depthLimit : Nat := 480

structure Scope where
  handles : Handles
  /-- How many collections may still be opened. -/
  depth : Nat

structure Properties where
  anchor : Option (List Char)
  tag : Option (List Char)

/-- The tokens left. The next one may not be broken. -/
def ahead : Parse (List Token) := do
  match (← get).tokens with
  | .broken fault :: _ => throw fault
  | tokens => return tokens

def goOn (tokens : List Token) : Parse Unit := modify fun st => { st with tokens := tokens }

def fail {α : Type} : Parse α := throw .yamlMalformed

def add (node : Node) : Parse NodeId :=
  modifyGet fun st => (st.nodes.size, { st with nodes := st.nodes.push node })

def fill (id : NodeId) (content : Content) : Parse Unit :=
  modify fun st => { st with nodes := st.nodes.modify id fun n => { n with content := content } }

/-- Adds a node under its name. No name is given twice. -/
def addNamed (anchor : Option (List Char)) (node : Node) : Parse NodeId :=
  match anchor with
  | none => add node
  | some name => do
    if (lookup name (← get).anchors).isSome then fail
    let id ← add node
    modify fun st => { st with anchors := (name, id) :: st.anchors }
    return id

def tagName (handles : Handles) : Option (List Char) → List Char → Parse (List Char)
  | none, suffix => return suffix
  | some handle, suffix =>
    match lookup handle handles with
    | some start => return start ++ suffix
    | none => fail

def takeProperties (handles : Handles) : Parse Properties := do
  match ← ahead with
  | .anchor a :: .tag h s :: ts | .tag h s :: .anchor a :: ts =>
    goOn ts
    return ⟨some a, some (← tagName handles h s)⟩
  | .anchor _ :: .broken fault :: _ | .tag _ _ :: .broken fault :: _ => throw fault
  | .anchor a :: ts => do
    goOn ts
    return ⟨some a, none⟩
  | .tag h s :: ts => do
    goOn ts
    return ⟨none, some (← tagName handles h s)⟩
  | _ => return ⟨none, none⟩

/-- Whether an entry of a block is empty: the next token starts another or ends the block. -/
def isEmptyEntry : List Token → Bool
  | .key :: _ | .value :: _ | .blockEnd :: _ => true
  | _ => false

def isEmptyItem : List Token → Bool
  | .dash :: _ | .blockEnd :: _ => true
  | _ => false

def isEmptyFlow : List Token → Bool
  | .comma :: _ | .closeBracket :: _ | .closeBrace :: _ => true
  | _ => false

/-- A node without content: a name or a tag alone stands for an empty scalar. -/
def bare (props : Properties) : Parse NodeId :=
  if props.anchor.isNone && props.tag.isNone then fail
  else addNamed props.anchor ⟨Node.scalarTag props.tag true [], .scalar []⟩

/-- Passes the comma that every item but the first needs. -/
def passComma (isFirst : Bool) : Parse Unit := do
  if !isFirst then
    match ← ahead with
    | .comma :: ts => goOn ts
    | _ => fail

def Scope.inner (scope : Scope) : Parse Scope :=
  match scope.depth with
  | 0 => throw .yamlTooDeep
  | depth + 1 => return { scope with depth := depth }

mutual

/-- A node. Blocks are allowed outside brackets only; in a mapping, a sequence may start without an
indentation of its own. -/
def node (scope : Scope) (block indentless : Bool) : Nat → Parse NodeId
  | 0 => fail
  | fuel + 1 => do
    match ← ahead with
    | .alias name :: ts =>
      goOn ts
      match lookup name (← get).anchors with
      | some id => return id
      | none => fail
    | _ =>
      let props ← takeProperties scope.handles
      content scope block indentless props fuel

def content (scope : Scope) (block indentless : Bool) (props : Properties) :
    Nat → Parse NodeId
  | 0 => fail
  | fuel + 1 => do
    match ← ahead with
    | .scalar plain text :: ts =>
      goOn ts
      addNamed props.anchor ⟨Node.scalarTag props.tag plain text, .scalar text⟩
    | .openBracket :: ts =>
      goOn ts
      let id ← addNamed props.anchor ⟨Node.collectionTag props.tag .sequence, .sequence []⟩
      fill id (.sequence (← flowItems (← scope.inner) true fuel))
      return id
    | .openBrace :: ts =>
      goOn ts
      let id ← addNamed props.anchor ⟨Node.collectionTag props.tag .mapping, .mapping []⟩
      fill id (.mapping (← flowEntries (← scope.inner) true fuel))
      return id
    | .dash :: _ =>
      if indentless then
        let id ← addNamed props.anchor ⟨Node.collectionTag props.tag .sequence, .sequence []⟩
        fill id (.sequence (← indentlessItems (← scope.inner) fuel))
        return id
      else bare props
    | .sequenceStart :: ts =>
      if block then
        goOn ts
        let id ← addNamed props.anchor ⟨Node.collectionTag props.tag .sequence, .sequence []⟩
        fill id (.sequence (← blockItems (← scope.inner) fuel))
        return id
      else bare props
    | .mappingStart :: ts =>
      if block then
        goOn ts
        let id ← addNamed props.anchor ⟨Node.collectionTag props.tag .mapping, .mapping []⟩
        fill id (.mapping (← blockEntries (← scope.inner) fuel))
        return id
      else bare props
    | _ => bare props

def blockItems (scope : Scope) : Nat → Parse (List NodeId)
  | 0 => fail
  | fuel + 1 => do
    match ← ahead with
    | .dash :: ts =>
      goOn ts
      let item ← if isEmptyItem (← ahead) then add .empty
        else node scope true false fuel
      return item :: (← blockItems scope fuel)
    | .blockEnd :: ts =>
      goOn ts
      return []
    | _ => fail

def indentlessItems (scope : Scope) : Nat → Parse (List NodeId)
  | 0 => fail
  | fuel + 1 => do
    match ← ahead with
    | .dash :: ts =>
      goOn ts
      let ts ← ahead
      let item ← if isEmptyItem ts || isEmptyEntry ts then add .empty
        else node scope true false fuel
      return item :: (← indentlessItems scope fuel)
    | _ => return []

def blockEntries (scope : Scope) : Nat → Parse (List (NodeId × NodeId))
  | 0 => fail
  | fuel + 1 => do
    match ← ahead with
    | .key :: ts =>
      goOn ts
      let key ← if isEmptyEntry (← ahead) then add .empty else node scope true true fuel
      let value ← blockValue scope fuel
      return (key, value) :: (← blockEntries scope fuel)
    | .blockEnd :: ts =>
      goOn ts
      return []
    | _ => fail

def blockValue (scope : Scope) : Nat → Parse NodeId
  | 0 => fail
  | fuel + 1 => do
    match ← ahead with
    | .value :: ts =>
      goOn ts
      if isEmptyEntry (← ahead) then add .empty else node scope true true fuel
    | _ => add .empty

/-- The items between brackets. A comma stands between two, and may follow the last. -/
def flowItems (scope : Scope) (isFirst : Bool) : Nat → Parse (List NodeId)
  | 0 => fail
  | fuel + 1 => do
    match ← ahead with
    | .closeBracket :: ts =>
      goOn ts
      return []
    | _ =>
      passComma isFirst
      match ← ahead with
      | .closeBracket :: ts =>
        goOn ts
        return []
      | .key :: ts =>
        goOn ts
        let id ← add ⟨.mapping, .mapping []⟩
        let inner ← scope.inner
        let key ← flowKey inner fuel
        let value ← flowValue inner fuel
        fill id (.mapping [(key, value)])
        return id :: (← flowItems scope false fuel)
      | _ =>
        let item ← node scope false false fuel
        return item :: (← flowItems scope false fuel)

def flowEntries (scope : Scope) (isFirst : Bool) :
    Nat → Parse (List (NodeId × NodeId))
  | 0 => fail
  | fuel + 1 => do
    match ← ahead with
    | .closeBrace :: ts =>
      goOn ts
      return []
    | _ =>
      passComma isFirst
      match ← ahead with
      | .closeBrace :: ts =>
        goOn ts
        return []
      | .key :: ts =>
        goOn ts
        let key ← flowKey scope fuel
        let value ← flowValue scope fuel
        return (key, value) :: (← flowEntries scope false fuel)
      | _ =>
        let key ← node scope false false fuel
        let value ← add .empty
        return (key, value) :: (← flowEntries scope false fuel)

def flowKey (scope : Scope) : Nat → Parse NodeId
  | 0 => fail
  | fuel + 1 => do
    match ← ahead with
    | .value :: _ => add .empty
    | tokens => if isEmptyFlow tokens then add .empty else node scope false false fuel

def flowValue (scope : Scope) : Nat → Parse NodeId
  | 0 => fail
  | fuel + 1 => do
    match ← ahead with
    | .value :: ts =>
      goOn ts
      if isEmptyFlow (← ahead) then add .empty else node scope false false fuel
    | _ => add .empty

end

def takeDirectives (hasVersion : Bool) (handles : Handles) :
    List Token → Except Fault (Handles × List Token)
  | .version major :: ts =>
    if hasVersion || major != 1 then malformed else takeDirectives true handles ts
  | .tagHandle handle uri :: ts =>
    if (lookup handle handles).isSome then malformed
    else takeDirectives hasVersion ((handle, uri) :: handles) ts
  | .directive :: ts => takeDirectives hasVersion handles ts
  | .documentStart :: ts => .ok (handles, ts)
  | .broken fault :: _ => .error fault
  | _ => malformed

def startsExplicitly : List Token → Bool
  | .version _ :: _ | .tagHandle .. :: _ | .directive :: _ | .documentStart :: _ => true
  | _ => false

def isEmptyDocument (tokens : List Token) : Bool :=
  tokens.isEmpty || tokens.head? = some .documentEnd || startsExplicitly tokens

/-- Whether nothing but ends of documents is left. Otherwise another document starts, and its
directives are looked at before it is refused. -/
def checkEnd (tokens : List Token) : Except Fault Unit :=
  match tokens.dropWhile (· == .documentEnd) with
  | [] => .ok ()
  | tokens => do
    let _ ← takeDirectives false [] tokens
    malformed

def empty : Graph := ⟨#[.empty], 0⟩

/-- The graph of the only document of a token sequence. No tokens are an empty document. -/
def ofTokens (tokens : List Token) : Except Fault Graph := do
  let (handles, rest) ← if startsExplicitly tokens then
      (takeDirectives false [] tokens).map fun r => (r.1 ++ defaultHandles, r.2)
    else .ok (defaultHandles, tokens)
  if tokens.isEmpty || (startsExplicitly tokens && isEmptyDocument rest) then
    checkEnd rest
    return empty
  else
    let (root, st) ← (node ⟨handles, depthLimit⟩ true false (4 * tokens.length + 4)).run
      ⟨rest, [], #[]⟩
    checkEnd st.tokens
    return ⟨st.nodes, root⟩

end Graph

end RunCharts.Yaml
