import CoScript.Yaml.Resolve
import CoScript.Yaml.Scanner

/-!
The first document of a YAML text as a tree.

An alias stands for the node that had its name when it was written. Since that node may contain the
alias, anchored nodes are numbered, and an alias has the number of its target.
-/
namespace CoScript.Yaml

/-- A node of a document. Lines are counted from one, and every node but an alias has a tag. -/
inductive Node where
  | scalar (line : Nat) (tag value : Text)
  | sequence (line : Nat) (tag : Text) (items : List Node)
  | mapping (line : Nat) (tag : Text) (pairs : List (Node × Node))
  /-- An alias. No two aliases stand at the same place. -/
  | alias (line : Nat) (name : Text) (place target : Nat)
  deriving Repr, Inhabited

/-- The tags of the nodes that are given none. -/
def Node.sequenceTag : Text := txt "!!seq"

@[inherit_doc Node.sequenceTag]
def Node.mappingTag : Text := txt "!!map"

@[inherit_doc Node.sequenceTag]
def Node.textTag : Text := txt "!!str"

@[inherit_doc Node.sequenceTag]
def Node.mergeTag : Text := txt "!!merge"

/-- A document: its root and the nodes that aliases stand for. -/
structure Document where
  root : Node
  anchored : List (Nat × Node)
  /-- The number of tokens of the text, which no path through the document exceeds. -/
  size : Nat

/-- What is known while a tree is built. -/
structure Builder where
  tokens : Tokens
  /-- The number of the next token. -/
  position : Nat := 0
  /-- What the handles of tags stand for. -/
  handles : List (Text × Text) := []
  /-- The numbers of the nodes that have names, the latest first. -/
  anchors : List (Text × Nat) := []
  /-- The named nodes that are complete. -/
  anchored : List (Nat × Node) := []

/-- A step of building a tree. -/
abbrev Build := StateT Builder (Except Fault)

namespace Build

/-- The next token. -/
def peek : Build Token := do
  let b ← get
  match b.tokens.get b.position with
  | .ok t => return t
  | .error e => throw e

/-- Goes on to the token after the next one. -/
def skip : Build Unit :=
  modify fun b => { b with position := b.position + 1 }

/-- The line of a place, counted from one. -/
def lineOf (mark : Mark) : Nat :=
  mark.line + 1

/-- The scalar that stands where nothing is written. -/
def empty (mark : Mark) : Node :=
  .scalar (lineOf mark) (txt Meaning.null.tag) []

/-! Properties of nodes. -/

/-- An anchor and a tag in front of a node. -/
structure Properties where
  start : Mark
  anchor? : Option Text := none
  tag? : Option (Text × Text × Mark) := none

/-- Reads the properties of a node. -/
def properties : Build Properties := do
  let first ← peek
  let start := first.start
  match first.kind with
  | .anchor name =>
    skip
    let next ← peek
    match next.kind with
    | .tag handle suffix =>
      skip
      return { start, anchor? := some name, tag? := some (handle, suffix, next.start) }
    | _ => return { start, anchor? := some name }
  | .tag handle suffix =>
    skip
    let next ← peek
    match next.kind with
    | .anchor name =>
      skip
      return { start, anchor? := some name, tag? := some (handle, suffix, start) }
    | _ => return { start, tag? := some (handle, suffix, start) }
  | _ => return { start }

/-- What tags of the common sorts of values start with in full. -/
def commonTag : Text := txt "tag:yaml.org,2002:"

/-- The tag that is given to a node; empty if there is none. -/
def givenTag (p : Properties) : Build Text := do
  match p.tag? with
  | none => return []
  | some (handle, suffix, mark) =>
    if handle.isEmpty then return suffix
    else
      match (← get).handles.lookup handle with
      | some start => return start ++ suffix
      | none => throw (.ofNode p.start mark .undefinedHandle)

/-- The tag of a node: the given one, which is shortened, or else the usual one. A lone exclamation mark
gives none. -/
def chosenTag (given usual : Text) : Text :=
  if given.isEmpty || given = txt "!" then usual
  else
    match Text.after? commonTag given with
    | some rest => txt "!!" ++ rest
    | none => given

/-- The tag of a scalar that is given none. -/
def usualTag (value : Text) (style : Style) : Text :=
  if style ≠ .plain then Node.textTag
  else if value = txt "<<" then Node.mergeTag
  else txt (meaningOf true value.toChars).tag

/-- Builds a node, to which aliases with its name can refer from its start on. -/
def named (anchor? : Option Text) (body : Build Node) : Build Node := do
  match anchor? with
  | none => body
  | some name =>
    let number := (← get).anchors.length
    modify fun b => { b with anchors := (name, number) :: b.anchors }
    let n ← body
    modify fun b => { b with anchored := (number, n) :: b.anchored }
    return n

/-! Nodes. The fuel bounds the number of tokens that are left. -/

mutual

/-- Builds a node. Block collections may stand only in blocks, and a sequence at the indentation of the
mapping around it only as a key or a value of that. -/
def node (block indentless : Bool) : (fuel : Nat) → Build Node
  | 0 => do throw (.ofNode {} (← peek).start .noNode)
  | fuel + 1 => do
    let first ← peek
    if let .alias name := first.kind then
      skip
      match (← get).anchors.lookup name with
      | some number => return .alias (lineOf first.start) name first.start.index number
      | none => throw { problem := .unknownAnchor name }
    else
      let p ← properties
      let token ← peek
      let given ← givenTag p
      let line := lineOf p.start
      let sequence (items : Build (List Node)) : Build Node :=
        named p.anchor? do return .sequence line (chosenTag given Node.sequenceTag) (← items)
      let mapping (pairs : Build (List (Node × Node))) : Build Node :=
        named p.anchor? do return .mapping line (chosenTag given Node.mappingTag) (← pairs)
      let scalar (value : Text) (style : Style) : Build Node :=
        named p.anchor? (return .scalar line (chosenTag given (usualTag value style)) value)
      match token.kind with
      | .scalar value style =>
        skip
        scalar value style
      | .flowSequenceStart =>
        skip
        sequence (flowItems token.start true fuel)
      | .flowMappingStart =>
        skip
        mapping (flowPairs token.start true fuel)
      | kind =>
        if indentless && kind = .blockEntry then sequence (indentlessItems fuel)
        else if block && kind = .blockSequenceStart then
          skip
          sequence (blockItems token.start fuel)
        else if block && kind = .blockMappingStart then
          skip
          mapping (blockPairs token.start fuel)
        else if p.anchor?.isSome || !given.isEmpty then scalar [] .plain
        else throw (.ofNode p.start token.start .noNode)

/-- The items of a block sequence, which starts at a place. -/
def blockItems (start : Mark) : (fuel : Nat) → Build (List Node)
  | 0 => return []
  | fuel + 1 => do
    let token ← peek
    match token.kind with
    | .blockEntry =>
      skip
      let next ← peek
      let item ← if next.kind = .blockEntry || next.kind = .blockEnd then pure (empty token.start)
        else node true false fuel
      return item :: (← blockItems start fuel)
    | .blockEnd =>
      skip
      return []
    | _ => throw (.ofNode start token.start .noEntry)

/-- The items of a sequence at the indentation of the mapping around it. -/
def indentlessItems : (fuel : Nat) → Build (List Node)
  | 0 => return []
  | fuel + 1 => do
    let token ← peek
    if token.kind = .blockEntry then
      skip
      let next ← peek
      let item ← if [.blockEntry, .key, .value, .blockEnd].contains next.kind then
          pure (empty token.start)
        else node true false fuel
      return item :: (← indentlessItems fuel)
    else return []

/-- The pairs of a block mapping, which starts at a place. -/
def blockPairs (start : Mark) : (fuel : Nat) → Build (List (Node × Node))
  | 0 => return []
  | fuel + 1 => do
    let token ← peek
    match token.kind with
    | .key =>
      skip
      let key ← blockChild token.start fuel
      let next ← peek
      if next.kind = .value then
        skip
        let value ← blockChild next.start fuel
        return (key, value) :: (← blockPairs start fuel)
      else return (key, empty next.start) :: (← blockPairs start fuel)
    | .blockEnd =>
      skip
      return []
    | _ => throw (.ofNode start token.start .noKey)

/-- A key or a value of a block mapping, after the token that announces it. -/
def blockChild (mark : Mark) : (fuel : Nat) → Build Node
  | 0 => return empty mark
  | fuel + 1 => do
    let token ← peek
    if [.key, .value, .blockEnd].contains token.kind then return empty mark
    else node true true fuel

/-- The items of a sequence in brackets, which starts at a place. An item may be a single pair. -/
def flowItems (start : Mark) (first : Bool) : (fuel : Nat) → Build (List Node)
  | 0 => return []
  | fuel + 1 => do
    let token ← peek
    if token.kind = .flowSequenceEnd then
      skip
      return []
    else
      if !first then
        if token.kind = .flowEntry then skip
        else throw (.ofNode start token.start .noSequenceEnd)
      let token ← peek
      match token.kind with
      | .flowSequenceEnd =>
        skip
        return []
      | .key =>
        skip
        let pair ← flowPair fuel
        let item := Node.mapping (lineOf token.start) Node.mappingTag [pair]
        return item :: (← flowItems start false fuel)
      | _ =>
        let item ← node false false fuel
        return item :: (← flowItems start false fuel)

/-- A single pair in a sequence. If its key is missing, the token in its place is passed over. -/
def flowPair : (fuel : Nat) → Build (Node × Node)
  | 0 => do
    let mark := (← peek).start
    return (empty mark, empty mark)
  | fuel + 1 => do
    let token ← peek
    let key ← if [.value, .flowEntry, .flowSequenceEnd].contains token.kind then do
        skip
        pure (empty token.start)
      else node false false fuel
    let token ← peek
    if token.kind = .value then
      skip
      let next ← peek
      if [.flowEntry, .flowSequenceEnd].contains next.kind then return (key, empty token.start)
      else
        let value ← node false false fuel
        return (key, value)
    else return (key, empty token.start)

/-- The pairs of a mapping in braces, which starts at a place. -/
def flowPairs (start : Mark) (first : Bool) : (fuel : Nat) → Build (List (Node × Node))
  | 0 => return []
  | fuel + 1 => do
    let token ← peek
    if token.kind = .flowMappingEnd then
      skip
      return []
    else
      if !first then
        if token.kind = .flowEntry then skip
        else throw (.ofNode start token.start .noMappingEnd)
      let token ← peek
      match token.kind with
      | .flowMappingEnd =>
        skip
        return []
      | .key =>
        skip
        let next ← peek
        let key ← if [.value, .flowEntry, .flowMappingEnd].contains next.kind then
            pure (empty next.start)
          else node false false fuel
        let next ← peek
        if next.kind = .value then
          skip
          let next ← peek
          let value ← if [.flowEntry, .flowMappingEnd].contains next.kind then pure (empty next.start)
            else node false false fuel
          return (key, value) :: (← flowPairs start false fuel)
        else return (key, empty next.start) :: (← flowPairs start false fuel)
      | _ =>
        let key ← node false false fuel
        let next ← peek
        return (key, empty next.start) :: (← flowPairs start false fuel)

end

/-! Documents. -/

/-- The handles that need no directive. -/
def usualHandles : List (Text × Text) :=
  [(txt "!", txt "!"), (txt "!!", commonTag)]

/-- Reads the directives in front of a document. The fuel bounds the number of tokens that are left. -/
def directives : (fuel : Nat) → (versioned : Bool) → Build Unit
  | 0, _ => return ()
  | fuel + 1, versioned => do
    let token ← peek
    match token.kind with
    | .versionDirective major minor =>
      if versioned then throw (.ofNode {} token.start .duplicateVersion)
      else if (major, minor) ≠ (1, 1) then throw (.ofNode {} token.start .wrongVersion)
      else
        skip
        directives fuel true
    | .tagDirective handle start =>
      if ((← get).handles.lookup handle).isSome then throw (.ofNode {} token.start .duplicateTag)
      else
        modify fun b => { b with handles := b.handles ++ [(handle, start)] }
        skip
        directives fuel versioned
    | _ => modify fun b => { b with handles := b.handles ++ usualHandles }

/-- Whether a token cannot be a part of a document. -/
def bounds : Token.Kind → Bool
  | .versionDirective .. | .tagDirective .. | .documentStart | .documentEnd | .streamEnd => true
  | _ => false

/-- Builds the root of the first document, if there is a document. -/
def root : Build (Option Node) := do
  let _ ← peek
  skip
  let fuel := 3 * (← get).tokens.tokens.length + 8
  let token ← peek
  if token.kind = .streamEnd then return none
  else
    directives fuel false
    let root ← if bounds token.kind && token.kind ≠ .documentEnd then
        content fuel
      else node true false fuel
    let _ ← peek
    return some root
where
  /-- Builds the root of a document whose start is marked. -/
  content (fuel : Nat) : Build Node := do
    let token ← peek
    if token.kind ≠ .documentStart then throw (.ofNode {} token.start .noDocumentStart)
    else
      skip
      let next ← peek
      if bounds next.kind then return empty next.start else node true false fuel

end Build

/-- The first document of a text, if there is one. A byte order mark in front is passed over. -/
def document? (text : Text) : Except Fault (Option Document) := do
  let text := if text.head?.any (·.is '\ufeff') then text.tail else text
  if text.any fun g => !g.holds fun _ => true then throw { problem := .badEncoding }
  if text.any fun g => !g.holds isPrintable then throw { problem := .controlCharacter }
  let (root?, b) ← Build.root { tokens := Yaml.tokens (Text.toChars text) }
  return root?.map fun root => { root, anchored := b.anchored, size := b.tokens.tokens.length }

end CoScript.Yaml
