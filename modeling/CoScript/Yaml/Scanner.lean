import CoScript.Yaml.Token

/-!
Splitting a YAML text into tokens.

A scalar or a bracket may turn out to be a key when a colon follows it. Until then it is remembered as a
possible key, and the tokens that say it is a key are put in front of it later.
-/
namespace CoScript.Yaml

/-- A token that may turn out to start a key. -/
structure PossibleKey where
  /-- Whether nothing but a key can stand there. -/
  required : Bool
  /-- The number of the token. -/
  number : Nat
  mark : Mark

/-- The number of characters after which a key has to have ended. -/
def keyLimit : Nat := 1024

/-- The number of blocks and brackets that may be open at a place. -/
def depthLimit : Nat := 10000

/-- Where splitting a text stands. -/
structure Scanner where
  cursor : Cursor
  /-- The tokens so far. -/
  tokens : List Token := [⟨.streamStart, {}⟩]
  /-- Whether a key may start here. -/
  keyAllowed : Bool := true
  /-- The possible key at each depth of brackets, the innermost first. There is always one entry. -/
  keys : List (Option PossibleKey) := [none]
  /-- The columns of the open blocks, the innermost first. -/
  indents : List Nat := []

namespace Scanner

/-- Whether brackets are open. -/
def inFlow (s : Scanner) : Bool :=
  1 < s.keys.length

/-- The column of the innermost block. -/
def indent? (s : Scanner) : Option Nat :=
  s.indents.head?

/-- The fault of a problem at the cursor, in a token that begins at a place. -/
def fault (s : Scanner) (context : Mark) (problem : Problem) : Fault :=
  .ofToken context s.cursor.mark problem

/-- Adds a token that starts at a place. -/
def push (s : Scanner) (kind : Token.Kind) (mark : Mark) : Scanner :=
  { s with tokens := s.tokens ++ [⟨kind, mark⟩] }

/-- Adds a token of some characters at the cursor. -/
def pushHere (s : Scanner) (kind : Token.Kind) (width : Nat) : Scanner :=
  { s.push kind s.cursor.mark with cursor := s.cursor.skip width }

/-- Closes the blocks to the right of a column, with tokens at a place; without a column all of them. -/
def closeBlocks (s : Scanner) (column? : Option Nat) (mark : Mark) : Scanner :=
  if s.inFlow then s
  else
    let isInner (i : Nat) : Bool := column?.all (· < i)
    let closed := s.indents.takeWhile isInner
    { s with
      tokens := s.tokens ++ closed.map fun _ => ⟨.blockEnd, mark⟩
      indents := s.indents.dropWhile isInner }

/-- Opens a block at a column, unless it is open already. Its token is put before the token with a
number. -/
def openBlock (s : Scanner) (column number : Nat) (kind : Token.Kind) (mark : Mark) :
    Except Fault Scanner :=
  if s.inFlow || s.indent?.any (column ≤ ·) then .ok s
  else if depthLimit ≤ s.indents.length then .error (s.fault s.cursor.mark .tooDeep)
  else .ok { s with
    indents := column :: s.indents
    tokens := s.tokens.insertIdx number ⟨kind, mark⟩ }

/-- Gives up the possible key at the innermost depth, which must not be a required one. -/
def dropKey (s : Scanner) : Except Fault Scanner :=
  match s.keys with
  | some key :: outer =>
    if key.required then .error (s.fault key.mark .missingColon)
    else .ok { s with keys := none :: outer }
  | _ => .ok s

/-- Remembers the token that comes next as a possible key, if one may start here. -/
def saveKey (s : Scanner) : Except Fault Scanner :=
  if !s.keyAllowed then .ok s
  else
    match s.dropKey with
    | .error e => .error e
    | .ok s =>
      let mark := s.cursor.mark
      .ok { s with
        keys := some ⟨!s.inFlow && s.indent? == some mark.column, s.tokens.length, mark⟩ :: s.keys.tail }

/-- Whether a possible key can still be one: it is on this line and not too far back. -/
def isCurrent (s : Scanner) (key : PossibleKey) : Bool :=
  s.cursor.mark.line ≤ key.mark.line && s.cursor.mark.index ≤ key.mark.index + keyLimit

/-! One function for each sort of token. -/

/-- The end of the text. -/
def fetchEnd (s : Scanner) : Except Fault Scanner :=
  let m := s.cursor.mark
  let mark : Mark := if m.column = 0 then m else { m with line := m.line + 1, column := 0 }
  let s := { s with cursor := { s.cursor with mark := mark } }
  match (s.closeBlocks none mark).dropKey with
  | .error e => .error e
  | .ok s => .ok ({ s with keyAllowed := false }.push .streamEnd mark)

/-- A directive. -/
def fetchDirective (s : Scanner) : Except Fault Scanner :=
  let mark := s.cursor.mark
  match (s.closeBlocks none mark).dropKey, directive s.cursor with
  | .error e, _ => .error e
  | _, .error e => .error e
  | .ok s, .ok (kind, cursor) =>
    .ok { s.push kind mark with keyAllowed := false, cursor := cursor }

/-- The start or the end of a document. -/
def fetchDocument (s : Scanner) (kind : Token.Kind) : Except Fault Scanner :=
  match (s.closeBlocks none s.cursor.mark).dropKey with
  | .error e => .error e
  | .ok s => .ok ({ s with keyAllowed := false }.pushHere kind 3)

/-- An opening bracket. -/
def fetchFlowStart (s : Scanner) (kind : Token.Kind) : Except Fault Scanner :=
  match s.saveKey with
  | .error e => .error e
  | .ok s =>
    if depthLimit < s.keys.length then .error (s.fault s.cursor.mark .tooDeep)
    else .ok ({ s with keys := none :: s.keys, keyAllowed := true }.pushHere kind 1)

/-- A closing bracket. -/
def fetchFlowEnd (s : Scanner) (kind : Token.Kind) : Except Fault Scanner :=
  match s.dropKey with
  | .error e => .error e
  | .ok s =>
    .ok ({ s with
      keys := if s.inFlow then s.keys.tail else s.keys, keyAllowed := false }.pushHere kind 1)

/-- A comma between brackets. -/
def fetchFlowEntry (s : Scanner) : Except Fault Scanner :=
  match s.dropKey with
  | .error e => .error e
  | .ok s => .ok ({ s with keyAllowed := true }.pushHere .flowEntry 1)

/-- Opens a block at the cursor, where a key must be allowed. -/
def openHere (s : Scanner) (kind : Token.Kind) (problem : Problem) : Except Fault Scanner :=
  if s.inFlow then .ok s
  else if !s.keyAllowed then .error (s.fault s.cursor.mark problem)
  else s.openBlock s.cursor.mark.column s.tokens.length kind s.cursor.mark

/-- The dash of an entry. -/
def fetchBlockEntry (s : Scanner) : Except Fault Scanner := do
  let s ← s.openHere .blockSequenceStart .entryNotAllowed
  let s ← s.dropKey
  return { s with keyAllowed := true }.pushHere .blockEntry 1

/-- The question mark of a key. -/
def fetchKey (s : Scanner) : Except Fault Scanner := do
  let s ← s.openHere .blockMappingStart .keyNotAllowed
  let s ← s.dropKey
  return { s with keyAllowed := !s.inFlow }.pushHere .key 1

/-- The colon after a key. -/
def fetchValue (s : Scanner) : Except Fault Scanner := do
  let possible := s.keys.head?.bind id
  match possible with
  | some key =>
    if s.isCurrent key then
      let s := { s with tokens := s.tokens.insertIdx key.number ⟨.key, key.mark⟩ }
      let s ← s.openBlock key.mark.column key.number .blockMappingStart key.mark
      return { s with keys := none :: s.keys.tail, keyAllowed := false }.pushHere .value 1
    else if key.required then .error (s.fault key.mark .missingColon)
    else complex { s with keys := none :: s.keys.tail }
  | none => complex s
where
  /-- The colon after a key of several lines. -/
  complex (s : Scanner) : Except Fault Scanner := do
    let s ← s.openHere .blockMappingStart .valueNotAllowed
    return { s with keyAllowed := !s.inFlow }.pushHere .value 1

/-- A token that may be the start of a key. -/
def fetchKeyStart (s : Scanner) (read : Cursor → Except Fault (Token.Kind × Cursor)) :
    Except Fault Scanner := do
  let s ← s.saveKey
  let (kind, cursor) ← read s.cursor
  return { s.push kind s.cursor.mark with keyAllowed := false, cursor := cursor }

/-- A block scalar. -/
def fetchBlockScalar (s : Scanner) (literal : Bool) : Except Fault Scanner := do
  let s ← s.dropKey
  let (value, cursor) ← block literal s.indent? s.cursor
  let style := if literal then Style.literal else Style.folded
  return { s.push (.scalar (.ofChars value) style) s.cursor.mark with
    keyAllowed := true, cursor := cursor }

/-- A plain scalar. A key may start after it if it was followed by a line break. -/
def fetchPlain (s : Scanner) : Except Fault Scanner := do
  let s ← s.saveKey
  let column := match s.indent? with
    | some n => n + 1
    | none => 0
  let p ← plain s.inFlow column s.cursor
  return { s.push (.scalar (.ofChars p.value) .plain) s.cursor.mark with
    keyAllowed := p.lined, cursor := p.cursor }

/-! Between tokens. -/

/-- Skips a comment and the comments on the lines after it. The fuel is the number of characters
left. -/
def skipComment : (fuel : Nat) → Cursor → Cursor
  | 0, c => c
  | fuel + 1, c =>
    let c := c.skipWhile (!isBreak ·)
    let next := nextLine (c.rest.length + 1) c
    if next.isAt '#' then skipComment fuel next else c
where
  /-- Goes over blanks and line breaks. -/
  nextLine : (fuel : Nat) → Cursor → Cursor
    | 0, c => c
    | fuel + 1, c =>
      if c.at? isBlank then nextLine fuel (c.skip 1)
      else if c.atBreak then nextLine fuel c.skipLine
      else c

/-- Skips a comment at the end of the line, if there is one. -/
def skipLineComment (s : Scanner) : Scanner :=
  let c := s.cursor.skipWhile isBlank
  if c.isAt '#' then { s with cursor := c.skipWhile (!isBreak ·) } else s

/-- Skips what stands between tokens. Tabs are skipped only where no key may start. The fuel is the
number of characters left. -/
def skipSpace : (fuel : Nat) → Scanner → Scanner
  | 0, s => s
  | fuel + 1, s =>
    let c := s.cursor
    let c := if c.mark.column = 0 && c.isAt '\ufeff' then c.skip 1 else c
    let c := c.skipWhile fun x => x == ' ' || (x == '\t' && (s.inFlow || !s.keyAllowed))
    let c := if c.isAt '#' then skipComment (c.rest.length + 1) c else c
    if c.atBreak then
      skipSpace fuel { s with cursor := c.skipLine, keyAllowed := s.keyAllowed || !s.inFlow }
    else { s with cursor := c }

/-- Whether a plain scalar may start with what is left of a text. -/
def startsPlain (inFlow : Bool) : List Char → Bool
  | [] => false
  | x :: rest =>
    !(isBlank x || isBreak x || "-?:,[]\x7b\x7d#&*!|>'\"%@`".toList.contains x) ||
    (x == '-' && !rest.head?.any isBlank) ||
    (!inFlow && (x == '?' || x == ':') && !Cursor.endsWord rest)

/-- The token at the cursor. -/
def fetchToken (s : Scanner) : Except Fault Scanner :=
  match s.cursor.rest with
  | [] => s.fetchEnd
  | x :: rest =>
    let ends := Cursor.endsWord rest
    match x with
    | '[' => s.fetchFlowStart .flowSequenceStart
    | '{' => s.fetchFlowStart .flowMappingStart
    | ']' => s.fetchFlowEnd .flowSequenceEnd
    | '}' => s.fetchFlowEnd .flowMappingEnd
    | ',' => s.fetchFlowEntry
    | '*' => s.fetchKeyStart fun c => (anchorName c).map fun (name, c) => (.alias name, c)
    | '&' => s.fetchKeyStart fun c => (anchorName c).map fun (name, c) => (.anchor name, c)
    | '!' => s.fetchKeyStart tag
    | '\'' =>
      s.fetchKeyStart fun c =>
        (quoted true c).map fun (t, c) => (.scalar (.ofChars t) .singleQuoted, c)
    | '"' =>
      s.fetchKeyStart fun c =>
        (quoted false c).map fun (t, c) => (.scalar (.ofChars t) .doubleQuoted, c)
    | _ =>
      if x == '-' && ends then s.fetchBlockEntry
      else if x == '?' && (s.inFlow || ends) then s.fetchKey
      else if x == ':' && (s.inFlow || ends) then s.fetchValue
      else if x == '|' && !s.inFlow then s.fetchBlockScalar true
      else if x == '>' && !s.inFlow then s.fetchBlockScalar false
      else if startsPlain s.inFlow (x :: rest) then s.fetchPlain
      else .error (s.fault s.cursor.mark .badTokenStart)

/-- Reads the next token. -/
def fetch (s : Scanner) : Except Fault Scanner :=
  let before := s.cursor.mark
  let s := skipSpace (s.cursor.rest.length + 1) s
  let s := s.closeBlocks (some s.cursor.mark.column) before
  if s.cursor.isOver then s.fetchEnd
  else if s.cursor.mark.column = 0 && s.cursor.isAt '%' then s.fetchDirective
  else if s.cursor.atIndicator '-' then s.fetchDocument .documentStart
  else if s.cursor.atIndicator '.' then s.fetchDocument .documentEnd
  else
    match s.fetchToken with
    | .error e => .error e
    | .ok s =>
      .ok (if (s.tokens.getLast?.map (·.kind)) == some .blockEntry then s else s.skipLineComment)

end Scanner

/-- The tokens of a text, up to its end or to a fault. -/
structure Tokens where
  tokens : List Token
  /-- Why there are no more tokens, if the end of the text was not reached. -/
  fault? : Option Fault
  /-- Where splitting the text stood before the fault. -/
  last : Scanner

/-- Splits a text. The fuel is the number of characters left. -/
def tokensFrom : (fuel : Nat) → Scanner → Tokens
  | 0, s => ⟨s.tokens, none, s⟩
  | fuel + 1, s =>
    if (s.tokens.getLast?.map (·.kind)) == some .streamEnd then ⟨s.tokens, none, s⟩
    else
      match s.fetch with
      | .error e => ⟨s.tokens, some e, s⟩
      | .ok s => tokensFrom fuel s

/-- The number of tokens that have to be known when one of them is looked at, itself included. -/
def lookahead : Nat := 3

/-- The token with a number. A fault close behind it counts as its own, and a token that may still turn
out to be a key cannot be told before that is settled. -/
def Tokens.get (ts : Tokens) (n : Nat) : Except Fault Token :=
  match ts.fault? with
  | none =>
    let mark := ts.last.cursor.mark
    .ok (ts.tokens.getD n ⟨.streamEnd, mark⟩)
  | some fault =>
    let key? := ts.last.keys.filterMap id |>.find? (·.number = n)
    match ts.tokens[n]? with
    | none => .error fault
    | some t =>
      if ts.tokens.length < n + lookahead then .error fault
      else
        match key? with
        | none => .ok t
        | some key =>
          if ts.last.isCurrent key then .error fault
          else if key.required then .error (ts.last.fault key.mark .missingColon)
          else .ok t

/-- Splits a text into tokens. -/
def tokens (text : List Char) : Tokens :=
  tokensFrom (2 * text.length + 4) { cursor := { rest := text } }

end CoScript.Yaml
