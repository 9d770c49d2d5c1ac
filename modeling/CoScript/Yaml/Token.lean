import CoScript.Yaml.Scalar

/-!
Tokens of a YAML text. Indentation shows in the tokens that open and close blocks, and a key is marked
as one once the colon after it was seen.
-/
namespace CoScript.Yaml

namespace Token

/-- What a token is. -/
inductive Kind where
  | streamStart
  | streamEnd
  | versionDirective (major minor : Nat)
  | tagDirective (handle start : Text)
  | documentStart
  | documentEnd
  | blockSequenceStart
  | blockMappingStart
  | blockEnd
  | flowSequenceStart
  | flowSequenceEnd
  | flowMappingStart
  | flowMappingEnd
  | blockEntry
  | flowEntry
  | key
  | value
  | alias (name : Text)
  | anchor (name : Text)
  | tag (handle suffix : Text)
  | scalar (value : Text) (style : Style)
  deriving DecidableEq, Repr

end Token

/-- A token and where it starts. -/
structure Token where
  kind : Token.Kind
  start : Mark
  deriving DecidableEq, Repr

/-! Anchors, tags and directives. -/

/-- Reads the name of an anchor or an alias; its sign is at the cursor. -/
def anchorName (c : Cursor) : Except Fault (Text × Cursor) :=
  let name := (c.skip 1).rest.takeWhile isNameChar
  let after := (c.skip 1).skip name.length
  let ends := Cursor.endsWord after.rest ||
    after.at? fun x => ['?', ':', ',', ']', '}', '%', '@', '`'].contains x
  if name.isEmpty || !ends then .error (.ofToken c.mark after.mark .badAnchorName)
  else .ok (.ofChars name, after)

/-- Whether a character may stand in a tag as it is. -/
def isTagChar (c : Char) : Bool :=
  isNameChar c || ";/?:@&=+$,.!~*'()[]".toList.contains c

/-- The number of bytes of an encoded character, by its first byte. -/
def encodedWidth (b : Nat) : Nat :=
  if b < 0x80 then 1 else if 0xC0 ≤ b && b < 0xE0 then 2 else if 0xE0 ≤ b && b < 0xF0 then 3
  else if 0xF0 ≤ b && b < 0xF8 then 4 else 0

/-- Reads the bytes of one character that are written with percent signs. `left` is the number of bytes
that are still to come; none came yet if it is not known. -/
def uriOctets (start : Mark) : (fuel : Nat) → (left : Option Nat) → List UInt8 → Cursor →
    Except Fault (List UInt8 × Cursor)
  | 0, _, bytes, c => .ok (bytes, c)
  | _, some 0, bytes, c => .ok (bytes, c)
  | fuel + 1, left, bytes, c =>
    match c.rest with
    | '%' :: a :: b :: _ =>
      if !isHexDigit a || !isHexDigit b then .error (.ofToken start c.mark .noUriOctet)
      else
        let octet := hexValue a * 16 + hexValue b
        match left with
        | none =>
          if encodedWidth octet = 0 then .error (.ofToken start c.mark .badUriLead)
          else uriOctets start fuel (some (encodedWidth octet - 1)) (bytes ++ [octet.toUInt8])
            (c.skip 3)
        | some n =>
          if octet / 0x40 ≠ 2 then .error (.ofToken start c.mark .badUriTail)
          else uriOctets start fuel (some (n - 1)) (bytes ++ [octet.toUInt8]) (c.skip 3)
    | _ => .error (.ofToken start c.mark .noUriOctet)

/-- Reads the characters of a tag. The fuel is the number of characters left. -/
def uriFrom (start : Mark) : (fuel : Nat) → Text → Cursor → Except Fault (Text × Cursor)
  | 0, uri, c => .ok (uri, c)
  | fuel + 1, uri, c =>
    match c.rest with
    | '%' :: _ =>
      match uriOctets start 5 none [] c with
      | .error e => .error e
      | .ok (bytes, c) => uriFrom start fuel (uri ++ .ofBytes bytes) c
    | x :: _ => if isTagChar x then uriFrom start fuel (uri ++ [.char x]) (c.skip 1) else .ok (uri, c)
    | [] => .ok (uri, c)

/-- Reads a tag after a part of it that was read already. There has to be something. -/
def uri (start : Mark) (head : Text) (c : Cursor) : Except Fault (Text × Cursor) :=
  match uriFrom start (c.rest.length + 1) (head.drop 1) c with
  | .error e => .error e
  | .ok (t, after) =>
    if head.isEmpty && after.rest.length = c.rest.length then
      .error (.ofToken start after.mark .noTagUri)
    else .ok (t, after)

/-- Reads a handle: a name between exclamation marks, of which the second may be missing. -/
def tagHandle (c : Cursor) : Text × Cursor :=
  let name := (c.skip 1).rest.takeWhile isNameChar
  let after := (c.skip 1).skip name.length
  if after.isAt '!' then (.ofChars ('!' :: name ++ ['!']), after.skip 1)
  else (.ofChars ('!' :: name), after)

/-- Reads a tag; its exclamation mark is at the cursor. -/
def tag (c : Cursor) : Except Fault (Token.Kind × Cursor) :=
  let start := c.mark
  let finish (handle suffix : Text) (c : Cursor) : Except Fault (Token.Kind × Cursor) :=
    if Cursor.endsWord c.rest then .ok (.tag handle suffix, c)
    else .error (.ofToken start c.mark .noWhitespaceOrBreak)
  if (c.rest.drop 1).head? = some '<' then
    match uri start [] (c.skip 2) with
    | .error e => .error e
    | .ok (suffix, c) =>
      if c.isAt '>' then finish [] suffix (c.skip 1) else .error (.ofToken start c.mark .noTagClose)
  else
    let (handle, c) := tagHandle c
    if 1 < handle.length && handle.getLast? = some (.char '!') then
      match uri start [] c with
      | .error e => .error e
      | .ok (suffix, c) => finish handle suffix c
    else
      match uri start handle c with
      | .error e => .error e
      | .ok (suffix, c) =>
        if suffix.isEmpty then finish [] handle c else finish (txt "!") suffix c

/-- Reads a number of a version. -/
def versionNumber (start : Mark) (c : Cursor) : Except Fault (Nat × Cursor) :=
  let digits := c.rest.takeWhile Char.isDigit
  if digits.isEmpty then .error (.ofToken start c.mark .noVersion)
  else if 2 < digits.length then .error (.ofToken start (c.skip 2).mark .longVersion)
  else .ok (digits.foldl (fun n d => n * 10 + (d.toNat - '0'.toNat)) 0, c.skip digits.length)

/-- Reads the version that a directive gives. -/
def versionDirective (start : Mark) (c : Cursor) : Except Fault (Token.Kind × Cursor) :=
  match versionNumber start (c.skipWhile isBlank) with
  | .error e => .error e
  | .ok (major, c) =>
    if !c.isAt '.' then .error (.ofToken start c.mark .noVersionDot)
    else
      match versionNumber start (c.skip 1) with
      | .error e => .error e
      | .ok (minor, c) => .ok (.versionDirective major minor, c)

/-- Reads the handle that a directive defines and what it stands for. -/
def tagDirective (start : Mark) (c : Cursor) : Except Fault (Token.Kind × Cursor) :=
  let c := c.skipWhile isBlank
  if !c.isAt '!' then .error (.ofToken start c.mark .noTagMark)
  else
    let (handle, c) := tagHandle c
    if 1 < handle.length && handle.getLast? ≠ some (.char '!') then
      .error (.ofToken start c.mark .noTagMark)
    else if !c.at? isBlank then .error (.ofToken start c.mark .noWhitespace)
    else
      match uri start [] (c.skipWhile isBlank) with
      | .error e => .error e
      | .ok (value, c) =>
        if Cursor.endsWord c.rest then .ok (.tagDirective handle value, c)
        else .error (.ofToken start c.mark .noWhitespaceOrBreak)

/-- Reads a directive up to the end of its line; the percent sign is at the cursor. -/
def directive (c : Cursor) : Except Fault (Token.Kind × Cursor) :=
  let start := c.mark
  let name := (c.skip 1).rest.takeWhile isNameChar
  let c := (c.skip 1).skip name.length
  let value : Except Fault (Token.Kind × Cursor) :=
    if name.isEmpty then .error (.ofToken start c.mark .noDirectiveName)
    else if !Cursor.endsWord c.rest then .error (.ofToken start c.mark .badDirectiveName)
    else if name = "YAML".toList then versionDirective start c
    else if name = "TAG".toList then tagDirective start c
    else .error (.ofToken start c.mark .unknownDirective)
  match value with
  | .error e => .error e
  | .ok (kind, c) =>
    let c := c.skipWhile isBlank
    let c := if c.isAt '#' then c.skipWhile (!isBreak ·) else c
    if Cursor.endsLine c.rest then .ok (kind, c.skipLine)
    else .error (.ofToken start c.mark .noCommentOrBreak)

end CoScript.Yaml
