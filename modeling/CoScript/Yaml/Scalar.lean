import CoScript.Text.Name
import CoScript.Yaml.Cursor

/-!
Scalars of a YAML text: plain ones, quoted ones and blocks. In plain and quoted scalars a single line
break counts as a blank, and of several breaks the first is dropped.
-/
namespace CoScript.Yaml

/-- How a scalar is written. -/
inductive Style where
  | plain
  | singleQuoted
  | doubleQuoted
  | literal
  | folded
  deriving DecidableEq, Repr

/-- Blanks and line breaks between two words. -/
structure Gap where
  /-- Blanks before any line break. -/
  blanks : List Char := []
  /-- Whether the line ended. -/
  lined : Bool := false
  /-- The first line break, unless it was escaped. -/
  leading : List Char := []
  /-- The line breaks after it. -/
  trailing : List Char := []

/-- What a gap counts as. -/
def Gap.folded (g : Gap) : List Char :=
  if !g.lined then g.blanks
  else if g.leading = ['\n'] then (if g.trailing.isEmpty then [' '] else g.trailing)
  else g.leading ++ g.trailing

/-- Reads a gap. Tabs before the column `tabLimit` on a new line are refused. The fuel is the number of
characters left. -/
def gap (start : Mark) (tabLimit : Nat) : (fuel : Nat) → Gap → Cursor → Except Fault (Gap × Cursor)
  | 0, g, c => .ok (g, c)
  | fuel + 1, g, c =>
    match c.rest with
    | [] => .ok (g, c)
    | x :: _ =>
      if isBlank x then
        if g.lined && c.mark.column < tabLimit && x == '\t' then
          .error (.ofToken start c.mark .tabInPlain)
        else gap start tabLimit fuel (if g.lined then g else { g with blanks := g.blanks ++ [x] })
          (c.skip 1)
      else if isBreak x then
        gap start tabLimit fuel
          (if g.lined then { g with trailing := g.trailing ++ c.breakText }
          else { blanks := [], lined := true, leading := c.breakText, trailing := [] }) c.skipLine
      else .ok (g, c)

/-! Plain scalars. -/

/-- The number of characters of a word of a plain scalar. -/
def plainWord (flow : Bool) : List Char → Nat
  | [] => 0
  | x :: rest =>
    if isBlank x || isBreak x || (x == ':' && Cursor.endsWord rest) ||
        (flow && [',', '?', '[', ']', '{', '}'].contains x) then 0
    else plainWord flow rest + 1

/-- A plain scalar that was read. -/
structure Plain where
  value : List Char
  /-- The place after the last word. -/
  stop : Mark
  /-- Whether line breaks were read after the last word. -/
  lined : Bool
  cursor : Cursor

/-- Reads words of a plain scalar as long as they stand at `indent` or to the right of it. The fuel is
the number of characters left. -/
def plainFrom (flow : Bool) (indent : Nat) (start : Mark) :
    (fuel : Nat) → List Char → Gap → Mark → Cursor → Except Fault Plain
  | 0, value, g, stop, c => .ok ⟨value, stop, g.lined, c⟩
  | fuel + 1, value, g, stop, c =>
    if c.atDocument || c.isAt '#' then .ok ⟨value, stop, g.lined, c⟩
    else
      let n := plainWord flow c.rest
      let word := c.rest.take n
      let value := if n = 0 then value else value ++ g.folded ++ word
      let g := if n = 0 then g else {}
      let c := c.skip n
      let stop := if n = 0 then stop else c.mark
      if !c.at? (fun x => isBlank x || isBreak x) then .ok ⟨value, stop, g.lined, c⟩
      else
        match gap start indent (c.rest.length + 1) g c with
        | .error e => .error e
        | .ok (g, c) =>
          if !flow && c.mark.column < indent then .ok ⟨value, stop, g.lined, c⟩
          else plainFrom flow indent start fuel value g stop c

/-- Reads a plain scalar. -/
def plain (flow : Bool) (indent : Nat) (c : Cursor) : Except Fault Plain :=
  plainFrom flow indent c.mark (c.rest.length + 1) [] {} c.mark c

/-! Quoted scalars. -/

/-- The character that an escape of one letter stands for. -/
def escaped? : Char → Option Char
  | '0' => some '\x00'
  | 'a' => some '\x07'
  | 'b' => some '\x08'
  | 't' | '\t' => some '\t'
  | 'n' => some '\n'
  | 'v' => some '\x0b'
  | 'f' => some '\x0c'
  | 'r' => some '\r'
  | 'e' => some '\x1b'
  | ' ' => some ' '
  | '"' => some '"'
  | '\'' => some '\''
  | '\\' => some '\\'
  | 'N' => some '\u0085'
  | '_' => some '\u00a0'
  | 'L' => some '\u2028'
  | 'P' => some '\u2029'
  | _ => none

/-- Reads an escape; the backslash is at the cursor. -/
def escape (start : Mark) (c : Cursor) : Except Fault (Char × Cursor) :=
  let letter := (c.rest.drop 1).headD '\x00'
  let digits? : Option Nat := match letter with
    | 'x' => some 2
    | 'u' => some 4
    | 'U' => some 8
    | _ => none
  match escaped? letter, digits? with
  | some x, _ => .ok (x, c.skip 2)
  | none, none => .error (.ofToken start c.mark .unknownEscape)
  | none, some n =>
    let c := c.skip 2
    let digits := c.rest.take n
    if digits.length < n || !digits.all isHexDigit then .error (.ofToken start c.mark .badHexadecimal)
    else
      let code := digits.foldl (fun m d => m * 16 + hexValue d) 0
      if code.isValidChar then .ok (.ofNat code, c.skip n)
      else .error (.ofToken start c.mark .badCodePoint)

/-- Reads characters of a quoted scalar up to a blank, a line break or the end. The result also tells
whether an escaped line break came last. The fuel is the number of characters left. -/
def quotedWord (single : Bool) (start : Mark) :
    (fuel : Nat) → List Char → Cursor → Except Fault (List Char × Bool × Cursor)
  | 0, word, c => .ok (word, false, c)
  | fuel + 1, word, c =>
    match c.rest with
    | [] => .ok (word, false, c)
    | x :: rest =>
      if isBlank x || isBreak x then .ok (word, false, c)
      else if single && x == '\'' then
        if rest.head? = some '\'' then quotedWord single start fuel (word ++ ['\'']) (c.skip 2)
        else .ok (word, false, c)
      else if !single && x == '"' then .ok (word, false, c)
      else if !single && x == '\\' then
        if rest.head?.any isBreak then .ok (word, true, (c.skip 1).skipLine)
        else
          match escape start c with
          | .error e => .error e
          | .ok (y, c) => quotedWord single start fuel (word ++ [y]) c
      else quotedWord single start fuel (word ++ [x]) (c.skip 1)

/-- Reads the rest of a quoted scalar. The fuel is the number of characters left. -/
def quotedFrom (single : Bool) (start : Mark) :
    (fuel : Nat) → List Char → Cursor → Except Fault (List Char × Cursor)
  | 0, _, c => .error (.ofToken start c.mark .endInQuotes)
  | fuel + 1, value, c =>
    if c.atDocument then .error (.ofToken start c.mark .documentInQuotes)
    else if c.isOver then .error (.ofToken start c.mark .endInQuotes)
    else
      match quotedWord single start (c.rest.length + 1) value c with
      | .error e => .error e
      | .ok (value, lined, c) =>
        if c.isAt (if single then '\'' else '"') then .ok (value, c.skip 1)
        else
          match gap start 0 (c.rest.length + 1) { lined := lined } c with
          | .error e => .error e
          | .ok (g, c) => quotedFrom single start fuel (value ++ g.folded) c

/-- Reads a quoted scalar; the opening quote is at the cursor. -/
def quoted (single : Bool) (c : Cursor) : Except Fault (List Char × Cursor) :=
  quotedFrom single c.mark (c.rest.length + 1) [] (c.skip 1)

/-! Blocks. -/

/-- What is done with line breaks at the end of a block. -/
inductive Chomping where
  | clip
  | strip
  | keep
  deriving DecidableEq

/-- The chomping that a character asks for. -/
def chomping? : Char → Option Chomping
  | '+' => some .keep
  | '-' => some .strip
  | _ => none

/-- Reads what follows the sign of a block on its line: chomping and indentation in either order. An
indentation of zero means that none is given. -/
def blockHeader (start : Mark) (c : Cursor) : Except Fault (Chomping × Nat × Cursor) :=
  let sign (c : Cursor) : Option Chomping × Cursor :=
    match c.rest.head?.bind chomping? with
    | some k => (some k, c.skip 1)
    | none => (none, c)
  let digit (c : Cursor) : Except Fault (Nat × Cursor) :=
    match c.rest.head? with
    | some d =>
      if d == '0' then .error (.ofToken start c.mark .zeroIndent)
      else if d.isDigit then .ok (d.toNat - '0'.toNat, c.skip 1)
      else .ok (0, c)
    | none => .ok (0, c)
  match sign c with
  | (some k, c) =>
    match digit c with
    | .error e => .error e
    | .ok (n, c) => .ok (k, n, c)
  | (none, c) =>
    match digit c with
    | .error e => .error e
    | .ok (0, c) => .ok (.clip, 0, c)
    | .ok (n, c) =>
      match sign c with
      | (some k, c) => .ok (k, n, c)
      | (none, c) => .ok (.clip, n, c)

/-- Skips indentation and empty lines of a block. The result has the breaks of the empty lines and the
widest indentation. The fuel is the number of characters left. -/
def blockBreaks (start : Mark) (indent : Nat) :
    (fuel widest : Nat) → List Char → Cursor → Except Fault (List Char × Nat × Cursor)
  | 0, widest, breaks, c => .ok (breaks, widest, c)
  | fuel + 1, widest, breaks, c =>
    let blanks := (c.rest.takeWhile (· == ' ')).length
    let c := c.skip (if indent = 0 then blanks else min blanks (indent - c.mark.column))
    let widest := max widest c.mark.column
    if (indent = 0 || c.mark.column < indent) && c.isAt '\t' then
      .error (.ofToken start c.mark .tabInBlock)
    else if c.atBreak then
      blockBreaks start indent fuel widest (breaks ++ c.breakText) c.skipLine
    else .ok (breaks, widest, c)

/-- Reads the lines of a block. `leading` is the break after the line before, `breaks` are those of the
empty lines after it, and `blank` tells whether that line started with a blank. The fuel is the number
of characters left. -/
def blockLines (literal : Bool) (start : Mark) (indent : Nat) :
    (fuel : Nat) → (value leading breaks : List Char) → (blank : Bool) → Cursor →
      Except Fault (List Char × List Char × List Char × Cursor)
  | 0, value, leading, breaks, _, c => .ok (value, leading, breaks, c)
  | fuel + 1, value, leading, breaks, blank, c =>
    if c.mark.column ≠ indent || c.isOver then .ok (value, leading, breaks, c)
    else
      let blankNow := c.at? isBlank
      let joined := if !literal && !blank && !blankNow && leading = ['\n'] then
          (if breaks.isEmpty then [' '] else [])
        else leading
      let line := c.rest.takeWhile (!isBreak ·)
      let c := c.skip line.length
      let leading := c.breakText
      let value := value ++ joined ++ breaks ++ line
      match blockBreaks start indent (c.rest.length + 1) 0 [] c.skipLine with
      | .error e => .error e
      | .ok (breaks, _, c) => blockLines literal start indent fuel value leading breaks blankNow c

/-- Reads a block; its sign is at the cursor. `outer` is the indentation around it, if there is one. -/
def block (literal : Bool) (outer : Option Nat) (c : Cursor) : Except Fault (List Char × Cursor) :=
  let start := c.mark
  match blockHeader start (c.skip 1) with
  | .error e => .error e
  | .ok (chomping, increment, c) =>
    let c := c.skipWhile isBlank
    let c := if c.isAt '#' then c.skipWhile (!isBreak ·) else c
    if !Cursor.endsLine c.rest then .error (.ofToken start c.mark .noCommentOrBreak)
    else
      let given := if increment = 0 then 0 else outer.getD 0 + increment
      match blockBreaks start given (c.rest.length + 1) 0 [] c.skipLine with
      | .error e => .error e
      | .ok (breaks, widest, c) =>
        let least := match outer with
          | some n => n + 1
          | none => 1
        let indent := if given = 0 then max widest least else given
        match blockLines literal start indent (c.rest.length + 1) [] [] breaks false c with
        | .error e => .error e
        | .ok (value, leading, breaks, c) =>
          .ok (value ++ (if chomping = .strip then [] else leading) ++
            (if chomping = .keep then breaks else []), c)

end CoScript.Yaml
