import CoScript.Text.Name
import CoScript.Token.Mark

/-!
String literals: where they end and which characters they denote. A string is read glyph by glyph by
an automaton, which also reads the strings inside template substitutions.
-/
namespace CoScript.Quotation

/-- Where the automaton stands. -/
inductive Mode where
  | plain
  /-- After a backslash. -/
  | escape
  /-- After an escaped carriage return, to which a line feed belongs. -/
  | afterReturn
  /-- Some hexadecimal digits are due; `unicode` tells `\u` from `\x`. -/
  | hex (due value : Nat) (unicode : Bool)
  /-- After `\u`. -/
  | unicode
  /-- Inside the braces of `\u{…}`. -/
  | braced (count value : Nat)
  deriving DecidableEq, Repr

/-- What an element of a string denotes. Half of a surrogate pair denotes a character only together
with the other half. -/
inductive Piece where
  | glyph (g : Glyph)
  | half (value : Nat) (braced : Bool)
  /-- An escaped line break, which denotes nothing but keeps halves apart. -/
  | joint
  deriving DecidableEq, Repr

/-- What the automaton does with a glyph. -/
inductive Move where
  /-- The literal is malformed; the complaint stands before or after the glyph. -/
  | fail (past : Bool)
  /-- The glyph is the closing quote. -/
  | finish
  /-- The literal goes on. `whole` says that the glyph takes one column, however many bytes it has. -/
  | go (mode : Mode) (piece : Option Piece) (whole : Bool)
  deriving DecidableEq, Repr

/-- What a numeric escape denotes. -/
def Piece.ofValue (value : Nat) (braced : Bool) : Piece :=
  if 0xD800 ≤ value && value ≤ 0xDFFF then .half value braced else .glyph (.char (Char.ofNat value))

/-- The control character that a letter stands for after a backslash. -/
def control? : Char → Option Char
  | 'n' => some '\n'
  | 't' => some '\t'
  | 'r' => some '\r'
  | 'b' => some '\x08'
  | 'f' => some '\x0c'
  | 'v' => some '\x0b'
  | '0' => some '\x00'
  | _ => none

/-- One glyph outside of escapes. -/
def plainStep (quote : Char) (g : Glyph) : Move :=
  if g.is quote then .finish
  else if g.is '\n' || g.is '\r' then .fail false
  else if g.is '\\' then .go .escape none false
  else .go .plain (some (.glyph g)) false

/-- One hexadecimal digit of an escape. -/
def hexStep (due value : Nat) (unicode : Bool) (g : Glyph) : Move :=
  if !g.holds isHexDigit then .fail false
  else
    let value := value * 16 + hexValue g.toChar
    if due ≤ 1 then .go .plain (some (.ofValue value false)) false
    else .go (.hex (due - 1) value unicode) none false

/-- The glyph after a backslash. Zero followed by a digit is refused, a line break continues the
literal, and any character without a meaning of its own denotes itself. -/
def escapeStep (g : Glyph) (next : Option Glyph) : Move :=
  match g with
  | .stray _ => .go .plain (some (.glyph (.char g.toChar))) true
  | .char c =>
    if c = '0' && next.any (·.holds Char.isDigit) then .fail false
    else match control? c with
    | some control => .go .plain (some (.glyph (.char control))) false
    | none =>
      if c = '\r' then .go .afterReturn (some .joint) false
      else if c = '\n' then .go .plain (some .joint) false
      else if c = 'x' then .go (.hex 2 0 false) none false
      else if c = 'u' then .go .unicode none false
      else if c = '\x00' then .fail false
      else .go .plain (some (.glyph g)) (0x80 ≤ c.toNat)

/-- One glyph inside the braces of `\u{…}`: one to six digits that do not exceed the last code
point. -/
def bracedStep (count value : Nat) (g : Glyph) : Move :=
  if g.holds isHexDigit then .go (.braced (count + 1) (value * 16 + hexValue g.toChar)) none false
  else if !g.is '}' || count = 0 || 6 < count then .fail false
  else if 0x10FFFF < value then .fail true
  else .go .plain (some (.ofValue value true)) false

/-- One glyph of a literal. -/
def step (quote : Char) (mode : Mode) (g : Glyph) (next : Option Glyph) : Move :=
  match mode with
  | .plain => plainStep quote g
  | .escape => escapeStep g next
  | .afterReturn => if g.is '\n' then .go .plain none false else plainStep quote g
  | .hex due value unicode => hexStep due value unicode g
  | .unicode => if g.is '{' then .go (.braced 0 0) none false else hexStep 4 0 true g
  | .braced count value => bracedStep count value g

/-- Where a literal ends and what it denotes. -/
structure Extent where
  /-- What the literal denotes, unless it is malformed. -/
  pieces? : Option (List Piece)
  /-- The number of glyphs up to the end or the complaint. -/
  length : Nat
  mark : Mark
  deriving DecidableEq, Repr

/-- The place after a glyph. -/
def advance (whole : Bool) (m : Mark) (g : Glyph) : Mark :=
  if whole then m.pastWhole g else m.past g

/-- Runs the automaton. `pieces` holds what came before, last one first. -/
def run (quote : Char) : Mode → (pieces : List Piece) → (length : Nat) → Mark → Text → Extent
  | _, _, length, m, [] => ⟨none, length, m⟩
  | mode, pieces, length, m, g :: rest =>
    match step quote mode g rest.head? with
    | .fail past => ⟨none, if past then length + 1 else length, if past then m.past g else m⟩
    | .finish => ⟨some pieces.reverse, length + 1, m.past g⟩
    | .go mode piece whole =>
      run quote mode (piece.toList ++ pieces) (length + 1) (advance whole m g) rest

/-- What the pieces of a literal denote together: two halves of a surrogate pair, the second one
written without braces, make a character, and any other half reads as the replacement character. -/
def denote : List Piece → Text
  | [] => []
  | .glyph g :: rest => g :: denote rest
  | .joint :: rest => denote rest
  | .half high _ :: .half low false :: rest =>
    if high < 0xDC00 && 0xDC00 ≤ low then
      .char (Char.ofNat ((high - 0xD800) * 0x400 + (low - 0xDC00) + 0x10000)) :: denote rest
    else .char '\ufffd' :: denote (.half low false :: rest)
  | .half _ _ :: rest => .char '\ufffd' :: denote rest

end CoScript.Quotation
