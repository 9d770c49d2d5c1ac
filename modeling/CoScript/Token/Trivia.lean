import CoScript.Text.Name
import CoScript.Token.Mark

/-!
Blank space and comments, which separate tokens. Of a comment each byte takes a column.
-/
namespace CoScript.Trivia

/-- What the scanner is inside of. -/
inductive Inside where
  | space
  | lineComment
  /-- Between the slash and the asterisk that open a block comment. -/
  | blockOpening
  | blockComment
  /-- Between the asterisk and the slash that close a block comment. -/
  | blockClosing
  deriving DecidableEq, Repr

/-- Where trivia ends. -/
structure Extent where
  /-- Whether a line break was passed. -/
  newline : Bool
  /-- Whether the trivia breaks off inside a block comment. -/
  unterminated : Bool
  mark : Mark
  rest : Text
  deriving DecidableEq, Repr

/-- Whether a glyph and the next one are these characters. -/
def pair (g : Glyph) (next : Option Glyph) (first second : Char) : Bool :=
  g.is first && next.any (·.is second)

/-- Skips trivia. A line comment ends at a line feed, and either comment breaks off at a NUL, which a
block comment does not survive. -/
def skip : Inside → (newline : Bool) → Mark → Text → Extent
  | inside, newline, m, [] => ⟨newline, inside = .blockComment, m, []⟩
  | .space, newline, m, g :: rest =>
    if g.is '\n' || g.is '\r' then skip .space true (m.past g) rest
    else if g.is ' ' || g.is '\t' || g.is '\x0b' || g.is '\x0c' then
      skip .space newline (m.past g) rest
    else if g.holds isWideSpace then
      skip .space (newline || g.is '\u2028' || g.is '\u2029') (m.pastWhole g) rest
    else if pair g rest.head? '/' '/' then skip .lineComment newline (m.past g) rest
    else if pair g rest.head? '/' '*' then skip .blockOpening newline (m.past g) rest
    else ⟨newline, false, m, g :: rest⟩
  | .lineComment, newline, m, g :: rest =>
    if g.is '\n' then skip .space true (m.past g) rest
    else if g.is '\x00' then ⟨newline, false, m, g :: rest⟩
    else skip .lineComment newline (m.past g) rest
  | .blockOpening, newline, m, g :: rest => skip .blockComment newline (m.past g) rest
  | .blockComment, newline, m, g :: rest =>
    if pair g rest.head? '*' '/' then skip .blockClosing newline (m.past g) rest
    else if g.is '\x00' then ⟨newline, true, m, g :: rest⟩
    else skip .blockComment (newline || g.is '\n') (m.past g) rest
  | .blockClosing, newline, m, g :: rest => skip .space newline (m.past g) rest

end CoScript.Trivia
