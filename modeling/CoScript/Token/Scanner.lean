import CoScript.Text.Canonical
import CoScript.Token.Basic
import CoScript.Token.Numeral
import CoScript.Token.RegexLiteral
import CoScript.Token.Template
import CoScript.Token.Trivia

/-!
The scanner: takes tokens off a script one by one. Whether a slash divides or opens a regular
expression depends on the token before it.
-/
namespace CoScript

/-- A scanner: the text ahead, the place it starts at, and the kind of the last legal token. -/
structure Scanner where
  rest : Text
  mark : Mark := {}
  previous : Option Token.Kind := none
  deriving DecidableEq, Repr

namespace Scanner

/-- What is wrong with an illegal token. -/
inductive Flaw where
  | unterminatedComment
  | badString
  | unterminatedTemplate
  | unterminatedRegex
  | badRegexFlags
  /-- A character that starts no token. -/
  | unknown (c : Char)
  deriving DecidableEq, Repr

/-- The complaint about an illegal token. -/
def Flaw.message : Flaw → Text
  | unterminatedComment => txt "Unterminated multiline comment"
  | badString => txt "Invalid string literal"
  | unterminatedTemplate => txt "Unterminated template literal"
  | unterminatedRegex => txt "Unterminated regular expression"
  | badRegexFlags => txt "Invalid regular expression flags"
  | unknown c => [.char c]

/-- Whether a slash after a token of this kind divides. -/
def endsOperand : Token.Kind → Bool
  | .identifier | .privateName | .number | .string | .template | .regex => true
  | .operator o =>
    o == .parenClose || o == .bracketClose || o == .braceClose || o == .increment || o == .decrement
  | .keyword k => k == .this || k == .true || k == .false || k == .null
  | .illegal | .eof => false

/-- A token without its beginning: its kind, its meaning, the number of its glyphs and the place
after it. -/
structure Lexeme where
  kind : Token.Kind
  literal : Text
  length : Nat
  stop : Mark
  deriving DecidableEq, Repr

/-- An illegal token. -/
def Lexeme.illegal (flaw : Flaw) (length : Nat) (stop : Mark) : Lexeme :=
  ⟨.illegal, flaw.message, length, stop⟩

/-- A string literal. -/
def stringLexeme (quote : Char) (m : Mark) (rest : Text) : Lexeme :=
  let extent := Quotation.run quote .plain [] 1 (m.past (.char quote)) rest
  match extent.pieces? with
  | some pieces => ⟨.string, (Quotation.denote pieces).rejoin, extent.length, extent.mark⟩
  | none => .illegal .badString extent.length extent.mark

/-- A template literal, which means what stands between its backticks. -/
def templateLexeme (m : Mark) (rest : Text) : Lexeme :=
  let extent := Template.run [.chunk] 1 (m.past (.char '`')) rest
  if extent.ok then ⟨.template, rest.take (extent.length - 2), extent.length, extent.mark⟩
  else .illegal .unterminatedTemplate extent.length extent.mark

/-- The composed spelling of a name. -/
def composed (name : Text) : Text :=
  .ofChars (Canonical.compose name.toChars)

/-- The name that a text begins with, as it is written. -/
def nameAt (t : Text) : Text :=
  t.takeWhile (·.holds isNamePart)

/-- A regular expression literal. -/
def regexLexeme (m : Mark) (t rest : Text) : Lexeme :=
  let extent := RegexLiteral.body false 1 rest
  let raw := t.take extent.length
  let stop := m.pastAll raw
  match extent.outcome with
  | .ok => ⟨.regex, raw, extent.length, stop⟩
  | .unterminated => .illegal .unterminatedRegex extent.length stop
  | .badFlags => .illegal .badRegexFlags extent.length stop

/-- An operator, or a character that starts no token. -/
def operatorLexeme (m : Mark) (g : Glyph) (rest : Text) : Lexeme :=
  match Operator.leading? (g :: rest) with
  | some (o, _) =>
    let raw := txt o.spelling
    ⟨.operator o, raw, raw.length, m.pastAll raw⟩
  | none => .illegal (.unknown g.toChar) 1 (m.pastWhole g)

/-- The token that starts with a glyph. -/
def lexeme (divides : Bool) (m : Mark) (g : Glyph) (rest : Text) : Lexeme :=
  let t := g :: rest
  if g.is '"' || g.is '\'' then stringLexeme g.toChar m rest
  else if g.is '`' then templateLexeme m rest
  else if g.is '#' && rest.head?.any (·.holds isNameStart) then
    let raw := g :: nameAt rest
    ⟨.privateName, g :: composed (nameAt rest), raw.length, m.pastAllWhole raw⟩
  else if g.holds isNameStart then
    let raw := nameAt t
    let name := composed raw
    ⟨.ofWord name, name, raw.length, m.pastAllWhole raw⟩
  else if Numeral.starts t then
    let raw := t.take (Numeral.length t)
    ⟨.number, raw, raw.length, m.pastAll raw⟩
  else if g.is '/' && !divides then regexLexeme m t rest
  else operatorLexeme m g rest

/-- Takes the next token. At the end of the input it is the end token, however often it is taken. -/
def next (s : Scanner) : Token × Scanner :=
  let trivia := Trivia.skip .space false s.mark s.rest
  let m := trivia.mark
  let token (l : Lexeme) : Token × Scanner :=
    ({ kind := l.kind, literal := l.literal, raw := trivia.rest.take l.length,
       line := m.line, column := m.column, start := m.offset, stop := l.stop.offset,
       newlineBefore := trivia.newline },
     { rest := trivia.rest.drop l.length, mark := l.stop,
       previous := if l.kind = .illegal then s.previous else some l.kind })
  if trivia.unterminated then token (.illegal .unterminatedComment 0 m)
  else match trivia.rest with
    | [] => token ⟨.eof, [], 0, m⟩
    | g :: rest => token (lexeme (s.previous.any endsOperand) m g rest)

/-- The tokens up to and including the end token, of which there are at most `limit`. -/
def collect : (limit : Nat) → Scanner → List Token
  | 0, _ => []
  | limit + 1, s =>
    let (t, s) := s.next
    if t.kind = .eof then [t] else t :: collect limit s

end Scanner

/-- The tokens of a script, the end token last. Each token but the last takes part of the script, so
there is at most one more token than glyphs. -/
def Token.scan (t : Text) : List Token :=
  Scanner.collect (t.length + 1) { rest := t }

end CoScript
