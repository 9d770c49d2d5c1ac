import CoScript.Token.Quotation

/-!
Template literals: where they end, and how they fall into chunks of text and the sources of their
substitutions. Substitutions nest: they hold strings, braces and further templates.
-/
namespace CoScript.Template

/-- What the automaton is inside of. -/
inductive Frame where
  /-- The text of a template. -/
  | chunk
  /-- The text of a template, after a backslash. -/
  | chunkEscape
  /-- Between the dollar sign and the brace that open a substitution. -/
  | opening
  /-- A substitution with some braces open. -/
  | code (depth : Nat)
  /-- A string of a substitution. -/
  | quotation (quote : Char) (mode : Quotation.Mode)
  deriving DecidableEq, Repr

/-- What the automaton does with a glyph. -/
inductive Move where
  /-- The template is malformed; the complaint stands before or after the glyph. -/
  | fail (past : Bool)
  /-- The template goes on inside of these frames, innermost first; it is over when none is left. -/
  | go (frames : List Frame) (whole : Bool)
  deriving DecidableEq, Repr

/-- Whether a glyph opens a substitution together with the next one. -/
def opens (g : Glyph) (next : Option Glyph) : Bool :=
  g.is '$' && next.any (·.is '{')

/-- One glyph of a template, in the innermost frame. -/
def step (frame : Frame) (outer : List Frame) (g : Glyph) (next : Option Glyph) : Move :=
  match frame with
  | .chunk =>
    if g.is '\\' then .go (.chunkEscape :: outer) false
    else if g.is '`' then .go outer false
    else if opens g next then .go (.opening :: .chunk :: outer) false
    else .go (.chunk :: outer) false
  | .chunkEscape => .go (.chunk :: outer) false
  | .opening => .go (.code 1 :: outer) false
  | .code depth =>
    if g.is '{' then .go (.code (depth + 1) :: outer) false
    else if g.is '}' then
      if depth ≤ 1 then .go outer false else .go (.code (depth - 1) :: outer) false
    else if g.is '"' || g.is '\'' then .go (.quotation g.toChar .plain :: .code depth :: outer) false
    else if g.is '`' then .go (.chunk :: .code depth :: outer) false
    else .go (.code depth :: outer) false
  | .quotation quote mode =>
    match Quotation.step quote mode g next with
    | .fail past => .fail past
    | .finish => .go outer false
    | .go mode _ whole => .go (.quotation quote mode :: outer) whole

/-- Where a template ends. -/
structure Extent where
  /-- Whether the template is well formed. -/
  ok : Bool
  /-- The number of glyphs up to the end or the complaint. -/
  length : Nat
  mark : Mark
  deriving DecidableEq, Repr

/-- Runs the automaton until no frame is left. -/
def run : List Frame → (length : Nat) → Mark → Text → Extent
  | [], length, m, _ => ⟨true, length, m⟩
  | _ :: _, length, m, [] => ⟨false, length, m⟩
  | frame :: outer, length, m, g :: rest =>
    match step frame outer g rest.head? with
    | .fail past => ⟨false, if past then length + 1 else length, if past then m.past g else m⟩
    | .go frames whole => run frames (length + 1) (Quotation.advance whole m g) rest

/-! Splitting. -/

/-- What the splitter is inside of. -/
inductive Place where
  | text
  /-- After a backslash. -/
  | escaped
  /-- Between the dollar sign and the brace that open a substitution. -/
  | opening
  /-- A substitution. -/
  | inside (frame : Frame) (outer : List Frame)
  deriving DecidableEq, Repr

/-- Puts a glyph in front of the first part. -/
def prepend (g : Glyph) : List Text → List Text
  | [] => [[g]]
  | part :: parts => (g :: part) :: parts

/-- The parts of the body of a template: text and the sources of substitutions in turn, text first
and last. Nothing comes of a body that ends inside a substitution. -/
def partsFrom : Place → Text → Option (List Text)
  | .text, [] | .escaped, [] => some [[]]
  | .opening, [] | .inside _ _, [] => none
  | .text, g :: rest =>
    if g.is '\\' then (partsFrom .escaped rest).map (prepend g)
    else if opens g rest.head? then (partsFrom .opening rest).map ([] :: ·)
    else (partsFrom .text rest).map (prepend g)
  | .escaped, g :: rest => (partsFrom .text rest).map (prepend g)
  | .opening, _ :: rest => partsFrom (.inside (.code 1) []) rest
  | .inside frame outer, g :: rest =>
    match step frame outer g rest.head? with
    | .fail _ => none
    | .go [] _ => (partsFrom .text rest).map ([] :: ·)
    | .go (frame :: outer) _ => (partsFrom (.inside frame outer) rest).map (prepend g)

/-- Every second element, from the first one on. -/
def alternate {α : Type} : List α → List α
  | [] => []
  | [a] => [a]
  | a :: _ :: rest => a :: alternate rest

/-- The body of a template: chunks of text with substitutions between them. -/
structure Body where
  chunks : List Text
  sources : List Text
  deriving DecidableEq, Repr

/-- Splits the body of a template. -/
def split? (body : Text) : Option Body :=
  (partsFrom .text body).map fun parts => ⟨alternate parts, alternate parts.tail⟩

end CoScript.Template
