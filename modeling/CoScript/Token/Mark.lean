import CoScript.Text.Glyph

/-!
Places in a script: byte offset, line and column.
-/
namespace CoScript

/-- A place in a script. Lines and columns count from one, offsets from zero. -/
structure Mark where
  offset : Nat := 0
  line : Nat := 1
  column : Nat := 1
  deriving DecidableEq, Repr, Inhabited

namespace Mark

/-- The place after a glyph, where each byte takes a column. -/
def past (m : Mark) (g : Glyph) : Mark :=
  if g.is '\n' then ⟨m.offset + 1, m.line + 1, 1⟩
  else ⟨m.offset + g.size, m.line, m.column + g.size⟩

/-- The place after a glyph, where the glyph takes one column. -/
def pastWhole (m : Mark) (g : Glyph) : Mark :=
  if g.is '\n' then ⟨m.offset + 1, m.line + 1, 1⟩
  else ⟨m.offset + g.size, m.line, m.column + 1⟩

/-- The place after a text, where each byte takes a column. -/
def pastAll (m : Mark) (t : Text) : Mark :=
  t.foldl past m

/-- The place after a text, where each glyph takes one column. -/
def pastAllWhole (m : Mark) (t : Text) : Mark :=
  t.foldl pastWhole m

end Mark

end CoScript
