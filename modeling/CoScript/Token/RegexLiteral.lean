import CoScript.Text.Name

/-!
Regular expression literals: how far they reach and whether their flags make sense. The pattern is
not looked into beyond what is needed to find its end.
-/
namespace CoScript.RegexLiteral

/-- How a literal ends. -/
inductive Outcome where
  | ok
  | unterminated
  | badFlags
  deriving DecidableEq, Repr

/-- Where a literal ends. -/
structure Extent where
  outcome : Outcome
  /-- The number of glyphs up to the end or the complaint. -/
  length : Nat
  deriving DecidableEq, Repr

/-- The flags there are. -/
def knownFlags : List Char :=
  ['d', 'g', 'i', 'm', 's', 'u', 'y', 'v']

/-- Reads flags, none of which may be unknown or occur twice. -/
def flags (seen : List Char) (length : Nat) : Text → Extent
  | .char c :: rest =>
    if isPlainLetter c || c.isDigit then
      if !knownFlags.contains c || seen.contains c then ⟨.badFlags, length + 1⟩
      else flags (c :: seen) (length + 1) rest
    else ⟨.ok, length⟩
  | _ => ⟨.ok, length⟩

/-- Reads a pattern after its opening slash. A slash in brackets does not close it, and neither does
an escaped one. -/
def body (inBrackets : Bool) (length : Nat) : Text → Extent
  | [] => ⟨.unterminated, length⟩
  | g :: rest =>
    if g.is '\n' || g.is '\r' then ⟨.unterminated, length⟩
    else if g.is '\\' then
      match rest with
      | [] => ⟨.unterminated, length + 1⟩
      | h :: rest =>
        if h.is '\n' then ⟨.unterminated, length + 1⟩ else body inBrackets (length + 2) rest
    else if g.is '[' then body true (length + 1) rest
    else if g.is ']' then body false (length + 1) rest
    else if g.is '/' && !inBrackets then flags [] (length + 1) rest
    else body inBrackets (length + 1) rest

end CoScript.RegexLiteral
