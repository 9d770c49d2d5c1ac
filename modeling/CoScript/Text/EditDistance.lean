import CoScript.Text.Glyph

/-!
How far two texts are apart: the least number of characters to insert, to delete or to replace that
makes one out of the other.
-/
namespace CoScript.EditDistance

/-- The distances from a text with one more character in front to all endings of another text, given
those from the text. -/
def row (c : Char) : (other : List Char) → (below : List Nat) → List Nat
  | [], below => [below.headD 0 + 1]
  | d :: other, below =>
    let rest := row c other below.tail
    let replaced := below.tail.headD 0 + if c = d then 0 else 1
    min replaced (min (below.headD 0) (rest.headD 0) + 1) :: rest

/-- The distances from a text to all endings of another one, the whole of it first. -/
def rows : (text other : List Char) → List Nat
  | [], other => (List.range (other.length + 1)).reverse
  | c :: text, other => row c other (rows text other)

/-- The distance of two texts. -/
def distance (a b : Text) : Nat :=
  (rows a.toChars b.toChars).headD 0

end CoScript.EditDistance
