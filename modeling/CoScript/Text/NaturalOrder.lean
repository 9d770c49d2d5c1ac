import CoScript.Text.Name

/-!
The natural order of names: runs of digits compare as numbers, and letters come after other characters.
-/
namespace CoScript.NaturalOrder

/-- Whether a character counts as a letter. -/
def isLetter (c : Char) : Bool :=
  if c.toNat < 0x80 then c.isAlpha else Category.nameStart.contains c.toNat

/-- The number that the digits at the start of a text spell, after a number in front of them. -/
def number (start : Nat) (cs : List Char) : Nat :=
  (cs.takeWhile Char.isDigit).foldl (fun n c => n * 10 + (c.toNat - '0'.toNat)) start

/-- Whether the first of two texts that differ in their first characters comes before the second.
`common` is what both start with, last character first. -/
def differLt (common : List Char) (a : Char) (as : List Char) (b : Char) (bs : List Char) : Bool :=
  match isLetter a, isLetter b with
  | true, true => a < b
  | true, false => common.head?.any Char.isDigit
  | false, true => !common.head?.any Char.isDigit
  | false, false =>
    /- Zeros count when other digits come before them. -/
    let start := if (a == '0' || b == '0') && (common.takeWhile Char.isDigit).any (· != '0')
      then 1 else 0
    let (m, n) := (number start (a :: as), number start (b :: bs))
    let (i, j) := (((a :: as).takeWhile Char.isDigit).length, ((b :: bs).takeWhile Char.isDigit).length)
    if m ≠ n then m < n else if i ≠ j then i < j else a < b

/-- Whether a text comes before another one; both go on after what is common to them. -/
def ltFrom (common : List Char) : List Char → List Char → Bool
  | a :: as, b :: bs => if a = b then ltFrom (a :: common) as bs else differLt common a as b bs
  | [], _ :: _ => true
  | _, [] => false

/-- Whether a name comes before another one. -/
def lt (a b : Text) : Bool :=
  ltFrom [] a.toChars b.toChars

end CoScript.NaturalOrder
