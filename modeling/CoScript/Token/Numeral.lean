import CoScript.Text.Name

/-!
Number literals: how far they reach. They are kept as they are written.
-/
namespace CoScript.Numeral

/-- The number of glyphs of a run of digits. An underscore counts only between two digits;
`afterDigit` tells whether a digit stands before. -/
def digits (isDigit : Char → Bool) (afterDigit : Bool) : Text → Nat
  | [] => 0
  | g :: rest =>
    if g.holds isDigit then digits isDigit true rest + 1
    else if g.is '_' && afterDigit && rest.head?.any (·.holds isDigit) then
      digits isDigit false rest + 1
    else 0

/-- The digits that belong to a letter after a leading zero. -/
def base? (c : Char) : Option (Char → Bool) :=
  if c = 'x' || c = 'X' then some isHexDigit
  else if c = 'b' || c = 'B' then some fun c => c == '0' || c == '1'
  else if c = 'o' || c = 'O' then some fun c => '0' ≤ c && c ≤ '7'
  else none

/-- Whether a point belongs to the number before it. It does not when a name follows, which is
decided on the first byte of what follows. -/
def takesPoint (afterPoint : Text) : Bool :=
  match afterPoint with
  | [] => true
  | g :: _ =>
    match g.bytes with
    | [] => true
    | b :: _ => !isNameStart (Char.ofNat b.toNat)

/-- The number of glyphs of a fraction at the start of a text. -/
def fraction : Text → Nat
  | g :: rest => if g.is '.' && takesPoint rest then digits Char.isDigit false rest + 1 else 0
  | [] => 0

/-- The number of glyphs of an exponent at the start of a text. Without a digit there is none. -/
def exponent : Text → Nat
  | g :: rest =>
    if g.is 'e' || g.is 'E' then
      let sign := if rest.head?.any fun g => g.is '+' || g.is '-' then 1 else 0
      match digits Char.isDigit false (rest.drop sign) with
      | 0 => 0
      | n => n + sign + 1
    else 0
  | [] => 0

/-- The number of glyphs of a number up to the mark of a big integer. -/
def body (t : Text) : Nat :=
  match t with
  | .char '0' :: .char c :: rest =>
    match base? c with
    | some isDigit => digits isDigit false rest + 2
    | none => decimal t
  | _ => decimal t
where
  /-- The number of glyphs of a number in base ten. -/
  decimal (t : Text) : Nat :=
    let whole := digits Char.isDigit false t
    let part := whole + fraction (t.drop whole)
    part + exponent (t.drop part)

/-- The number of glyphs of the number that a text begins with. -/
def length (t : Text) : Nat :=
  let n := body t
  if (t.drop n).head?.any (·.is 'n') then n + 1 else n

/-- Whether a text begins with a number. -/
def starts : Text → Bool
  | g :: rest => g.holds Char.isDigit || (g.is '.' && rest.head?.any (·.holds Char.isDigit))
  | [] => false

end CoScript.Numeral
