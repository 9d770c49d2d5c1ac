import CoScript.Text.Name

/-!
Integers of sixty-four bits as people write them: with a sign, in base two, eight, ten or sixteen, and
with underscores between digits.
-/
namespace CoScript.Integer

/-- Why a text is no integer. -/
inductive Fault where
  | malformed
  | tooLarge
  deriving DecidableEq, Repr

/-- The value of digits in a base, if all are digits of it and there is one. -/
def digits? (base : Nat) (cs : List Char) : Option Nat :=
  if cs.isEmpty then none
  else cs.foldl (fun n? c =>
    n?.bind fun n => if isHexDigit c && hexValue c < base then some (n * base + hexValue c) else none)
    (some 0)

/-- The value of digits in a base after a number, below two to the power sixty-four. Underscores do not
count. -/
def valueFrom (base : Nat) : (start : Nat) → List Char → Except Fault Nat
  | n, [] => .ok n
  | n, c :: cs =>
    if c = '_' then valueFrom base n cs
    else if isHexDigit c && hexValue c < base then
      if 0xFFFFFFFFFFFFFFFF < n * base + hexValue c then .error .tooLarge
      else valueFrom base (n * base + hexValue c) cs
    else .error .malformed

/-- The base of an integer by what it starts with, and the rest. A zero alone in front means base
eight. -/
def base : List Char → Nat × List Char
  | '0' :: mark :: c :: cs =>
    match mark.toLower with
    | 'x' => (16, c :: cs)
    | 'o' => (8, c :: cs)
    | 'b' => (2, c :: cs)
    | _ => (8, mark :: c :: cs)
  | '0' :: cs => (8, cs)
  | cs => (10, cs)

/-- Whether every underscore stands between two digits; the mark of a base counts as one. -/
def separates (afterDigit : Bool) : List Char → Bool
  | [] => true
  | '_' :: c :: rest => afterDigit && isHexDigit c && separates true rest
  | ['_'] => false
  | _ :: rest => separates true rest

/-- The value of an integer without a sign. -/
def magnitude (cs : List Char) : Except Fault Nat :=
  if cs.isEmpty then .error .malformed
  else
    let (radix, digits) := base cs
    match valueFrom radix 0 digits with
    | .error f => .error f
    | .ok n => if separates (radix ≠ 10) digits then .ok n else .error .malformed

/-- The least number that needs the highest of sixty-four bits. -/
def signBit : Nat := 0x8000000000000000

/-- The value of an integer with an optional sign. -/
def parse (cs : List Char) : Except Fault Int :=
  let positive (cs : List Char) : Except Fault Int :=
    (magnitude cs).bind fun n => if n < signBit then .ok (.ofNat n) else .error .tooLarge
  match cs with
  | '-' :: rest =>
    (magnitude rest).bind fun n => if n ≤ signBit then .ok (.negOfNat n) else .error .tooLarge
  | '+' :: rest => positive rest
  | rest => positive rest

end CoScript.Integer
