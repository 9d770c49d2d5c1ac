import CoScript.Text.Integer
import CoScript.Yaml.Scalar

/-!
What plain scalars mean: a scalar that looks like a number, a truth value, a date or nothing at all is
one, and any other is a text.
-/
namespace CoScript.Yaml

/-- The sort of value that a scalar stands for. -/
inductive Meaning where
  | text
  | null
  | bool (value : Bool)
  | int
  | float
  | timestamp
  deriving DecidableEq, Repr

/-- The tag of a sort of value. -/
def Meaning.tag : Meaning → String
  | text => "!!str"
  | null => "!!null"
  | bool _ => "!!bool"
  | int => "!!int"
  | float => "!!float"
  | timestamp => "!!timestamp"

/-- The words that stand for values. -/
def words : List (Meaning × List String) :=
  [(.bool true, ["true", "True", "TRUE"]), (.bool false, ["false", "False", "FALSE"]),
   (.null, ["", "~", "null", "Null", "NULL"]), (.float, [".nan", ".NaN", ".NAN"]),
   (.float, [".inf", ".Inf", ".INF", "+.inf", "+.Inf", "+.INF", "-.inf", "-.Inf", "-.INF"])]

/-! Numbers. -/

/-- Whether an integer fits into sixty-four bits. Without a sign, the highest bit may be a part of the
number. -/
def isInt (cs : List Char) : Bool :=
  (Integer.parse cs).toBool || (Integer.magnitude cs).toBool

/-- Whether a text is an exponent or nothing. -/
def isExponent : List Char → Bool
  | [] => true
  | e :: cs =>
    let digits := match cs with
      | '+' :: ds | '-' :: ds => ds
      | ds => ds
    (e == 'e' || e == 'E') && !digits.isEmpty && digits.all Char.isDigit

/-- Whether a text is a decimal number with an optional fraction and exponent. -/
def isDecimal (cs : List Char) : Bool :=
  let cs := match cs with
    | '+' :: rest | '-' :: rest => rest
    | _ => cs
  let whole := cs.takeWhile Char.isDigit
  match cs.dropWhile Char.isDigit with
  | '.' :: rest =>
    (!whole.isEmpty || (rest.takeWhile Char.isDigit) ≠ []) && isExponent (rest.dropWhile Char.isDigit)
  | rest => !whole.isEmpty && isExponent rest

/-- Whether a number in decimal notation is too large to be a floating-point number. Digits beyond the
first hundreds and exponents beyond a few hundreds decide. -/
def isTooLarge (cs : List Char) : Bool :=
  let cs := match cs with
    | '+' :: rest | '-' :: rest => rest
    | _ => cs
  let mantissa := cs.takeWhile fun c => c != 'e' && c != 'E'
  let exponent := (cs.dropWhile fun c => c != 'e' && c != 'E').drop 1
  let whole := mantissa.takeWhile Char.isDigit
  let fraction := (mantissa.dropWhile Char.isDigit).drop 1
  let power : Int := match exponent with
    | '-' :: ds => .negOfNat ((Integer.digits? 10 ds).getD 0)
    | '+' :: ds => .ofNat ((Integer.digits? 10 ds).getD 0)
    | ds => .ofNat ((Integer.digits? 10 ds).getD 0)
  let value := (Integer.digits? 10 (whole ++ fraction)).getD 0
  let scale : Int := power - .ofNat fraction.length
  /- The least value that rounds to infinity. -/
  let bound : Nat := Nat.pow 2 1024 - Nat.pow 2 970
  if value = 0 || scale < .negOfNat (400 + (whole ++ fraction).length) then false
  else if 400 < scale then true
  else if 0 ≤ scale then bound ≤ value * Nat.pow 10 scale.toNat
  else bound * Nat.pow 10 (-scale).toNat ≤ value

/-! Dates. -/

/-- One or two digits of a field of a date within bounds, and the rest. -/
def dateField? (least most : Nat) (cs : List Char) : Option (Nat × List Char) :=
  let digits := (cs.take 2).takeWhile Char.isDigit
  match Integer.digits? 10 digits with
  | some n => if least ≤ n && n ≤ most then some (n, cs.drop digits.length) else none
  | none => none

/-- The number of days of a month. -/
def daysIn (year month : Nat) : Nat :=
  if month = 2 then
    if year % 4 = 0 && (year % 100 ≠ 0 || year % 400 = 0) then 29 else 28
  else if [4, 6, 9, 11].contains month then 30 else 31

/-- What follows a character, if a text starts with it. -/
def afterChar? (c : Char) : List Char → Option (List Char)
  | [] => none
  | d :: rest => if c = d then some rest else none

/-- Whether a text is a zone: the letter `Z` or an offset in hours and minutes. -/
def isZone : List Char → Bool
  | ['Z'] => true
  | [sign, a, b, ':', c, d] =>
    (sign == '+' || sign == '-') && [a, b, c, d].all Char.isDigit &&
      (Integer.digits? 10 [a, b]).any (· ≤ 24) && (Integer.digits? 10 [c, d]).any (· < 60)
  | _ => false

/-- What follows a time of the day, which may have a fraction of a second. -/
def afterTime? (cs : List Char) : Option (List Char) := do
  let (_, cs) ← dateField? 0 23 cs
  let cs ← afterChar? ':' cs
  let (_, cs) ← dateField? 0 59 cs
  let cs ← afterChar? ':' cs
  let (_, cs) ← dateField? 0 59 cs
  match cs with
  | p :: d :: rest =>
    if (p == '.' || p == ',') && d.isDigit then return rest.dropWhile Char.isDigit else return cs
  | _ => return cs

/-- Whether a text is a date with an optional time. -/
def isTimestamp (cs : List Char) : Bool :=
  let year := cs.takeWhile Char.isDigit
  let rest? : Option Bool := do
    let cs ← afterChar? '-' (cs.drop year.length)
    let (month, cs) ← dateField? 1 12 cs
    let cs ← afterChar? '-' cs
    let (day, cs) ← dateField? 1 31 cs
    let valid := day ≤ daysIn ((Integer.digits? 10 year).getD 0) month
    match cs with
    | [] => return valid
    | c :: cs =>
      let after ← afterTime? cs
      if c == 'T' || c == 't' then return valid && isZone after
      else return valid && c == ' ' && after.isEmpty
  year.length = 4 && rest?.getD false

/-! Resolution. -/

/-- The sort of value that a scalar stands for if it is neither quoted nor tagged. Whether it may be a
date can be ruled out. -/
def meaningOf (dates : Bool) (value : List Char) : Meaning :=
  match words.find? fun (_, ws) => ws.any fun w => w.toList = value with
  | some (meaning, _) => meaning
  | none =>
    match value with
    | [] => .null
    | c :: _ =>
      if c == '.' then (if isDecimal value && !isTooLarge value then .float else .text)
      else if c.isDigit || c == '+' || c == '-' then
        let plain := value.filter (· != '_')
        if dates && isTimestamp value then .timestamp
        else if isInt plain then .int
        else if isDecimal plain && !isTooLarge plain then .float
        else .text
      else .text

/-- Whether an integer is beyond the signed range. -/
def isUnsigned (cs : List Char) : Bool :=
  let plain := cs.filter (· != '_')
  isInt plain && !(Integer.parse plain).toBool

/-- The tags that a value has to agree with. -/
def valueTags : List Text :=
  [txt "!!bool", txt "!!int", txt "!!float", txt "!!null", txt "!!timestamp"]

/-- The sort of value that a scalar with a tag stands for. A text goes with every tag but those of other
sorts of values, which the scalar has to look like; an integer may be a float. -/
def meaningAs (tag value : Text) : Except Fault Meaning :=
  if !valueTags.contains tag then .ok .text
  else
    let meaning := meaningOf (tag = txt "!!timestamp") value.toChars
    let found := txt meaning.tag
    if found = tag then .ok meaning
    else if tag = txt "!!float" && meaning = .int && !isUnsigned value.toChars then .ok .float
    else .error { problem := .badTag found value tag }

end CoScript.Yaml
