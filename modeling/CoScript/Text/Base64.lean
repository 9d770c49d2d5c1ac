import CoScript.Text.Glyph

/-!
Bytes written with sixty-four letters, four letters for three bytes.
-/
namespace CoScript.Base64

/-- The value of a letter. -/
def value? (c : Char) : Option Nat :=
  if 'A' ≤ c && c ≤ 'Z' then some (c.toNat - 'A'.toNat)
  else if 'a' ≤ c && c ≤ 'z' then some (c.toNat - 'a'.toNat + 26)
  else if c.isDigit then some (c.toNat - '0'.toNat + 52)
  else if c = '+' then some 62
  else if c = '/' then some 63
  else none

/-- The bytes of four letters. Only the last letters of all may be padding, which is told by `last`. -/
def group? (last : Bool) (a b c d : Char) : Option (List UInt8) := do
  let first ← value? a
  let second ← value? b
  let head := first * 4 + second / 16
  if last && c = '=' && d = '=' then return [head.toUInt8]
  else
    let third ← value? c
    let middle := second % 16 * 16 + third / 4
    if last && d = '=' then return [head.toUInt8, middle.toUInt8]
    else
      let fourth ← value? d
      return [head.toUInt8, middle.toUInt8, (third % 4 * 64 + fourth).toUInt8]

/-- The bytes of letters without line breaks. -/
def groups? : List Char → Option (List UInt8)
  | [] => some []
  | a :: b :: c :: d :: rest => do
    let bytes ← group? rest.isEmpty a b c d
    return bytes ++ (← groups? rest)
  | _ => none

/-- The bytes that a text stands for. Line breaks do not count. -/
def decode? (cs : List Char) : Option (List UInt8) :=
  groups? (cs.filter fun c => c != '\n' && c != '\r')

end CoScript.Base64
