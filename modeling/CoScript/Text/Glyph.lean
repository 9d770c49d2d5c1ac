/-!
Script text. A script arrives as bytes and is read as UTF-8; a byte that belongs to no encoded
character is kept as it is, so that every byte sequence has exactly one reading and writing the
reading back gives the same bytes.
-/
namespace CoScript

/-- One unit of script text: a character, or a byte that no encoded character accounts for. -/
inductive Glyph where
  | char (c : Char)
  | stray (byte : UInt8)
  deriving DecidableEq, Repr, Inhabited

/-- Script text, a list of glyphs. -/
abbrev Text := List Glyph

namespace Glyph

/-- The bytes a glyph is written as. -/
def bytes : Glyph → List UInt8
  | char c => String.utf8EncodeChar c
  | stray b => [b]

/-- The number of bytes a glyph is written as. -/
def size : Glyph → Nat
  | char c => c.utf8Size
  | stray _ => 1

/-- The character a glyph is read as: a stray byte reads as the replacement character. -/
def toChar : Glyph → Char
  | char c => c
  | stray _ => '\ufffd'

/-- Whether a glyph is a character that a predicate accepts. -/
def holds (p : Char → Bool) : Glyph → Bool
  | char c => p c
  | stray _ => false

/-- Whether a glyph is the given character. -/
def is (g : Glyph) (c : Char) : Bool :=
  g.holds (· == c)

end Glyph

/-- The text that spells a string. -/
def txt (s : String) : Text :=
  s.toList.map Glyph.char

namespace Text

/-! Reading bytes. -/

/-- Whether a byte can follow the first byte of an encoded character. -/
def isTail (b : UInt8) : Bool :=
  0x80 ≤ b && b ≤ 0xBF

/-- The payload of a byte that follows the first one. -/
def tailBits (b : UInt8) : Nat :=
  b.toNat % 0x40

/-- The character encoded at the start of a byte sequence, with the number of bytes it takes.
Encodings that are longer than needed, encode a surrogate or exceed the last code point count as
no character. -/
def leading? : List UInt8 → Option (Char × Nat)
  | [] => none
  | a :: rest =>
    if a < 0x80 then some (Char.ofNat a.toNat, 1)
    else match rest with
    | [] => none
    | b :: rest =>
      if !isTail b then none
      else if 0xC2 ≤ a && a ≤ 0xDF then
        some (Char.ofNat (a.toNat % 0x20 * 0x40 + tailBits b), 2)
      else match rest with
      | [] => none
      | c :: rest =>
        if !isTail c then none
        else if (0xE0 ≤ a && a ≤ 0xEF) && (a != 0xE0 || 0xA0 ≤ b) && (a != 0xED || b ≤ 0x9F) then
          some (Char.ofNat (a.toNat % 0x10 * 0x1000 + tailBits b * 0x40 + tailBits c), 3)
        else match rest with
        | [] => none
        | d :: _ =>
          if isTail d && (0xF0 ≤ a && a ≤ 0xF4) && (a != 0xF0 || 0x90 ≤ b) &&
              (a != 0xF4 || b ≤ 0x8F) then
            some (Char.ofNat
              (a.toNat % 0x08 * 0x40000 + tailBits b * 0x1000 + tailBits c * 0x40 + tailBits d), 4)
          else none

/-- Reads a byte sequence whose first `skip` bytes belong to the character read before. -/
def ofBytesFrom : (skip : Nat) → List UInt8 → Text
  | _, [] => []
  | skip + 1, _ :: rest => ofBytesFrom skip rest
  | 0, a :: rest =>
    match leading? (a :: rest) with
    | some (c, size) => .char c :: ofBytesFrom (size - 1) rest
    | none => .stray a :: ofBytesFrom 0 rest

/-- Reads a byte sequence. -/
def ofBytes (bytes : List UInt8) : Text :=
  ofBytesFrom 0 bytes

/-- Writes a text as bytes. -/
def toBytes (t : Text) : List UInt8 :=
  t.flatMap Glyph.bytes

/-- The number of bytes a text is written as. -/
def byteSize (t : Text) : Nat :=
  t.foldr (fun g n => g.size + n) 0

/-- The characters a text is read as. -/
def toChars (t : Text) : List Char :=
  t.map Glyph.toChar

/-- The text that spells a list of characters. -/
def ofChars (cs : List Char) : Text :=
  cs.map Glyph.char

/-- The string a text spells, if it has no stray bytes. -/
def toString? (t : Text) : Option String :=
  (t.mapM fun | Glyph.char c => some c | .stray _ => none).map String.ofList

/-- Reads runs of stray bytes again, as a text put together from pieces has to be: bytes that were
apart before may encode a character together. `pending` holds the run before the text, last byte
first. -/
def rejoinAfter (pending : List UInt8) : Text → Text
  | [] => ofBytes pending.reverse
  | .stray b :: rest => rejoinAfter (b :: pending) rest
  | .char c :: rest => ofBytes pending.reverse ++ .char c :: rejoinAfter [] rest

/-- The reading of the bytes of a text that was put together from pieces. -/
def rejoin (t : Text) : Text :=
  rejoinAfter [] t

/-! Small operations on text. -/

/-- The decimal digits of a number. -/
def decimal (n : Nat) : Text :=
  ofChars (Nat.toDigits 10 n)

/-- The decimal digits of an integer, with a minus sign when it is negative. -/
def integer : Int → Text
  | .ofNat n => decimal n
  | .negSucc n => .char '-' :: decimal (n + 1)

/-- The hexadecimal digits of a number in lower case, padded with zeros to a least width. -/
def hexadecimal (width n : Nat) : Text :=
  let digits := Nat.toDigits 16 n
  ofChars (List.replicate (width - digits.length) '0' ++ digits)

/-- The texts with a separator between each two. -/
def join (separator : Text) : List Text → Text
  | [] => []
  | [t] => t
  | t :: rest => t ++ separator ++ join separator rest

/-- The parts of a text between the occurrences of a character; there is one more part than there
are occurrences. -/
def splitOn (separator : Char) : Text → List Text
  | [] => [[]]
  | g :: rest =>
    match splitOn separator rest with
    | [] => [[g]]
    | part :: parts => if g.is separator then [] :: part :: parts else (g :: part) :: parts

/-- What follows a beginning of a text, if the text begins so. -/
def after? : (start : Text) → Text → Option Text
  | [], t => some t
  | _ :: _, [] => none
  | a :: start, b :: t => if a = b then after? start t else none

/-- Whether a text begins with another one. -/
def startsWith (t start : Text) : Bool :=
  (after? start t).isSome

/-- What precedes an ending of a text, if the text ends so. -/
def before? (ending t : Text) : Option Text :=
  (after? ending.reverse t.reverse).map List.reverse

/-- A text without its last glyphs that a predicate accepts. -/
def dropEndWhile (p : Glyph → Bool) (t : Text) : Text :=
  (t.reverse.dropWhile p).reverse

/-- A text repeated. -/
def times (n : Nat) (t : Text) : Text :=
  (List.replicate n t).flatten

/-- A text with blanks in front up to a least length. -/
def padStart (width : Nat) (t : Text) : Text :=
  List.replicate (width - t.length) (.char ' ') ++ t

/-- The first glyphs of a text up to a number of bytes; a glyph that reaches beyond is left out. -/
def takeBytes : (count : Nat) → Text → Text
  | _, [] => []
  | count, g :: rest => if g.size ≤ count then g :: takeBytes (count - g.size) rest else []

/-- Byte-wise order of two texts. -/
def lexLt (a b : Text) : Bool :=
  decide (a.toBytes < b.toBytes)

end Text

end CoScript
