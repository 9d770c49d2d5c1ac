import CoScript.Text.Glyph

/-!
What can be wrong with the pattern of a regular expression.
-/
namespace CoScript.Regex

/-- Why a pattern is refused. -/
inductive Fault where
  | unterminatedComment
  | numberOutOfRange
  | unexpectedParen
  | missingParen
  | missingBrace
  | repetitionBounds
  | nestedRepetition
  | missingRepetitionArgument
  | tooManyAlternatives
  /-- The characters after the parenthesis up to the one that was not expected. -/
  | unknownGroup (opening : List Char)
  | badGroupName
  | zeroGroup
  | undefinedGroup (number : Nat)
  | undefinedName (name : List Char)
  | capturingCondition
  | commentCondition
  | malformedReference (number : Nat)
  | undefinedReference (number : Nat)
  | trailingBackslash
  | incompleteProperty
  | unknownProperty (name : List Char)
  | tooFewHexDigits
  | hexTooLarge
  | malformedNameReference
  | classInRange (c : Char)
  | unterminatedSet
  | subtractionNotLast
  | reversedRange (first last : Nat)
  deriving DecidableEq, Repr

/-- How a message shows a code; one that is no character is shown as the replacement character. -/
def glyph (code : Nat) : Glyph :=
  .char (if code.isValidChar then .ofNat code else '\ufffd')

/-- What a message says about a fault. -/
def Fault.message : Fault → Text
  | unterminatedComment => txt "unterminated comment"
  | numberOutOfRange => txt "capture group number out of range"
  | unexpectedParen => txt "unexpected )"
  | missingParen => txt "missing closing )"
  | missingBrace => txt "missing closing \x7d"
  | repetitionBounds => txt "invalid repeat count"
  | nestedRepetition => txt "invalid nested repetition operator"
  | missingRepetitionArgument => txt "missing argument to repetition operator"
  | tooManyAlternatives => txt "too many | in (?()|)"
  | unknownGroup opening => txt "unrecognized grouping construct: (" ++ .ofChars opening
  | badGroupName => txt ("invalid group name: group names must begin with a word character and " ++
      "have a matching terminator")
  | zeroGroup => txt "capture number cannot be zero"
  | undefinedGroup n => txt "reference to undefined group number " ++ .decimal n
  | undefinedName name => txt "reference to undefined group name " ++ .ofChars name
  | capturingCondition => txt "alternation conditions do not capture and cannot be named"
  | commentCondition => txt "alternation conditions cannot be comments"
  | malformedReference n => txt "(?(" ++ .decimal n ++ txt ") ) malformed"
  | undefinedReference n => txt "(?(" ++ .decimal n ++ txt ") ) reference to undefined group"
  | trailingBackslash => txt "illegal \\ at end of pattern"
  | incompleteProperty => txt "incomplete \\p\x7bX\x7d character escape"
  | unknownProperty name =>
    txt "unknown unicode category, script, or property '" ++ .ofChars name ++ txt "'"
  | tooFewHexDigits => txt "insufficient hexadecimal digits"
  | hexTooLarge => txt "hex values may not be larger than 0x10FFFF"
  | malformedNameReference => txt "malformed \\k<...> named back reference"
  | classInRange c => txt "cannot include class \\" ++ .decimal c.toNat ++ txt " in character range"
  | unterminatedSet => txt "unterminated [] set"
  | subtractionNotLast => txt "a subtraction must be the last element in a character class"
  | reversedRange first last =>
    txt "[" ++ [glyph first] ++ txt "-" ++ [glyph last] ++ txt "] range in reverse order"

end CoScript.Regex
