import CoScript.Text.Glyph

/-!
What can be wrong with a YAML text.
-/
namespace CoScript.Yaml

/-- Why a text is refused. -/
inductive Problem where
  -- Characters.
  | controlCharacter
  | badEncoding
  -- Tokens.
  | badTokenStart
  | missingColon
  | tooDeep
  | entryNotAllowed
  | keyNotAllowed
  | valueNotAllowed
  | unknownDirective
  | noDirectiveName
  | badDirectiveName
  | noCommentOrBreak
  | noVersionDot
  | longVersion
  | noVersion
  | noWhitespace
  | noWhitespaceOrBreak
  | badAnchorName
  | noTagClose
  | noTagMark
  | noTagUri
  | noUriOctet
  | badUriLead
  | badUriTail
  | zeroIndent
  | tabInBlock
  | documentInQuotes
  | endInQuotes
  | unknownEscape
  | badHexadecimal
  | badCodePoint
  | tabInPlain
  -- Structure.
  | noDocumentStart
  | duplicateVersion
  | wrongVersion
  | duplicateTag
  | undefinedHandle
  | noNode
  | noEntry
  | noKey
  | noSequenceEnd
  | noMappingEnd
  | unknownAnchor (name : Text)
  -- Meaning.
  | selfReference (name : Text)
  | badMerge
  | badTag (found : Text) (value : Text) (wanted : Text)
  | badBinary
  deriving DecidableEq, Repr

/-- What a message says about a problem. -/
def Problem.message : Problem → Text
  | controlCharacter => txt "control characters are not allowed"
  | badEncoding => txt "invalid leading UTF-8 octet"
  | badTokenStart => txt "found character that cannot start any token"
  | missingColon => txt "could not find expected ':'"
  | tooDeep => txt "exceeded max depth of 10000"
  | entryNotAllowed => txt "block sequence entries are not allowed in this context"
  | keyNotAllowed => txt "mapping keys are not allowed in this context"
  | valueNotAllowed => txt "mapping values are not allowed in this context"
  | unknownDirective => txt "found unknown directive name"
  | noDirectiveName => txt "could not find expected directive name"
  | badDirectiveName => txt "found unexpected non-alphabetical character"
  | noCommentOrBreak => txt "did not find expected comment or line break"
  | noVersionDot => txt "did not find expected digit or '.' character"
  | longVersion => txt "found extremely long version number"
  | noVersion => txt "did not find expected version number"
  | noWhitespace => txt "did not find expected whitespace"
  | noWhitespaceOrBreak => txt "did not find expected whitespace or line break"
  | badAnchorName => txt "did not find expected alphabetic or numeric character"
  | noTagClose => txt "did not find the expected '>'"
  | noTagMark => txt "did not find expected '!'"
  | noTagUri => txt "did not find expected tag URI"
  | noUriOctet => txt "did not find URI escaped octet"
  | badUriLead => txt "found an incorrect leading UTF-8 octet"
  | badUriTail => txt "found an incorrect trailing UTF-8 octet"
  | zeroIndent => txt "found an indentation indicator equal to 0"
  | tabInBlock => txt "found a tab character where an indentation space is expected"
  | documentInQuotes => txt "found unexpected document indicator"
  | endInQuotes => txt "found unexpected end of stream"
  | unknownEscape => txt "found unknown escape character"
  | badHexadecimal => txt "did not find expected hexdecimal number"
  | badCodePoint => txt "found invalid Unicode character escape code"
  | tabInPlain => txt "found a tab character that violates indentation"
  | noDocumentStart => txt "did not find expected <document start>"
  | duplicateVersion => txt "found duplicate %YAML directive"
  | wrongVersion => txt "found incompatible YAML document"
  | duplicateTag => txt "found duplicate %TAG directive"
  | undefinedHandle => txt "found undefined tag handle"
  | noNode => txt "did not find expected node content"
  | noEntry => txt "did not find expected '-' indicator"
  | noKey => txt "did not find expected key"
  | noSequenceEnd => txt "did not find expected ',' or ']'"
  | noMappingEnd => txt "did not find expected ',' or '\x7d'"
  | unknownAnchor name => txt "unknown anchor '" ++ name ++ txt "' referenced"
  | selfReference name => txt "anchor '" ++ name ++ txt "' value contains itself"
  | badMerge => txt "map merge requires map or sequence of maps as the value"
  | badTag found value wanted =>
    txt "cannot decode " ++ found ++ txt " `" ++ value ++ txt "` as a " ++ wanted
  | badBinary => txt "!!binary value contains invalid base64 data"

/-- A problem and the line it is reported at; line zero is not mentioned. -/
structure Fault where
  problem : Problem
  line : Nat := 0
  deriving DecidableEq, Repr

/-- What a message says about a fault. -/
def Fault.message (f : Fault) : Text :=
  txt "yaml: " ++ (if f.line = 0 then [] else txt "line " ++ .decimal f.line ++ txt ": ") ++
    f.problem.message

/-- A place in a text, counted from zero. -/
structure Mark where
  index : Nat := 0
  line : Nat := 0
  column : Nat := 0
  deriving DecidableEq, Repr

/-- The fault of a token that begins at a place and goes wrong at another one. The first of the two that
is not on the first line is reported. -/
def Fault.ofToken (context place : Mark) (problem : Problem) : Fault :=
  let shown := if context.line = 0 then place.line else context.line
  { problem := problem, line := if shown = 0 then 0 else shown + 1 }

/-- The fault of a construct that begins at a place and goes wrong at another one. The first of the two
that is not on the first line is reported, by the number of the line before it. -/
def Fault.ofNode (context place : Mark) (problem : Problem) : Fault :=
  { problem := problem, line := if context.line = 0 then place.line else context.line }

end CoScript.Yaml
