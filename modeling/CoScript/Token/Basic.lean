import CoScript.Token.Keyword
import CoScript.Token.Operator

/-!
Tokens: what they are, what they spell and where they stand. Lines and columns count from one and
byte offsets from zero; a token without a line was made up and stands nowhere.
-/
namespace CoScript

namespace Token

/-- What a token is. -/
inductive Kind where
  /-- Text that starts no token, or a token that does not end as it should. -/
  | illegal
  /-- The end of the input. -/
  | eof
  | identifier
  /-- A name after a number sign. -/
  | privateName
  | number
  | string
  | template
  | regex
  | keyword (k : Keyword)
  | operator (o : Operator)
  deriving DecidableEq, Repr

instance : Coe Keyword Kind := ⟨.keyword⟩

instance : Coe Operator Kind := ⟨.operator⟩

/-- The name of a kind in token listings. -/
def Kind.name : Kind → String
  | illegal => "ILLEGAL"
  | eof => "EOF"
  | identifier => "IDENT"
  | privateName => "PRIVATE_IDENT"
  | number => "NUMBER"
  | string => "STRING"
  | template => "TEMPLATE"
  | regex => "REGEX_LITERAL"
  | keyword k => k.name
  | operator o => o.spelling

/-- The kind of a word: a reserved word, or an identifier. -/
def Kind.ofWord (word : Text) : Kind :=
  match Keyword.ofText? word with
  | some k => .keyword k
  | none => .identifier

end Token

/-- A token. -/
structure Token where
  kind : Token.Kind := .illegal
  /-- The meaning of the token: the characters of a string, the body of a template, the composed
  spelling of a name, the complaint about an illegal token; otherwise how it is written. -/
  literal : Text := []
  /-- How the token is written. -/
  raw : Text := []
  line : Nat := 0
  column : Nat := 0
  /-- Byte offset of the first byte. -/
  start : Nat := 0
  /-- Byte offset after the last byte. -/
  stop : Nat := 0
  /-- Whether a line break separates the token from the one before it. -/
  newlineBefore : Bool := false
  deriving DecidableEq, Repr, Inhabited

namespace Token

/-- Whether a token is of a kind. -/
def is (t : Token) (k : Kind) : Bool :=
  t.kind == k

/-- Whether a token is the identifier that is spelled so. -/
def isWord (t : Token) (word : String) : Bool :=
  t.kind == .identifier && t.literal == txt word

/-- Whether a token can name a property: an identifier or a reserved word. -/
def namesProperty (t : Token) : Bool :=
  match t.kind with
  | .identifier | .keyword _ => true
  | _ => false

/-- How a message refers to a token. -/
def describe (t : Token) : Text :=
  match t.kind with
  | .eof => txt "end of input"
  | .illegal => t.literal
  | _ => txt "'" ++ t.literal ++ txt "'"

end Token

end CoScript
