import CoScript.Regex.Fault
import CoScript.Token.Basic

/-!
What can be wrong with a script, and how a message says it.
-/
namespace CoScript.Parse

/-- Parts of the language that scripts may not use. -/
inductive Feature where
  | generator
  | genericFunction
  | genericInterface
  | genericAlias
  | genericMethod
  | newTarget
  | thisParameter
  | typeofType
  | indexedType
  | callSignature
  deriving DecidableEq, Repr

/-- What a message calls a part of the language. -/
def Feature.subject : Feature → Text
  | generator => txt "generator functions are"
  | genericFunction => txt "generic functions are"
  | genericInterface => txt "generic interfaces are"
  | genericAlias => txt "generic type aliases are"
  | genericMethod => txt "generic methods are"
  | newTarget => txt "new.target is"
  | thisParameter => txt "'this' parameters are"
  | typeofType => txt "typeof types are"
  | indexedType => txt "indexed access types are"
  | callSignature => txt "call and construct signatures are"

/-- Why a script is refused. -/
inductive Fault where
  | tooMany
  | illegal (token : Token)
  | unexpected (found : Token)
  | expected (wanted : Token.Kind) (found : Token)
  | expectedSemicolon (found : Token)
  | expectedBinding (found : Token)
  | expectedType (found : Token)
  | expectedProperty (found : Token)
  | expectedPropertyAfter (operator : Token) (found : Token)
  | expectedCase (found : Token)
  | expectedMemberEnd (found : Token)
  | unclosedBrace
  | unsupportedToken (token : Token)
  | unsupportedAccessor (word : Token)
  | unsupported (feature : Feature)
  | badOperand (operator : Token)
  | badTarget
  | badLoopDeclaration
  | badLoopTarget
  | awaitWithoutOf
  | lineBreakAfterThrow
  | tryAlone
  | secondDefault
  | badRegex (literal pattern : Text) (fault : Regex.Fault)
  | malformedTemplate
  | inSubstitution (fault : Fault)
  deriving DecidableEq, Repr

/-- The number of faults after which no more are reported. -/
def faultLimit : Nat := 100

/-- What a message calls a kind of token that was expected. -/
def shownKind : Token.Kind → Text
  | .identifier => txt "identifier"
  | .keyword k => txt k.spelling
  | k => txt k.name

/-- What a message says about a fault. -/
def Fault.message : Fault → Text
  | tooMany => txt "too many errors (limit: " ++ .decimal faultLimit ++ txt "), stopping parser"
  | illegal t => t.literal
  | unexpected t => txt "unexpected " ++ t.describe
  | expected wanted t =>
    txt "expected '" ++ shownKind wanted ++ txt "', got " ++ t.describe ++ txt " instead"
  | expectedSemicolon t => txt "expected ';' but found " ++ t.describe
  | expectedBinding t => txt "expected binding name, got " ++ t.describe
  | expectedType t => txt "expected type, got " ++ t.describe
  | expectedProperty t => txt "expected property name, got " ++ t.describe
  | expectedPropertyAfter o t =>
    txt "expected property name after '" ++ o.literal ++ txt "', got " ++ t.describe
  | expectedCase t => txt "expected 'case' or 'default', got " ++ t.describe
  | expectedMemberEnd t => txt "expected ';' or '\x7d' after member, got " ++ t.describe
  | unclosedBrace => txt "expected '\x7d' before end of input"
  | unsupportedToken t => t.describe ++ txt " is not supported in scripts"
  | unsupportedAccessor t =>
    txt "'" ++ t.literal ++ txt "' accessors are not supported in scripts"
  | unsupported feature => feature.subject ++ txt " not supported in scripts"
  | badOperand o => txt "invalid operand for " ++ o.literal
  | badTarget => txt "invalid assignment target"
  | badLoopDeclaration =>
    txt "the left side of a for-in/of loop must declare exactly one uninitialized binding"
  | badLoopTarget => txt "invalid left side in for-in/of loop"
  | awaitWithoutOf => txt "for await requires an 'of' clause"
  | lineBreakAfterThrow => txt "line break is not allowed after 'throw'"
  | tryAlone => txt "missing catch or finally after try"
  | secondDefault => txt "more than one default clause in switch statement"
  | badRegex literal pattern fault =>
    txt "invalid regular expression " ++ literal ++ txt ": error parsing regexp: " ++
      fault.message ++ txt " in `" ++ pattern ++ txt "`"
  | malformedTemplate => txt "malformed template literal"
  | inSubstitution fault => txt "in template substitution: " ++ fault.message

end CoScript.Parse
