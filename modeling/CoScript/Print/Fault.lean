import CoScript.Diagnostic
import CoScript.Syntax.View

/-!
Why a tree cannot be printed. A script that was read can always be printed; trees that were put
together by hand may lack parts or have the wrong node in a place.
-/
namespace CoScript.Print

/-- Parts that have to be there. -/
inductive Role where
  | statement | block | function | declarator | parameter | expression | identifier
  | property | binding | bindingProperty | type | typeName | member
  deriving DecidableEq, Repr

/-- What messages call a part. -/
def Role.name : Role → String
  | bindingProperty => "binding property"
  | typeName => "type name"
  | statement => "statement"
  | block => "block"
  | function => "function"
  | declarator => "declarator"
  | parameter => "parameter"
  | expression => "expression"
  | identifier => "identifier"
  | property => "property"
  | binding => "binding"
  | type => "type"
  | member => "member"

/-- Why a tree cannot be printed. -/
inductive Fault where
  | missing (role : Role)
  | noProgram
  | noNode
  | noTemplate
  | noArrowBody
  | noMethod
  | badLoopHead (found : Node)
  | badTypeName (found : Node)

/-- What messages call the sort of a node. -/
def sortName : Node → Text
  | .absent => txt "<nil>"
  | n => txt "*parser." ++ txt n.title

/-- What a message says about a fault. -/
def Fault.message : Fault → Text
  | missing role => txt "missing " ++ txt role.name
  | noProgram => txt "cannot emit a nil program"
  | noNode => txt "cannot emit node of type " ++ sortName .absent
  | noTemplate => txt "missing template"
  | noArrowBody => txt "arrow function has no body"
  | noMethod => txt "method property without a function value"
  | badLoopHead n => txt "cannot emit loop head of type " ++ sortName n
  | badTypeName n => txt "cannot emit type name of type " ++ sortName n

/-- A fault and the token it is reported at. -/
structure Failure where
  fault : Fault
  token : Token := {}

/-- The diagnostic of a failure. A token that stands nowhere gives no position. -/
def Failure.diagnostic (f : Failure) (source : Option Source) : Diagnostic where
  stage := .printing
  position := if f.token.line = 0 then {} else
    { line := f.token.line, column := f.token.column, start := f.token.start, stop := f.token.stop
      source := source }
  message := f.fault.message

end CoScript.Print
