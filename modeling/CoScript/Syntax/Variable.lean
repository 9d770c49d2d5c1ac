import CoScript.Syntax.Node

/-!
Variables that a script declares: each property of an interface is one, and its type says which values
it takes.
-/
namespace CoScript

/-- A variable and the tags of the values it takes. -/
structure Variable where
  name : Text
  types : List Text
  deriving DecidableEq, Repr

namespace Node

/-- The tag of types that say nothing. -/
def anyTag : Text := txt "any"

mutual

/-- The tags of the values of a type, in order. A union has the tags of all its members, repeated ones
included, and a type without a tag of its own admits anything. -/
def typeTags : Node → List Text
  | keywordType _ name =>
    if ["number", "boolean", "string", "void"].any fun s => txt s = name then [name] else [anyTag]
  | arrayType _ _ => [txt "array"]
  | parenthesizedType _ type => type.typeTags
  | unionType _ types => if types.isEmpty then [anyTag] else typeTagsAll types
  | typeReference _ (identifier _ name) _ => [name]
  | _ => [anyTag]

/-- The tags of several types in turn. -/
def typeTagsAll : List Node → List Text
  | [] => []
  | type :: types => type.typeTags ++ typeTagsAll types

end

/-- The variable that a member of an interface declares. A key in brackets that is a name is known only
when the script runs, and declares none. -/
def declared? : Node → Option Variable
  | propertySignature _ (identifier _ name) false _ _ type => some ⟨name, type.typeTags⟩
  | propertySignature _ (string _ value _) _ _ _ type => some ⟨value, type.typeTags⟩
  | _ => none

/-- The variables that an interface declares. -/
def interfaceVariables : Node → List Variable
  | interfaceDeclaration _ _ _ members => members.filterMap declared?
  | _ => []

/-- The variables that the interfaces at the top level of a script declare. -/
def declaredVariables : Node → List Variable
  | program body => body.flatMap interfaceVariables
  | _ => []

end Node

end CoScript
