import CoScript.Proofs.Parse.Side

/-!
The rules of the grammar, each from the side where its phrase starts to the side where it ends.
-/
namespace CoScript.Parse

open Side
open Token (Clears)

/-- Answers to goals, each from the side where its phrase starts to the side where it ends. -/
class Nested (self : Recur) : Prop where
  expression (level n : Nat) [NeZero level] : Nests (on n) (behind n) (self (.expression level))
  operators (level n : Nat) (left : Node) [NeZero level] :
    Nests (behind n) (behind n) (self (.operators level left))
  elements (n : Nat) : Nests (behind n) (behind n) (self .elements)
  arguments (n : Nat) : Nests (behind n) (behind n) (self .arguments)
  properties (n : Nat) : Nests (behind (n + 1)) (behind n) (self .properties)
  statement (n : Nat) : Nests (on n) (behind n) (self .statement)
  programItems (n : Nat) : Nests (on n) (on n) (self .programItems)
  blockItems (n : Nat) : Nests (on n) (on n) (self .blockItems)
  caseItems (n : Nat) : Nests (on n) (on n) (self .caseItems)
  cases (n : Nat) (seenDefault : Bool) : Nests (on (n + 1)) (behind n) (self (.cases seenDefault))
  declarators (n : Nat) : Nests (behind n) (behind n) (self .declarators)
  binding (n : Nat) : Nests (on n) (behind n) (self .binding)
  patternElements (n : Nat) : Nests (behind n) (behind n) (self .patternElements)
  patternProperties (n : Nat) : Nests (behind (n + 1)) (behind n) (self .patternProperties)
  parameters (n : Nat) : Nests (behind n) (behind n) (self .parameters)
  type (level n : Nat) : Nests (on n) (behind n) (self (.type level))
  typeOperators (level n : Nat) (left : Node) :
    Nests (behind n) (behind n) (self (.typeOperators level left))
  typeName (n : Nat) (left : Node) : Nests (behind n) (behind n) (self (.typeName left))
  typeArguments (n : Nat) : Nests (behind n) (behind n) (self .typeArguments)
  tupleElements (n : Nat) : Nests (behind n) (behind n) (self .tupleElements)
  members (n : Nat) : Nests (behind (n + 1)) (behind n) (self .members)
  bases (n : Nat) : Nests (behind n) (behind n) (self .bases)

attribute [instance] Nested.expression Nested.operators Nested.elements Nested.arguments
  Nested.properties Nested.statement Nested.programItems Nested.blockItems Nested.caseItems
  Nested.cases Nested.declarators Nested.binding Nested.patternElements Nested.patternProperties
  Nested.parameters Nested.type Nested.typeOperators Nested.typeName Nested.typeArguments
  Nested.tupleElements Nested.members Nested.bases

set_option synthInstance.maxSize 1000

section
variable {self : Recur} [∀ g, (self g).Moves] [Nested self] {n : Nat}

/-! Keys and bindings. -/

instance : Nests (on n) (behind n) (key self) := by
  unfold key
  infer_instance

instance : Nests (behind n) (behind n) ( annotation self) := by
  unfold annotation
  infer_instance

instance : Nests (behind n) (behind n) (initializer self) := by
  unfold initializer
  infer_instance

instance : Nests (on n) (behind n) (binding self) := by
  unfold binding
  refine Nests.current_bind (h := fun t => ?_)
  split
  · exact Nests.of_plain (by simp [*])
  · exact Nests.of_plain (by simp [*])
  · exact Nests.of_braceOpen ‹_›
  · exact Nests.of_rejects

instance : Nests (on n) (behind n) (bindingElement self) := by
  unfold bindingElement
  infer_instance

instance : Nests (behind n) (behind n) (patternElements self) := by
  unfold patternElements
  infer_instance

instance : Nests (on n) (behind n) (patternProperty self) := by
  unfold patternProperty
  have shorthand (t last : Token) (key : Node) (computed : Bool) : Nests (behind n) (behind n)
      (match shorthand? key computed, last.is .identifier with
      | some (nameToken, name), true => do
        let target := Node.identifier nameToken name
        if ← skip (.operator .assign) then
          let assign ← current
          advance
          let default ← self (.expression Level.comma)
          return .patternProperty t key computed (.assignmentPattern assign target default) true
        else return .patternProperty t key computed target true
      | _, _ => do
        let t ← peek
        reject t (.expected (.operator .colon) t) : Parse Node) := by
    split
    · infer_instance
    · exact Nests.of_rejects
  infer_instance

instance : Nests (behind (n + 1)) (behind n) (patternProperties self) := by
  unfold patternProperties
  infer_instance

instance : Nests (on n) (behind n) (parameter self) := by
  unfold parameter
  infer_instance

instance : Nests (behind n) (behind n) (parameters self) := by
  unfold parameters
  infer_instance

instance : Nests (behind n) (behind n) (parameterList self) := by
  unfold parameterList
  infer_instance

/-! Types. -/

instance (left : Node) : Nests (behind n) (behind n) (typeName self left) := by
  unfold typeName
  infer_instance

instance : Nests (behind n) (behind n) (typeArguments self) := by
  unfold typeArguments
  infer_instance

instance : Nests (behind n) (behind n) (typeReference self) := by
  unfold typeReference
  infer_instance

instance : Nests (behind n) (behind n) (parenthesizedType self) := by
  unfold parenthesizedType
  infer_instance

instance : Nests (behind n) (behind n) (tupleElements self) := by
  unfold tupleElements
  infer_instance

instance : Nests (on n) (behind n) (typeOperand self) := by
  unfold typeOperand
  refine Nests.current_bind (h := fun t => ?_)
  split
  all_goals first
    | exact Nests.of_rejects
    | exact Nests.of_braceOpen ‹_›
    | exact Nests.of_plain (by simp [*])

instance (level : Nat) : Nests (on n) (behind n) (typeExpression self level) := by
  unfold typeExpression
  infer_instance

instance (level : Nat) (left : Node) :
    Nests (behind n) (behind n) (typeOperators self level left) := by
  unfold typeOperators
  refine Nests.peek_bind (h := fun ahead => ?_)
  split
  · infer_instance
  · split
    case h_4 => infer_instance
    all_goals exact Nests.of_clear (by simp [*])

instance (t : Token) (readonly : Bool) : Nests (on n) (behind n) (keyedMember self t readonly) := by
  unfold keyedMember
  infer_instance

/-- An index signature after its name and colon. -/
def indexTypes (self : Recur) (t param : Token) (readonly : Bool) : Parse Node := do
  let keyType ← self (.type Level.lowest)
  expect (.operator .bracketClose)
  expect (.operator .colon)
  advance
  let valueType ← self (.type Level.lowest)
  return .indexSignature t readonly (.identifier param param.literal) keyType valueType

instance (t param : Token) (readonly : Bool) :
    Nests (on n) (behind n) (indexTypes self t param readonly) := by
  unfold indexTypes
  infer_instance

/-- The bracket, the name and the colon of an index signature are plain. -/
instance (t first : Token) (readonly : Bool) : Nests (meets first n) (behind n) (do
    let isIndex ← indexSignatureAhead
    if first.is (.operator .bracketOpen) && isIndex then indexSignature self t readonly
    else if first.is (.operator .parenOpen) || first.is (.keyword .new) then
      reject first (.unsupported .callSignature)
    else keyedMember self t readonly) where
  nests := by
    intro s s' r done genuine clean holds
    have seen : indexSignatureAhead s =
        (some (s.peek.is .identifier && s.advance.peek.is (.operator .colon)), s) := rfl
    rw [bind_eq seen] at done
    split at done
    · rename_i index
      simp only [Bool.and_eq_true] at index
      obtain ⟨bracket, name, colon⟩ := index
      change s.current = first at holds
      have plain : s.current.kind.isPlain := by rw [holds, eq_of_beq bracket]
      have read : indexTypes self t s.advance.current readonly s.advance.advance.advance = (r, s') := done
      have there := genuine.advance.advance
      obtain ⟨found, -, same⟩ := Nests.nests (i := on n) (o := behind n) read there.advance clean trivial
      refine ⟨found, trivial, ?_⟩
      change Token.nesting n (s.current :: s.upcoming) = _
      rw [Token.nesting_plain plain, genuine.nesting_plain (by rw [eq_of_beq name]),
        genuine.advance.nesting_plain (by rw [eq_of_beq colon]), there.nesting_on]
      exact same
    · have other : Nests (meets first n) (behind n)
          (if first.is (.operator .parenOpen) || first.is (.keyword .new) then
            reject first (.unsupported .callSignature)
          else keyedMember self t readonly : Parse Node) := inferInstance
      exact other.nests done genuine clean holds

instance : Nests (on n) (behind n) (memberSignature self) := by
  unfold memberSignature
  infer_instance

instance : Nests (behind (n + 1)) (behind n) (members self) := by
  unfold members
  infer_instance

instance : Nests (behind n) (behind n) (bases self) := by
  unfold bases
  infer_instance

/-! Functions. -/

instance : Nests (behind (n + 1)) (behind n) (block self) := by
  unfold block
  infer_instance

instance : Nests (behind (n + 1)) (behind n) (functionBody self) := by
  unfold functionBody
  infer_instance

instance (t : Token) (async : Bool) (name : Node) :
    Nests (behind n) (behind n) (functionRest self t async name) := by
  unfold functionRest
  infer_instance

instance (async : Bool) : Nests (behind n) (behind n) (functionExpression self async) := by
  unfold functionExpression
  infer_instance

instance (first : Token) (async : Bool) :
    Nests (behind n) (behind n) (functionDeclaration self first async) := by
  unfold functionDeclaration
  infer_instance

instance (t : Token) (async : Bool) (ps : List Node) (r : Node) :
    Nests (behind n) (behind n) (arrowBody self t async ps r) := by
  unfold arrowBody
  infer_instance

instance (async : Bool) : Nests (behind n) (behind n) (arrowFunction self async) := by
  unfold arrowFunction
  infer_instance

instance (async : Bool) : Nests (clear n) (behind n) (arrowOfName self async) := by
  unfold arrowOfName
  infer_instance

/-! Expressions. -/

instance : Nests (on n) (behind n) (listElement self) := by
  unfold listElement
  infer_instance

instance : Nests (behind n) (behind n) (elements self) := by
  unfold elements
  infer_instance

instance : Nests (behind n) (behind n) (arguments self) := by
  unfold arguments
  infer_instance

instance : Nests (behind n) (behind n) (argumentList self) := by
  unfold argumentList
  infer_instance

instance (t : Token) (async : Bool) (key : Node) (computed : Bool) :
    Nests (behind n) (behind n) (propertyRest self t async key computed) := by
  unfold propertyRest
  have shorthand (ahead : Token) : Nests (behind n) (behind n) (match shorthand? key computed with
      | some (nameToken, name) =>
        return .property t key computed (.identifier nameToken name) true false
      | none => reject ahead (.expected (.operator .colon) ahead) : Parse Node) := by
    split
    · infer_instance
    · exact Nests.of_rejects
  infer_instance

instance : Nests (on n) (behind n) (property self) := by
  unfold property
  infer_instance

instance : Nests (behind (n + 1)) (behind n) (properties self) := by
  unfold properties
  infer_instance

omit [∀ g, (self g).Moves] [Nested self] in
instance (t : Token) : Stays (regexLiteral t) := by
  unfold regexLiteral
  dsimp only
  split
  · infer_instance
  · split <;> infer_instance

/-- A substitution that is read without complaints gives an expression. -/
instance (t : Token) (source : Text) : Stays (substitution self t source) where
  stays := by
    intro s s' r done clean
    -- The source is read in a state of its own, of which only the complaints are kept.
    simp only [substitution] at done
    cases read : self (.expression Level.lowest) (.start source) with
    | mk e sub =>
        rw [read] at done
        dsimp only at done
        split at done
        · rename_i none
          cases done
          have unharmed : sub.complaints = [] := by
            split at none
            · obtain ⟨complaints, some, same⟩ := sub.complain_eq sub.peek (.unexpected sub.peek)
              rw [same] at none
              exact absurd none some
            · exact none
          have found := Nests.nests (i := on 0) (o := behind 0) read (.start source) unharmed trivial
          exact ⟨found.1, rfl⟩
        · cases done
          obtain ⟨complaints, some, same⟩ := s.complain_eq t (.inSubstitution _)
          rw [same] at clean
          exact absurd clean some

instance (t : Token) (sources : List Text) : Stays (substitutions self t sources) := by
  induction sources with
  | nil =>
      unfold substitutions
      infer_instance
  | cons source sources ih =>
      unfold substitutions
      infer_instance

instance (t : Token) : Stays (templateLiteral self t) := by
  unfold templateLiteral
  split <;> infer_instance

/-- The word `async` in front of a parameter, which an arrow follows. -/
instance (t : Token) : Nests (clear n) (behind n) (do
    let isArrow ← foresee do
      advance
      peekIs (.operator .arrow)
    if isArrow then
      advance
      arrowOfName self true
    else return .identifier t t.literal) where
  nests := by
    intro s s' r done genuine clean plain
    change s.peek.kind.isPlain at plain
    have seen : foresee (do advance; peekIs (.operator .arrow)) s =
        (some (s.advance.peek.is (.operator .arrow)), s) := by
      simp [foresee, advance, peekIs, bind, State.advance]
    rw [bind_eq seen] at done
    split at done
    · rename_i arrow
      have read : arrowOfName self true s.advance = (r, s') := done
      obtain ⟨found, -, same⟩ := Nests.nests (i := clear n) (o := behind n) read genuine.advance clean
        (by rw [Side.Holds, eq_of_beq arrow])
      exact ⟨found, trivial, (genuine.nesting_plain plain).trans same⟩
    · cases done
      exact ⟨rfl, trivial, rfl⟩

instance (t : Token) : Nests (behind n) (behind n) (nameOperand self t) := by
  unfold nameOperand
  infer_instance

instance : Nests (behind n) (behind n) (groupOperand self) := by
  unfold groupOperand
  infer_instance

instance (t : Token) : Nests (behind n) (behind n) (newOperand self t) := by
  unfold newOperand
  infer_instance

instance (t : Token) : Nests (behind n) (behind n) (unaryOperand self t) := by
  unfold unaryOperand
  infer_instance

instance (t : Token) : Nests (behind n) (behind n) (updateOperand self t) := by
  unfold updateOperand
  infer_instance

instance : Nests (on n) (behind n) (operand self) := by
  unfold operand
  refine Nests.current_bind (h := fun t => ?_)
  split
  all_goals first
    | exact Nests.of_rejects
    | exact Nests.of_braceOpen ‹_›
    | exact Nests.of_plain (by simp [*])

instance (level : Nat) [NeZero level] : Nests (on n) (behind n) (expression self level) := by
  unfold expression
  infer_instance

instance (t : Token) (left : Node) : Nests (behind n) (behind n) (assignmentRest self t left) := by
  unfold assignmentRest
  infer_instance

instance (t : Token) (c : Node) : Nests (behind n) (behind n) (conditionalRest self t c) := by
  unfold conditionalRest
  infer_instance

instance (t : Token) (first : Node) : Nests (behind n) (behind n) (sequenceRest self t first) := by
  unfold sequenceRest
  have longer (next : Node) : Nests (behind n) (behind n) (match first with
      | .sequence t expressions => return .sequence t (expressions ++ [next])
      | _ => return .sequence t [first, next] : Parse Node) := by
    split <;> infer_instance
  infer_instance

instance (t : Token) (left : Node) : Nests (behind n) (behind n) (assertionRest self t left) := by
  unfold assertionRest
  infer_instance

instance (t : Token) : Nests (behind n) (behind n) (propertyName t) := by
  unfold propertyName
  infer_instance

instance (t : Token) (whole : Node) (optional : Bool) :
    Nests (behind n) (behind n) (indexRest self t whole optional) := by
  unfold indexRest
  infer_instance

instance (t : Token) (whole : Node) : Nests (behind n) (behind n) (optionalRest self t whole) := by
  unfold optionalRest
  infer_instance

instance (left : Node) : Nests (behind n) (behind n) (operatorRest self left) := by
  unfold operatorRest
  refine Nests.bind (m := behind n) (r := fun t => ?_)
  dsimp only
  split <;> infer_instance

instance (level : Nat) (left : Node) [NeZero level] :
    Nests (behind n) (behind n) (operators self level left) := by
  unfold operators
  infer_instance

/-! Statements. -/

instance : Nests (on n) (on n) (item self) := by
  unfold item
  infer_instance

instance : Nests (on n) (on n) (programItems self) := by
  unfold programItems
  infer_instance

instance : Nests (on n) (on n) (blockItems self) := by
  unfold blockItems
  infer_instance

instance : Nests (on n) (behind n) (declarator self) := by
  unfold declarator
  infer_instance

instance : Nests (behind n) (behind n) (declarators self) := by
  unfold declarators
  infer_instance

instance : Nests (behind n) (behind n) (declaration self) := by
  unfold declaration
  infer_instance

instance : Nests (clear n) (behind n) (interfaceDeclaration self) := by
  unfold interfaceDeclaration
  infer_instance

instance : Nests (clear n) (behind n) (typeAlias self) := by
  unfold typeAlias
  infer_instance

instance : Nests (behind n) (behind n) (condition self) := by
  unfold condition
  infer_instance

instance : Nests (behind n) (behind n) (body self) := by
  unfold body
  infer_instance

instance : Nests (behind n) (behind n) (ifStatement self) := by
  unfold ifStatement
  infer_instance

instance (t : Token) (left : Node) (ofElements awaits : Bool) :
    Nests (clear n) (behind n) (loopOver self t left ofElements awaits) := by
  unfold loopOver
  split
  · exact Nests.of_rejects
  · infer_instance

instance (t : Token) (init : Node) : Nests (behind n) (behind n) (loopClauses self t init) := by
  unfold loopClauses
  refine Nests.bind (m := behind n) (r := fun ended => ?_)
  dsimp only
  split <;> infer_instance

instance : Nests (on n) (behind n) (loopInit self) := by
  unfold loopInit
  refine Nests.current_bind (h := fun t => ?_)
  split
  all_goals first
    | exact Nests.of_rejects
    | exact Nests.of_plain (by simp [*])
    | exact Nests.of_braceOpen ‹_›
    | infer_instance

instance : Nests (behind n) (behind n) (forStatement self) := by
  unfold forStatement
  infer_instance

instance : Nests (behind n) (behind n) (whileStatement self) := by
  unfold whileStatement
  infer_instance

instance : Nests (behind n) (behind n) (doWhile self) := by
  unfold doWhile
  infer_instance

instance : Nests (behind n) (behind n) (returnStatement self) := by
  unfold returnStatement
  infer_instance

omit [∀ g, (self g).Moves] [Nested self] in
instance : Nests (behind n) (behind n) jump := by
  unfold jump
  infer_instance

instance : Nests (behind n) (behind n) (throwStatement self) := by
  unfold throwStatement
  infer_instance

instance : Nests (behind n) (behind n) (blockAhead self) := by
  unfold blockAhead
  infer_instance

instance : Nests (behind n) (behind n) (catchClause self) := by
  unfold catchClause
  infer_instance

instance : Nests (behind n) (behind n) (tryStatement self) := by
  unfold tryStatement
  infer_instance

instance : Nests (on n) (on n) (caseItems self) := by
  unfold caseItems
  infer_instance

instance (seenDefault : Bool) (t : Token) : Nests (meets t n) (behind n) (caseTest self seenDefault t) := by
  unfold caseTest
  split
  all_goals first
    | exact Nests.of_rejects
    | exact Nests.of_plain (by simp [*])

instance (seenDefault : Bool) : Nests (on (n + 1)) (behind n) (cases self seenDefault) := by
  unfold cases
  infer_instance

instance : Nests (behind n) (behind n) (switchStatement self) := by
  unfold switchStatement
  infer_instance

instance : Nests (clear n) (behind n) (labeledStatement self) := by
  unfold labeledStatement
  infer_instance

instance : Nests (on n) (behind n) (expressionStatement self) := by
  unfold expressionStatement
  infer_instance

/-- A word is plain, so that it makes no difference whether it counts. -/
theorem wordStatement_nests {t : Token} (word : t.kind = .identifier) :
    Nests (meets t n) (behind n) (wordStatement self t) where
  nests := by
    intro s s' r done genuine clean holds
    change s.current = t at holds
    have plain : s.current.kind.isPlain := by rw [holds, word]
    have seen : peek s = (some s.peek, s) := rfl
    rw [wordStatement, bind_eq seen] at done
    have ahead {q : Parse Node} (h : Nests (faces s.peek n) (behind n) q) (done : q s = (r, s')) :
        r.isSome ∧ (behind n).Holds s' ∧ (meets t n).nesting s = (behind n).nesting s' := by
      obtain ⟨found, after, same⟩ := h.nests done genuine clean rfl
      exact ⟨found, after, (Token.nesting_plain plain).trans same⟩
    -- Labels and declarations go on behind the word, but an expression starts with it.
    split at done
    · exact ahead (.of_clear (Clears.plain ‹_›)) done
    split at done
    · exact ahead (.of_clear (Clears.plain ‹_›)) done
    split at done
    · exact ahead (.of_clear (Clears.plain ‹_›)) done
    split at done
    · exact ahead (.of_clear (Clears.plain ‹_›)) done
    split at done
    · exact ahead .of_rejects done
    · have other : Nests (on n) (behind n) (expressionStatement self) := inferInstance
      exact other.nests done genuine clean trivial

instance : Nests (on n) (behind n) (statement self) := by
  unfold statement
  refine Nests.current_bind (h := fun t => ?_)
  split
  all_goals first
    | exact Nests.of_rejects
    | exact wordStatement_nests ‹_›
    | exact Nests.of_plain (by simp [*])
    | exact Nests.of_braceOpen ‹_›
    | infer_instance

/-- The rules keep to the sides. -/
instance nested_step : Nested (step self) where
  expression level n _ := inferInstanceAs (Nests (on n) (behind n) (expression self level))
  operators level n left _ := inferInstanceAs (Nests (behind n) (behind n) (operators self level left))
  elements n := inferInstanceAs (Nests (behind n) (behind n) (elements self))
  arguments n := inferInstanceAs (Nests (behind n) (behind n) (arguments self))
  properties n := inferInstanceAs (Nests (behind (n + 1)) (behind n) (properties self))
  statement n := inferInstanceAs (Nests (on n) (behind n) (statement self))
  programItems n := inferInstanceAs (Nests (on n) (on n) (programItems self))
  blockItems n := inferInstanceAs (Nests (on n) (on n) (blockItems self))
  caseItems n := inferInstanceAs (Nests (on n) (on n) (caseItems self))
  cases n seenDefault := inferInstanceAs (Nests (on (n + 1)) (behind n) (cases self seenDefault))
  declarators n := inferInstanceAs (Nests (behind n) (behind n) (declarators self))
  binding n := inferInstanceAs (Nests (on n) (behind n) (binding self))
  patternElements n := inferInstanceAs (Nests (behind n) (behind n) (patternElements self))
  patternProperties n := inferInstanceAs (Nests (behind (n + 1)) (behind n) (patternProperties self))
  parameters n := inferInstanceAs (Nests (behind n) (behind n) (parameters self))
  type level n := inferInstanceAs (Nests (on n) (behind n) (typeExpression self level))
  typeOperators level n left := inferInstanceAs (Nests (behind n) (behind n) (typeOperators self level left))
  typeName n left := inferInstanceAs (Nests (behind n) (behind n) (typeName self left))
  typeArguments n := inferInstanceAs (Nests (behind n) (behind n) (typeArguments self))
  tupleElements n := inferInstanceAs (Nests (behind n) (behind n) (tupleElements self))
  members n := inferInstanceAs (Nests (behind (n + 1)) (behind n) (members self))
  bases n := inferInstanceAs (Nests (behind n) (behind n) (bases self))

end

/-- Braces match in every phrase, however deep the nesting may go. -/
instance run_nested (depth : Nat) : Nested (run depth) := by
  induction depth with
  | zero =>
      -- Without room for nesting there are only complaints.
      have fails (g : Goal) : Rejects (run 0 g) := {
        rejects := by
          rintro s _ _ ⟨⟩
          obtain ⟨complaints, some, same⟩ := s.complain_eq s.current (.unexpected s.current)
          rwa [same] }
      constructor <;> intros <;> exact Nests.of_rejects
  | succ depth ih => exact nested_step

/-- The braces of an expression that is read to the end of the input match, and it has no illegal token. -/
theorem nesting_scan {depth level : Nat} [NeZero level] {source : Text}
    (clean : (run depth (.expression level) (.start source)).2.complaints = [])
    (ended : (run depth (.expression level) (.start source)).2.peek.kind = .eof) :
    Token.nesting 0 (Token.scan source) = some 0 := by
  obtain ⟨tokens, ending, scanned, -⟩ := Token.scan_ends source
  obtain ⟨whole, -⟩ := State.start_eq scanned
  have read := Nests.nests (i := on 0) (o := behind 0) (p := run depth (.expression level)) rfl
    (.start source) clean trivial
  rw [scanned, ← whole]
  refine read.2.2.trans ?_
  have genuine := (run_moves depth (.expression level)).genuine rfl (.start source)
  generalize (run depth (.expression level) (.start source)).2 = s at ended genuine
  change Token.nesting 0 s.upcoming = some 0
  rw [State.peek] at ended
  have last := genuine.last
  cases ahead : s.upcoming with
  | nil => rfl
  | cons t rest =>
      rw [ahead] at ended last
      cases rest with
      | nil => exact Token.nesting_plain (by rw [show t.kind = .eof from ended])
      | cons u rest => exact absurd ended (last t (by simp))

end CoScript.Parse
