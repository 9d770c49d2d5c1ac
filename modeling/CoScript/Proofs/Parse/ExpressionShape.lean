import CoScript.Parse.Expression
import CoScript.Proofs.Parse.TypeShape

/-!
Functions and expressions that the parser gives are well shaped. A substitution of a template is read
by a parser of its own, but from the same answerer, so what holds of expressions holds there too.
-/
namespace CoScript.Parse

open Node (AllFit)

section
variable {self : Recur} (h : Answers self)
include h

/-! Functions. -/

theorem block_fits : (block self).Yields (·.FitsIn .block) := by
  unfold block
  refine .skip fun t => .skip fun _ => .bind h.blockItems fun items hi => .skip fun last => ?_
  split
  · refine .pure (.intro rfl ?_)
    simpa [Node.ChildrenFit, Node.positions] using hi
  · exact .reject _ _

theorem functionBody_fits : (functionBody self).Yields (·.FitsIn .block) :=
  .allowIn (block_fits h)

theorem functionRest_fits (t : Token) (async : Bool) {name : Node}
    (hn : name.FitsIn (.optional .name)) :
    (functionRest self t async name).Yields (·.FitsIn .function) := by
  unfold functionRest
  refine .bind (parameterList_fits h) fun ps hps => .bind (annotation_fits h) fun r hr => ?_
  refine .skip fun _ => .bind (functionBody_fits h) fun b hb => .pure (.intro rfl ?_)
  simpa [Node.ChildrenFit, Node.positions] using ⟨hn, hps, hr, hb⟩

theorem functionExpression_fits (async : Bool) :
    (functionExpression self async).Yields (·.FitsIn .function) := by
  unfold functionExpression
  refine .skip fun t => .skip fun ahead => .guarded (.skip fun named => ?_)
  have rest (name : Node) (hn : name.FitsIn (.optional .name)) :
      Yields (do expect (.operator .parenOpen); functionRest self t async name)
        (·.FitsIn .function) :=
    .skip fun _ => functionRest_fits h _ _ hn
  dsimp only
  split
  · exact .skip fun n => .bind (.pure (Node.FitsIn.intro rfl (.leaf rfl)).optional) rest
  · exact .bind (.pure (Node.absent_fitsIn _)) rest

theorem functionDeclaration_fits (first : Token) (async : Bool) :
    (functionDeclaration self first async).Yields (·.FitsIn .statement) := by
  unfold functionDeclaration
  refine .skip fun t => .skip fun ahead => .guarded (.skip fun _ => .skip fun n => ?_)
  refine .skip fun ahead => .guarded (.skip fun _ => ?_)
  have name : (Node.identifier n n.literal).FitsIn .name := .intro rfl (.leaf rfl)
  refine .bind (functionRest_fits h _ _ name.optional) fun f hf => .pure (.intro rfl ?_)
  simpa [Node.ChildrenFit, Node.positions] using hf

theorem arrowBody_fits (t : Token) (async : Bool) {ps : List Node} {r : Node}
    (hps : AllFit .parameter ps) (hr : r.FitsIn (.optional .type)) :
    (arrowBody self t async ps r).Yields (·.FitsIn .expression) := by
  unfold arrowBody
  refine .skip fun braced => ?_
  split
  · refine .bind (functionBody_fits h) fun b hb => .pure (.intro rfl ?_)
    simpa [Node.ChildrenFit, Node.positions] using ⟨hps, hr, hb.arrowBody⟩
  · refine .skip fun _ => .bind (h.expression _) fun b hb => .pure (.intro rfl ?_)
    simpa [Node.ChildrenFit, Node.positions] using ⟨hps, hr, hb.arrowValue⟩

theorem arrowFunction_fits (async : Bool) :
    (arrowFunction self async).Yields (·.FitsIn .expression) := by
  unfold arrowFunction
  refine .skip fun t => .bind (parameterList_fits h) fun ps hps => ?_
  exact .bind (annotation_fits h) fun r hr => .skip fun _ => arrowBody_fits h _ _ hps hr

theorem arrowOfName_fits (async : Bool) :
    (arrowOfName self async).Yields (·.FitsIn .expression) := by
  unfold arrowOfName
  refine .skip fun t => .skip fun _ => ?_
  have target : (Node.identifier t t.literal).FitsIn .binding := .intro rfl (.leaf rfl)
  have parameter : (Node.parameter t (.identifier t t.literal) false false .absent .absent).FitsIn
      .parameter := by
    refine .intro rfl ?_
    simpa [Node.ChildrenFit, Node.positions] using
      ⟨target, Node.absent_fitsIn _, Node.absent_fitsIn _⟩
  exact arrowBody_fits h _ _ (.singleton parameter) (Node.absent_fitsIn _)

/-! Lists. -/

theorem listElement_fits : (listElement self).Yields (·.FitsIn .expression) := by
  unfold listElement
  refine .skip fun t => ?_
  split
  · refine .skip fun _ => .bind (h.expression _) fun e he => .pure (.intro rfl ?_)
    simpa [Node.ChildrenFit, Node.positions] using he
  · exact h.expression _

theorem elements_fits : (elements self).Yields (AllFit (.optional .expression)) := by
  unfold elements
  refine .skip fun closes => ?_
  split
  · exact .pure (Node.allFit_nil _)
  refine .skip fun hole => ?_
  split
  · exact .bind h.elements fun es hes => .pure (.cons (Node.absent_fitsIn _) hes)
  refine .skip fun _ => .bind (listElement_fits h) fun e he => .skip fun comma => ?_
  split
  · exact .bind h.elements fun es hes => .pure (.cons he.optional hes)
  · exact .skip fun _ => .pure (.singleton he.optional)

theorem arguments_fits : (arguments self).Yields (AllFit .expression) := by
  unfold arguments
  refine .skip fun _ => .bind (listElement_fits h) fun first hf => .skip fun comma => ?_
  split
  · refine .skip fun closes => ?_
    split
    · exact .pure (.singleton hf)
    · exact .bind h.arguments fun es hes => .pure (.cons hf hes)
  · exact .pure (.singleton hf)

theorem argumentList_fits : (argumentList self).Yields (AllFit .expression) := by
  unfold argumentList
  refine .allowIn (.skip fun closes => ?_)
  split
  · exact .pure (Node.allFit_nil _)
  · exact .bind h.arguments fun es hes => .skip fun _ => .pure hes

/-! Objects. -/

theorem propertyRest_fits (t : Token) (async : Bool) {k : Node} {computed : Bool}
    (hk : k.FitsIn (.key computed)) :
    (propertyRest self t async k computed).Yields (·.FitsIn .entry) := by
  unfold propertyRest
  refine .skip fun method => ?_
  split
  · refine .bind (functionRest_fits h _ _ (Node.absent_fitsIn _)) fun f hf => ?_
    refine .pure (.intro rfl ?_)
    simpa [Node.ChildrenFit, Node.positions] using ⟨hk.optional, hf⟩
  refine .skip fun ahead => .guarded (.skip fun colon => ?_)
  split
  · refine .skip fun _ => .bind (h.expression _) fun e he => .pure (.intro rfl ?_)
    simpa [Node.ChildrenFit, Node.positions] using ⟨hk.optional, he⟩
  split
  · rename_i nameToken name _
    have value : (Node.identifier nameToken name).FitsIn .expression := .intro rfl (.leaf rfl)
    refine .pure (.intro rfl ?_)
    simpa [Node.ChildrenFit, Node.positions] using ⟨hk.optional, value⟩
  · exact .reject _ _

theorem property_fits : (property self).Yields (·.FitsIn .entry) := by
  unfold property
  refine .skip fun t => ?_
  split
  · refine .skip fun _ => .bind (h.expression _) fun e he => .pure (.intro rfl ?_)
    have spread : (Node.spread t e).FitsIn .expression := by
      refine .intro rfl ?_
      simpa [Node.ChildrenFit, Node.positions] using he
    simpa [Node.ChildrenFit, Node.positions] using ⟨Node.absent_fitsIn _, spread⟩
  refine .skip fun ahead => .guarded (.moved ?_)
  exact .bind (key_fits h) fun k hk => propertyRest_fits h _ _ hk

theorem properties_fits : (properties self).Yields (AllFit .entry) := by
  unfold properties
  refine .skip fun closes => ?_
  split
  · exact .pure (Node.allFit_nil _)
  refine .skip fun _ => .bind (property_fits h) fun first hf => .skip fun last => .moved ?_
  exact .bind h.properties fun ps hps => .pure (.cons hf hps)

/-! Literals. -/

omit h in
theorem regexLiteral_fits (t : Token) : (regexLiteral t).Yields (·.FitsIn .expression) := by
  unfold regexLiteral
  dsimp only
  split
  · exact .pure (.intro rfl (.leaf rfl))
  split
  · exact .pure (.intro rfl (.leaf rfl))
  · exact .reject _ _

theorem substitution_fits (t : Token) (source : Text) :
    (substitution self t source).Yields (·.FitsIn .expression) := by
  intro s a s' ha
  unfold substitution at ha
  dsimp only at ha
  split at ha
  · obtain ⟨given, -⟩ := Prod.mk.inj ha
    exact h.expression _ (.start source) a _ (Prod.ext given rfl)
  · cases ha

theorem substitutions_fits (t : Token) (sources : List Text) :
    (substitutions self t sources).Yields (AllFit .expression) := by
  induction sources with
  | nil => exact .pure (Node.allFit_nil _)
  | cons source sources ih =>
      unfold substitutions
      exact .bind (substitution_fits h t source) fun e he =>
        .bind ih fun es hes => .pure (.cons he hes)

theorem templateLiteral_fits (t : Token) : (templateLiteral self t).Yields (·.FitsIn .template) := by
  unfold templateLiteral
  split
  · exact .reject _ _
  · refine .bind (substitutions_fits h _ _) fun es hes => .pure (.intro rfl ?_)
    simpa [Node.ChildrenFit, Node.positions] using hes

/-! Operands. -/

theorem nameOperand_fits (t : Token) : (nameOperand self t).Yields (·.FitsIn .expression) := by
  have name : (Node.identifier t t.literal).FitsIn .expression := .intro rfl (.leaf rfl)
  unfold nameOperand
  refine .skip fun ahead => ?_
  dsimp only
  split
  · exact arrowOfName_fits h _
  split
  · refine .skip fun isFunction => ?_
    split
    · exact (functionExpression_fits h _).mono fun _ hf => hf.functionValue
    split
    · refine .skip fun isArrow => ?_
      split
      · exact .skip fun _ => arrowOfName_fits h _
      · exact .pure name
    split
    · refine .skip fun isArrow => ?_
      split
      · exact .skip fun _ => arrowFunction_fits h _
      · exact .pure name
    · exact .pure name
  · exact .pure name

theorem groupOperand_fits : (groupOperand self).Yields (·.FitsIn .expression) := by
  unfold groupOperand
  refine .skip fun isArrow => ?_
  split
  · exact arrowFunction_fits h _
  · exact .allowIn (.skip fun _ => .bind (h.expression _) fun e he => .skip fun _ => .pure he)

theorem newOperand_fits (t : Token) : (newOperand self t).Yields (·.FitsIn .expression) := by
  unfold newOperand
  refine .skip fun ahead => .guarded (.skip fun _ => .bind (h.expression _) fun f hf => ?_)
  refine .skip fun called => ?_
  split
  · refine .bind (argumentList_fits h) fun args ha => .pure (.intro rfl ?_)
    simpa [Node.ChildrenFit, Node.positions] using ⟨hf, ha⟩
  · refine .pure (.intro rfl ?_)
    simpa [Node.ChildrenFit, Node.positions] using ⟨hf, Node.allFit_nil _⟩

theorem unaryOperand_fits (t : Token) : (unaryOperand self t).Yields (·.FitsIn .expression) := by
  unfold unaryOperand
  refine .skip fun _ => .bind (h.expression _) fun e he => .pure (.intro rfl ?_)
  simpa [Node.ChildrenFit, Node.positions] using he

theorem updateOperand_fits (t : Token) : (updateOperand self t).Yields (·.FitsIn .expression) := by
  unfold updateOperand
  refine .skip fun _ => .bind (h.expression _) fun e he => .guarded (.pure (.intro rfl ?_))
  simpa [Node.ChildrenFit, Node.positions] using he

theorem operand_fits : (operand self).Yields (·.FitsIn .expression) := by
  unfold operand
  refine .skip fun t => ?_
  split
  · exact nameOperand_fits h _
  · exact .pure (.intro rfl (.leaf rfl))
  · exact .pure (.intro rfl (.leaf rfl))
  · exact (templateLiteral_fits h _).mono fun _ ht => ht.templateValue
  · exact regexLiteral_fits _
  · exact .pure (.intro rfl (.leaf rfl))
  · exact .pure (.intro rfl (.leaf rfl))
  · exact .pure (.intro rfl (.leaf rfl))
  · exact .pure (.intro rfl (.leaf rfl))
  · exact groupOperand_fits h
  · refine .bind (.allowIn h.elements) fun es hes => .pure (.intro rfl ?_)
    simpa [Node.ChildrenFit, Node.positions] using hes
  · refine .bind (.allowIn h.properties) fun ps hps => .pure (.intro rfl ?_)
    simpa [Node.ChildrenFit, Node.positions] using hps
  · exact (functionExpression_fits h _).mono fun _ hf => hf.functionValue
  · exact newOperand_fits h _
  · refine .skip fun _ => .bind (h.expression _) fun e he => .pure (.intro rfl ?_)
    simpa [Node.ChildrenFit, Node.positions] using he
  all_goals first
    | exact unaryOperand_fits h _
    | exact updateOperand_fits h _
    | exact .reject _ _

theorem expression_fits (level : Nat) : (expression self level).Yields (·.FitsIn .expression) := by
  unfold expression
  exact .bind (operand_fits h) fun _ hl => h.operators _ hl

/-! Operators after an operand. -/

section
variable {left : Node} (hl : left.FitsIn .expression)
include hl

theorem assignmentRest_fits (t : Token) :
    (assignmentRest self t left).Yields (·.FitsIn .expression) := by
  unfold assignmentRest
  refine .guarded (.skip fun _ => .bind (h.expression _) fun e he => .pure (.intro rfl ?_))
  simpa [Node.ChildrenFit, Node.positions] using ⟨hl, he⟩

theorem conditionalRest_fits (t : Token) :
    (conditionalRest self t left).Yields (·.FitsIn .expression) := by
  unfold conditionalRest
  refine .bind (.allowIn (.skip fun _ => h.expression _)) fun a ha => .skip fun _ => ?_
  refine .skip fun _ => .bind (h.expression _) fun b hb => .pure (.intro rfl ?_)
  simpa [Node.ChildrenFit, Node.positions] using ⟨hl, ha, hb⟩

theorem sequenceRest_fits (t : Token) :
    (sequenceRest self t left).Yields (·.FitsIn .expression) := by
  unfold sequenceRest
  refine .skip fun _ => .bind (h.expression _) fun e he => ?_
  split
  · rename_i expressions
    have hes : AllFit .expression expressions := by
      simpa [Node.ChildrenFit, Node.positions] using hl.childrenFit
    refine .pure (.intro rfl ?_)
    simpa [Node.ChildrenFit, Node.positions] using hes.append (.singleton he)
  · refine .pure (.intro rfl ?_)
    simpa [Node.ChildrenFit, Node.positions] using Node.AllFit.cons hl (.singleton he)

theorem assertionRest_fits (t : Token) :
    (assertionRest self t left).Yields (·.FitsIn .expression) := by
  unfold assertionRest
  refine .skip fun _ => .skip fun c => ?_
  split
  · have name : (Node.identifier c (txt "const")).FitsIn .typeName := .intro rfl (.leaf rfl)
    have type : (Node.typeReference c (.identifier c (txt "const")) []).FitsIn .type := by
      refine .intro rfl ?_
      simpa [Node.ChildrenFit, Node.positions] using ⟨name, Node.allFit_nil _⟩
    refine .pure (.intro rfl ?_)
    simpa [Node.ChildrenFit, Node.positions] using ⟨hl, type⟩
  · refine .bind (h.type _) fun type hT => .pure (.intro rfl ?_)
    simpa [Node.ChildrenFit, Node.positions] using ⟨hl, hT⟩

omit h hl in
theorem propertyName_fits (t : Token) : (propertyName t).Yields (·.FitsIn (.key false)) := by
  unfold propertyName
  refine .skip fun ahead => ?_
  split
  · exact .skip fun _ => .pure (.intro rfl (.leaf rfl))
  split
  · exact .skip fun _ => .pure (.intro rfl (.leaf rfl))
  · exact .reject _ _

theorem indexRest_fits (t : Token) (optional : Bool) :
    (indexRest self t left optional).Yields (·.FitsIn .expression) := by
  unfold indexRest
  refine .bind (.allowIn (.skip fun _ => h.expression _)) fun p hp => .skip fun _ => ?_
  refine .pure (.intro rfl ?_)
  have key : p.FitsIn (.key true) := ⟨hp.admitted, hp.shaped⟩
  simpa [Node.ChildrenFit, Node.positions] using ⟨hl, key⟩

omit h in
theorem namedMember_fits (t : Token) (optional : Bool) :
    (do return .member t left (← propertyName t) false optional : Parse Node).Yields
      (·.FitsIn .expression) := by
  refine .bind (propertyName_fits _) fun p hp => .pure (.intro rfl ?_)
  simpa [Node.ChildrenFit, Node.positions] using ⟨hl, hp⟩

theorem callRest_fits (t : Token) (optional : Bool) :
    (do return .call t left (← argumentList self) optional : Parse Node).Yields
      (·.FitsIn .expression) := by
  refine .bind (argumentList_fits h) fun args ha => .pure (.intro rfl ?_)
  simpa [Node.ChildrenFit, Node.positions] using ⟨hl, ha⟩

theorem optionalRest_fits (t : Token) :
    (optionalRest self t left).Yields (·.FitsIn .expression) := by
  unfold optionalRest
  refine .skip fun ahead => .skip fun called => ?_
  split
  · exact callRest_fits h hl _ _
  refine .skip fun indexed => ?_
  split
  · exact indexRest_fits h hl _ _
  · exact namedMember_fits hl _ _

theorem binaryRest_fits (t : Token) (level : Nat) :
    (do advance; return .binary t left t.literal (← self (.expression level)) : Parse Node).Yields
      (·.FitsIn .expression) := by
  refine .skip fun _ => .bind (h.expression _) fun e he => .pure (.intro rfl ?_)
  simpa [Node.ChildrenFit, Node.positions] using ⟨hl, he⟩

omit h in
theorem updateRest_fits (t : Token) :
    (do
      if !left.isAssignable then reject t (.badOperand t)
      return .update t t.literal left false : Parse Node).Yields (·.FitsIn .expression) := by
  refine .guarded (.pure (.intro rfl ?_))
  simpa [Node.ChildrenFit, Node.positions] using hl

theorem operatorRest_fits : (operatorRest self left).Yields (·.FitsIn .expression) := by
  unfold operatorRest
  refine .skip fun t => ?_
  dsimp only
  split
  · exact sequenceRest_fits h hl _
  · exact conditionalRest_fits h hl _
  · exact binaryRest_fits h hl _ _
  · exact assertionRest_fits h hl _
  · exact assertionRest_fits h hl _
  · exact updateRest_fits hl _
  · exact updateRest_fits hl _
  · refine .pure (.intro rfl ?_)
    simpa [Node.ChildrenFit, Node.positions] using hl
  · exact callRest_fits h hl _ _
  · refine .bind (templateLiteral_fits h _) fun q hq => .pure (.intro rfl ?_)
    simpa [Node.ChildrenFit, Node.positions] using ⟨hl, hq⟩
  · exact indexRest_fits h hl _ _
  · exact namedMember_fits hl _ _
  · exact optionalRest_fits h hl _
  · split
    · exact assignmentRest_fits h hl _
    · exact binaryRest_fits h hl _ _

theorem operators_fits (level : Nat) :
    (operators self level left).Yields (·.FitsIn .expression) := by
  unfold operators
  refine .skip fun ahead => ?_
  split
  · exact .skip fun _ => .bind (operatorRest_fits h hl) fun _ hn => h.operators _ hn
  · exact .pure hl

end

end

end CoScript.Parse
