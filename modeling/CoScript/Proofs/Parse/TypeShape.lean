import CoScript.Parse.Program
import CoScript.Proofs.Parse.Yield
import CoScript.Proofs.Tree.Shape

/-!
Whatever the parser gives is well shaped, complete script or not. The rules of the grammar are taken
one by one over an answerer that gives well-shaped results itself, and the bound on the nesting is
tied at the end.
-/
namespace CoScript.Parse

open Node (AllFit)

/-- An answerer whose results fit where the goals ask for them. Goals that go on from a node are only
asked with a node that fits. -/
structure Answers (r : Recur) : Prop where
  expression (level : Nat) : (r (.expression level)).Yields (·.FitsIn .expression)
  operators (level : Nat) {left : Node} (h : left.FitsIn .expression) :
    (r (.operators level left)).Yields (·.FitsIn .expression)
  elements : (r .elements).Yields (AllFit (.optional .expression))
  arguments : (r .arguments).Yields (AllFit .expression)
  properties : (r .properties).Yields (AllFit .entry)
  statement : (r .statement).Yields (·.FitsIn .statement)
  programItems : (r .programItems).Yields (AllFit .statement)
  blockItems : (r .blockItems).Yields (AllFit .statement)
  caseItems : (r .caseItems).Yields (AllFit .statement)
  cases (seenDefault : Bool) : (r (.cases seenDefault)).Yields (AllFit .switchCase)
  declarators : (r .declarators).Yields (AllFit .declarator)
  binding : (r .binding).Yields (·.FitsIn .binding)
  patternElements : (r .patternElements).Yields (AllFit (.optional .boundElement))
  patternProperties : (r .patternProperties).Yields fun r =>
    AllFit .patternEntry r.1 ∧ r.2.FitsIn (.optional .binding)
  parameters : (r .parameters).Yields (AllFit .parameter)
  type (level : Nat) : (r (.type level)).Yields (·.FitsIn .type)
  typeOperators (level : Nat) {left : Node} (h : left.FitsIn .type) :
    (r (.typeOperators level left)).Yields (·.FitsIn .type)
  typeName {left : Node} (h : left.FitsIn .typeName) :
    (r (.typeName left)).Yields (·.FitsIn .typeName)
  typeArguments : (r .typeArguments).Yields (AllFit .type)
  tupleElements : (r .tupleElements).Yields (AllFit .type)
  members : (r .members).Yields (AllFit .signature)
  bases : (r .bases).Yields (AllFit .type)

theorem literalType_fits {t : Token} {e : Node} (he : e.FitsIn .expression) :
    (Node.literalType t e).FitsIn .type := by
  refine .intro rfl ?_
  simpa [Node.ChildrenFit, Node.positions] using he.inType

theorem unite_fits {t : Token} {left right : Node} (hl : left.FitsIn .type)
    (hr : right.FitsIn .type) : (unite t left right).FitsIn .type := by
  unfold unite
  split
  · rename_i types
    have hts : AllFit .type types := by
      simpa [Node.ChildrenFit, Node.positions] using hl.childrenFit
    refine .intro rfl ?_
    simpa [Node.ChildrenFit, Node.positions] using hts.append (.singleton hr)
  · refine .intro rfl ?_
    simpa [Node.ChildrenFit, Node.positions] using Node.AllFit.cons hl (.singleton hr)

theorem intersect_fits {t : Token} {left right : Node} (hl : left.FitsIn .type)
    (hr : right.FitsIn .type) : (intersect t left right).FitsIn .type := by
  unfold intersect
  split
  · rename_i types
    have hts : AllFit .type types := by
      simpa [Node.ChildrenFit, Node.positions] using hl.childrenFit
    refine .intro rfl ?_
    simpa [Node.ChildrenFit, Node.positions] using hts.append (.singleton hr)
  · refine .intro rfl ?_
    simpa [Node.ChildrenFit, Node.positions] using Node.AllFit.cons hl (.singleton hr)

section
variable {self : Recur} (h : Answers self)
include h

/-! Keys and bindings. -/

theorem key_fits : (key self).Yields fun r => r.1.FitsIn (.key r.2) := by
  unfold key
  refine .skip fun t => ?_
  split
  · exact .pure (.intro rfl (.leaf rfl))
  split
  · exact .pure (.intro rfl (.leaf rfl))
  split
  · exact .pure (.intro rfl (.leaf rfl))
  split
  · refine .bind (.allowIn (.skip fun _ => h.expression _)) fun e he => .skip fun _ => .pure ?_
    exact ⟨he.admitted, he.shaped⟩
  · exact .reject _ _

theorem annotation_fits : Yields ( annotation self) (·.FitsIn (.optional .type)) := by
  unfold annotation
  refine .skip fun c => ?_
  split
  · exact .skip fun _ => (h.type _).mono fun _ ht => ht.optional
  · exact .pure (Node.absent_fitsIn _)

theorem initializer_fits : (initializer self).Yields (·.FitsIn (.optional .expression)) := by
  unfold initializer
  refine .skip fun c => ?_
  split
  · exact .skip fun _ => (h.expression _).mono fun _ he => he.optional
  · exact .pure (Node.absent_fitsIn _)

theorem binding_fits : (binding self).Yields (·.FitsIn .binding) := by
  unfold binding
  refine .skip fun t => ?_
  split
  · exact .pure (.intro rfl (.leaf rfl))
  · refine .bind h.patternElements fun es hes => .pure (.intro rfl ?_)
    simpa [Node.ChildrenFit, Node.positions] using hes
  · refine .bind h.patternProperties fun r hr => .pure (.intro rfl ?_)
    simpa [Node.ChildrenFit, Node.positions] using hr
  · exact .reject _ _

theorem bindingElement_fits : (bindingElement self).Yields (·.FitsIn .boundValue) := by
  unfold bindingElement
  refine .bind h.binding fun target ht => .skip fun c => ?_
  split
  · refine .skip fun t => .bind (.allowIn (.skip fun _ => h.expression _)) fun e he => .pure ?_
    refine .intro rfl ?_
    simpa [Node.ChildrenFit, Node.positions] using ⟨ht, he⟩
  · exact .pure ht.boundValue

theorem patternElements_fits :
    (patternElements self).Yields (AllFit (.optional .boundElement)) := by
  unfold patternElements
  refine .skip fun closes => ?_
  split
  · exact .pure (Node.allFit_nil _)
  refine .skip fun hole => ?_
  split
  · exact .bind h.patternElements fun es hes => .pure (.cons (Node.absent_fitsIn _) hes)
  refine .skip fun _ => .skip fun t => ?_
  split
  · refine .skip fun _ => .bind h.binding fun target ht => .skip fun _ => .pure (.singleton ?_)
    refine (Node.FitsIn.intro (p := .boundElement) rfl ?_).optional
    simpa [Node.ChildrenFit, Node.positions] using ht
  refine .bind (bindingElement_fits h) fun e he => .skip fun more => ?_
  have he' := he.boundElement.optional
  split
  · exact .bind h.patternElements fun es hes => .pure (.cons he' hes)
  · exact .skip fun _ => .pure (.singleton he')

theorem patternProperty_fits : (patternProperty self).Yields (·.FitsIn .patternEntry) := by
  unfold patternProperty
  refine .skip fun t => .bind (key_fits h) fun k hk => .skip fun colon => ?_
  split
  · refine .skip fun _ => .bind (bindingElement_fits h) fun e he => .pure (.intro rfl ?_)
    simpa [Node.ChildrenFit, Node.positions] using ⟨hk, he⟩
  refine .skip fun last => ?_
  split
  · refine .skip fun assign => ?_
    rename_i nameToken name _ _
    have target : (Node.identifier nameToken name).FitsIn .binding := .intro rfl (.leaf rfl)
    split
    · refine .skip fun a => .skip fun _ => .bind (h.expression _) fun e he => .pure ?_
      refine .intro rfl ?_
      have value : (Node.assignmentPattern a (.identifier nameToken name) e).FitsIn .boundValue :=
        .intro rfl (by simpa [Node.ChildrenFit, Node.positions] using ⟨target, he⟩)
      simpa [Node.ChildrenFit, Node.positions] using ⟨hk, value⟩
    · refine .pure (.intro rfl ?_)
      simpa [Node.ChildrenFit, Node.positions] using ⟨hk, target.boundValue⟩
  · exact .skip fun _ => .reject _ _

theorem patternProperties_fits : (patternProperties self).Yields fun r =>
    AllFit .patternEntry r.1 ∧ r.2.FitsIn (.optional .binding) := by
  unfold patternProperties
  refine .skip fun closes => ?_
  split
  · exact .pure ⟨Node.allFit_nil _, Node.absent_fitsIn _⟩
  refine .skip fun _ => .skip fun c => ?_
  split
  · exact .skip fun _ => .bind h.binding fun rest hr =>
      .skip fun _ => .pure ⟨Node.allFit_nil _, hr.optional⟩
  · refine .bind (patternProperty_fits h) fun e he => .skip fun last => .moved ?_
    exact .bind h.patternProperties fun r hr => .pure ⟨.cons he hr.1, hr.2⟩

theorem parameter_fits : (parameter self).Yields (·.FitsIn .parameter) := by
  unfold parameter
  refine .skip fun t => .moved (.skip fun first => .guarded ?_)
  refine .bind h.binding fun target ht => .skip fun c => ?_
  refine .bind (annotation_fits h) fun type hT => .bind (initializer_fits h) fun e he => ?_
  refine .pure (.intro rfl ?_)
  simpa [Node.ChildrenFit, Node.positions] using ⟨ht, hT, he⟩

theorem parameters_fits : (parameters self).Yields (AllFit .parameter) := by
  unfold parameters
  refine .skip fun _ => .skip fun rest => .bind (parameter_fits h) fun first hf => ?_
  split
  · exact .pure (.singleton hf)
  refine .skip fun comma => ?_
  split
  · refine .skip fun closes => ?_
    split
    · exact .pure (.singleton hf)
    · exact .bind h.parameters fun ps hps => .pure (.cons hf hps)
  · exact .pure (.singleton hf)

theorem parameterList_fits : (parameterList self).Yields (AllFit .parameter) := by
  unfold parameterList
  refine .allowIn (.skip fun closes => ?_)
  split
  · exact .pure (Node.allFit_nil _)
  · exact .bind h.parameters fun ps hps => .skip fun _ => .pure hps

/-! Types. -/

theorem typeName_fits {left : Node} (hl : left.FitsIn .typeName) :
    (typeName self left).Yields (·.FitsIn .typeName) := by
  unfold typeName
  refine .skip fun c => ?_
  split
  · refine .skip fun dot => .skip fun _ => .skip fun t => h.typeName (.intro rfl ?_)
    have right : (Node.identifier t t.literal).FitsIn (.inType .name) := .intro rfl (.leaf rfl)
    simpa [Node.ChildrenFit, Node.positions] using ⟨hl, right⟩
  · exact .pure hl

theorem typeArguments_fits : (typeArguments self).Yields (AllFit .type) := by
  unfold typeArguments
  refine .skip fun _ => .bind (h.type _) fun first hf => .skip fun comma => ?_
  split
  · exact .bind h.typeArguments fun ts hts => .pure (.cons hf hts)
  · exact .pure (.singleton hf)

theorem typeReference_fits : (typeReference self).Yields (·.FitsIn .type) := by
  unfold typeReference
  refine .skip fun t => .skip fun ahead => ?_
  split
  · exact .pure (.intro rfl (.leaf rfl))
  refine .bind (h.typeName (.intro rfl (.leaf rfl))) fun name hn => .skip fun less => ?_
  split
  · refine .bind h.typeArguments fun args ha => .skip fun _ => .pure (.intro rfl ?_)
    simpa [Node.ChildrenFit, Node.positions] using ⟨hn, ha⟩
  · refine .pure (.intro rfl ?_)
    simpa [Node.ChildrenFit, Node.positions] using ⟨hn, Node.allFit_nil _⟩

theorem parenthesizedType_fits : (parenthesizedType self).Yields (·.FitsIn .type) := by
  unfold parenthesizedType
  refine .skip fun t => .skip fun isFunction => ?_
  split
  · refine .bind (parameterList_fits h) fun ps hps => .skip fun _ => .skip fun _ => ?_
    refine .bind (h.type _) fun r hr => .pure (.intro rfl ?_)
    simpa [Node.ChildrenFit, Node.positions] using ⟨hps.inType, hr⟩
  · refine .skip fun _ => .bind (h.type _) fun inner hi => .skip fun _ => .pure (.intro rfl ?_)
    simpa [Node.ChildrenFit, Node.positions] using hi

theorem tupleElements_fits : (tupleElements self).Yields (AllFit .type) := by
  unfold tupleElements
  refine .skip fun closes => ?_
  split
  · exact .pure (Node.allFit_nil _)
  refine .skip fun _ => .bind (h.type _) fun e he => .skip fun last => .moved ?_
  exact .bind h.tupleElements fun es hes => .pure (.cons he hes)

theorem typeOperand_fits : (typeOperand self).Yields (·.FitsIn .type) := by
  unfold typeOperand
  refine .skip fun t => ?_
  split
  · exact typeReference_fits h
  · exact .pure (.intro rfl (.leaf rfl))
  · exact .pure (.intro rfl (.leaf rfl))
  · exact .pure (literalType_fits (.intro rfl (.leaf rfl)))
  · exact .pure (literalType_fits (.intro rfl (.leaf rfl)))
  · exact .pure (literalType_fits (.intro rfl (.leaf rfl)))
  · exact .pure (literalType_fits (.intro rfl (.leaf rfl)))
  · refine .skip fun _ => .skip fun n => .pure (literalType_fits (.intro rfl ?_))
    have number : (Node.number n n.literal).FitsIn .expression := .intro rfl (.leaf rfl)
    simpa [Node.ChildrenFit, Node.positions] using number
  · exact parenthesizedType_fits h
  · refine .bind h.tupleElements fun es hes => .pure (.intro rfl ?_)
    simpa [Node.ChildrenFit, Node.positions] using hes
  · refine .bind h.members fun ms hms => .pure (.intro rfl ?_)
    simpa [Node.ChildrenFit, Node.positions] using hms
  · exact .skip fun _ => h.type _
  · exact .skip fun _ => h.type _
  · exact .reject _ _
  · exact .reject _ _

theorem typeExpression_fits (level : Nat) :
    (typeExpression self level).Yields (·.FitsIn .type) := by
  unfold typeExpression
  exact .bind (typeOperand_fits h) fun _ hl => h.typeOperators _ hl

theorem typeOperators_fits (level : Nat) {left : Node} (hl : left.FitsIn .type) :
    (typeOperators self level left).Yields (·.FitsIn .type) := by
  unfold typeOperators
  refine .skip fun ahead => ?_
  split
  · exact .pure hl
  split
  · exact .skip fun _ => .skip fun _ => .bind (h.type _) fun _ hr =>
      h.typeOperators _ (unite_fits hl hr)
  · exact .skip fun _ => .skip fun _ => .bind (h.type _) fun _ hr =>
      h.typeOperators _ (intersect_fits hl hr)
  · split
    · exact .pure hl
    refine .skip fun _ => .skip fun closes => ?_
    split
    · refine h.typeOperators _ (.intro rfl ?_)
      simpa [Node.ChildrenFit, Node.positions] using hl
    · exact .reject _ _
  · exact .pure hl

/-! Members of interfaces. -/

theorem indexSignature_fits (t : Token) (readonly : Bool) :
    (indexSignature self t readonly).Yields (·.FitsIn .signature) := by
  unfold indexSignature
  refine .skip fun _ => .skip fun param => .skip fun _ => .skip fun _ => ?_
  refine .bind (h.type _) fun k hk => .skip fun _ => .skip fun _ => .skip fun _ => ?_
  refine .bind (h.type _) fun v hv => .pure (.intro rfl ?_)
  have name : (Node.identifier param param.literal).FitsIn (.inType .name) :=
    .intro rfl (.leaf rfl)
  simpa [Node.ChildrenFit, Node.positions] using ⟨name, hk, hv⟩

theorem keyedMember_fits (t : Token) (readonly : Bool) :
    (keyedMember self t readonly).Yields (·.FitsIn .signature) := by
  unfold keyedMember
  refine .bind (key_fits h) fun k hk => .skip fun c => .skip fun ahead => .guarded ?_
  refine .skip fun open_ => ?_
  split
  · refine .bind (parameterList_fits h) fun ps hps => .bind (annotation_fits h) fun r hr => ?_
    refine .pure (.intro rfl ?_)
    simpa [Node.ChildrenFit, Node.positions] using ⟨hk.inType, hps.inType, hr⟩
  · refine .bind (annotation_fits h) fun type hT => .pure (.intro rfl ?_)
    simpa [Node.ChildrenFit, Node.positions] using ⟨hk.inType, hT⟩

theorem memberSignature_fits : (memberSignature self).Yields (·.FitsIn .signature) := by
  unfold memberSignature
  refine .skip fun t => .skip fun ahead => .moved (.skip fun first => .skip fun isIndex => ?_)
  split
  · exact indexSignature_fits h _ _
  split
  · exact .reject _ _
  · exact keyedMember_fits h _ _

theorem members_fits : (members self).Yields (AllFit .signature) := by
  unfold members
  refine .skip fun closes => ?_
  split
  · exact .pure (Node.allFit_nil _)
  refine .skip fun _ => .bind (memberSignature_fits h) fun m hm => .skip fun ahead => ?_
  have rest : Yields (do return m :: (← self .members)) (AllFit .signature) :=
    .bind h.members fun ms hms => .pure (.cons hm hms)
  dsimp only
  split
  · exact .skip fun _ => rest
  · exact .guarded rest

theorem bases_fits : (bases self).Yields (AllFit .type) := by
  unfold bases
  refine .skip fun _ => .bind (typeReference_fits h) fun b hb => .skip fun comma => ?_
  split
  · exact .bind h.bases fun bs hbs => .pure (.cons hb hbs)
  · exact .pure (.singleton hb)

end

end CoScript.Parse
