import CoScript.Proofs.Parse.Agreement

/-!
The grammar keeps every coupling: two runs that start in coupled states and ask for the same phrase
get related results and end in coupled states, if that is so for the phrases below.
-/
namespace CoScript.Parse

open Phase (Admits Next)

/-! What is computed from nodes that were read. -/

section
variable {L : Look} {t t' : Token} {n n' m m' : Node}

theorem mapTokens_unite (f : Token → Token) (t : Token) (m n : Node) :
    (unite t m n).mapTokens f = unite (f t) (m.mapTokens f) (n.mapTokens f) := by
  cases m with
  | unionType s ms => exact congrArg (Node.unionType (f s)) (by simp)
  | _ => rfl

theorem declaring?_unite (t : Token) (m n : Node) : (unite t m n).declaring? = none := by
  unfold unite
  split <;> rfl

instance [h : Related L t t'] [hm : Related L m m'] [hn : Related L n n'] :
    Related L (unite t m n) (unite t' m' n') :=
  .plain (by
    rw [mapTokens_unite, mapTokens_unite, Node.mapTokens_eq hm, Node.mapTokens_eq hn,
      show L.view t = L.view t' from h.eq]) (declaring?_unite ..) (declaring?_unite ..)

theorem mapTokens_intersect (f : Token → Token) (t : Token) (m n : Node) :
    (intersect t m n).mapTokens f = intersect (f t) (m.mapTokens f) (n.mapTokens f) := by
  cases m with
  | intersectionType s ms => exact congrArg (Node.intersectionType (f s)) (by simp)
  | _ => rfl

theorem declaring?_intersect (t : Token) (m n : Node) : (intersect t m n).declaring? = none := by
  unfold intersect
  split <;> rfl

instance [h : Related L t t'] [hm : Related L m m'] [hn : Related L n n'] :
    Related L (intersect t m n) (intersect t' m' n') :=
  .plain (by
    rw [mapTokens_intersect, mapTokens_intersect, Node.mapTokens_eq hm, Node.mapTokens_eq hn,
      show L.view t = L.view t' from h.eq]) (declaring?_intersect ..) (declaring?_intersect ..)

/-- A sequence with one more expression. -/
def extend (t : Token) (first next : Node) : Node :=
  match first with
  | .sequence t expressions => .sequence t (expressions ++ [next])
  | _ => .sequence t [first, next]

theorem mapTokens_extend (f : Token → Token) (t : Token) (m n : Node) :
    (extend t m n).mapTokens f = extend (f t) (m.mapTokens f) (n.mapTokens f) := by
  cases m with
  | sequence s ms => exact congrArg (Node.sequence (f s)) (by simp)
  | _ => rfl

theorem declaring?_extend (t : Token) (m n : Node) : (extend t m n).declaring? = none := by
  unfold extend
  split <;> rfl

instance [h : Related L t t'] [hm : Related L m m'] [hn : Related L n n'] :
    Related L (extend t m n) (extend t' m' n') :=
  .plain (by
    rw [mapTokens_extend, mapTokens_extend, Node.mapTokens_eq hm, Node.mapTokens_eq hn,
      show L.view t = L.view t' from h.eq]) (declaring?_extend ..) (declaring?_extend ..)

theorem sequenceRest_eq (self : Recur) (t : Token) (first : Node) : sequenceRest self t first = do
    advance
    let next ← self (.expression Level.comma)
    return extend t first next := by
  unfold sequenceRest extend
  congr 1
  funext _
  congr 1
  funext next
  cases first <;> rfl

theorem mapTokens_shorthand? (f : Token → Token) (n : Node) (computed : Bool) :
    shorthand? (n.mapTokens f) computed = (shorthand? n computed).map (Prod.map f id) := by
  cases n <;> cases computed <;> rfl

/-- Related keys are both the same word, or no words. -/
theorem shorthand_cases (h : Related L n n') (computed : Bool) :
    (shorthand? n computed = none ∧ shorthand? n' computed = none) ∨
    ∃ t t' name, shorthand? n computed = some (t, name) ∧ shorthand? n' computed = some (t', name) ∧
      Related L (Node.identifier t name) (.identifier t' name) := by
  have same := congrArg (shorthand? · computed) (Node.mapTokens_eq h)
  simp only [mapTokens_shorthand?] at same
  cases first : shorthand? n computed with
  | none =>
      rw [first] at same
      exact .inl ⟨rfl, Option.map_eq_none_iff.1 same.symm⟩
  | some word =>
      cases second : shorthand? n' computed with
      | none =>
          rw [first, second] at same
          cases same
      | some word' =>
          obtain ⟨t, name⟩ := word
          obtain ⟨t', name'⟩ := word'
          rw [first, second] at same
          simp only [Option.map_some, Prod.map_apply, id_eq, Option.some.injEq,
            Prod.mk.injEq] at same
          obtain ⟨tokens, rfl⟩ := same
          exact .inr ⟨t, t', name, rfl, rfl, .plain (congrArg (Node.identifier · name) tokens) rfl rfl⟩

theorem loopHeadFault?_of_free {t : Token} {n : Node} (h : n.declaring? = none) :
    loopHeadFault? t n =
      if n.isAssignable || n.isDestructuring then none else some (t, .badLoopTarget) := by
  unfold loopHeadFault?
  split
  · cases h
  · rfl

theorem mapTokens_loopHeadFault? (f : Token → Token) (t : Token) (n : Node) :
    loopHeadFault? (f t) (n.mapTokens f) = (loopHeadFault? t n).map (Prod.map f id) := by
  cases free : n.declaring? with
  | none =>
      have free' : (n.mapTokens f).declaring? = none := by rw [Node.declaring?_mapTokens, free]; rfl
      rw [loopHeadFault?_of_free free, loopHeadFault?_of_free free', Node.isAssignable_mapTokens,
        Node.isDestructuring_mapTokens]
      split <;> rfl
  | some d =>
      obtain ⟨keyword, ds, rfl⟩ := Node.eq_of_declaring? free
      rcases ds with _ | ⟨x, _ | ⟨y, ys⟩⟩
      · rfl
      · cases x with
        | declarator s target definite type value => cases value <;> rfl
        | _ => rfl
      · cases x with
        | declarator s target definite type value => cases value <;> rfl
        | _ => rfl

theorem loopHeadFault?_mem {t d : Token} {n : Node} {fault : Fault}
    (h : loopHeadFault? t n = some (d, fault)) :
    (d = t ∨ n.declaring? = some d) ∧ (fault = .badLoopDeclaration ∨ fault = .badLoopTarget) := by
  unfold loopHeadFault? at h
  split at h
  · split at h
    · cases h
    · cases h
      exact ⟨.inr rfl, .inl rfl⟩
  · split at h
    · cases h
    · cases h
      exact ⟨.inl rfl, .inr rfl⟩

/-- Related left sides of a loop are both accepted, or both refused at related tokens. -/
theorem loopHeadFault_cases (h : Related L t t') (k : Related L n n') :
    (loopHeadFault? t n = none ∧ loopHeadFault? t' n' = none) ∨
    ∃ (d d' : Token) (fault : Fault), Related L fault fault ∧ L.view d = L.view d' ∧
      L.shown d ∧ L.shown d' ∧
      loopHeadFault? t n = some (d, fault) ∧ loopHeadFault? t' n' = some (d', fault) := by
  have same : loopHeadFault? (L.view t) (n.mapTokens L.view) =
      loopHeadFault? (L.view t') (n'.mapTokens L.view) := by
    rw [show L.view t = L.view t' from h.eq, Node.mapTokens_eq k]
  rw [mapTokens_loopHeadFault?, mapTokens_loopHeadFault?] at same
  cases first : loopHeadFault? t n with
  | none =>
      rw [first] at same
      exact .inl ⟨rfl, Option.map_eq_none_iff.1 same.symm⟩
  | some found =>
      cases second : loopHeadFault? t' n' with
      | none =>
          rw [first, second] at same
          cases same
      | some found' =>
          obtain ⟨d, fault⟩ := found
          obtain ⟨d', fault'⟩ := found'
          rw [first, second] at same
          simp only [Option.map_some, Prod.map_apply, id_eq, Option.some.injEq,
            Prod.mk.injEq] at same
          obtain ⟨tokens, rfl⟩ := same
          obtain ⟨known, faults⟩ := loopHeadFault?_mem first
          obtain ⟨known', -⟩ := loopHeadFault?_mem second
          refine .inr ⟨d, d', fault, ?_, tokens, ?_, ?_, rfl, rfl⟩
          · obtain rfl | rfl := faults <;> exact Fault.related rfl rfl rfl
          · obtain rfl | known := known
            · exact L.shown_of_good h.good
            · exact k.good d known
          · obtain rfl | known := known'
            · exact L.shown_of_good h.good'
            · exact k.good' d' known

end

/-! Phrases below. -/

instance (g : Goal) : Data g.Result :=
  match g with
  | .expression _ | .operators _ _ | .statement | .binding | .type _ | .typeOperators _ _
  | .typeName _ => inferInstanceAs (Data Node)
  | .patternProperties => inferInstanceAs (Data (List Node × Node))
  | .elements | .arguments | .properties | .programItems | .blockItems | .caseItems | .cases _
  | .declarators | .patternElements | .parameters | .typeArguments | .tupleElements | .members
  | .bases => inferInstanceAs (Data (List Node))

/-- Answers to phrases keep a coupling, in certain phases. -/
class Answer {L : Look} (C : Coupling L) (P : Goal → Phase → Prop) (r r' : Recur) : Prop where
  goal {φ : Phase} {g : Goal} : g.left? = none → P g φ → Together C φ (r g) (r' g)
  operators {φ : Phase} {level : Nat} {left left' : Node} : Related L left left' →
    P (.operators level left) φ →
    Together C φ (α := Node) (r (.operators level left)) (r' (.operators level left'))
  typeOperators {φ : Phase} {level : Nat} {left left' : Node} : Related L left left' →
    P (.typeOperators level left) φ →
    Together C φ (α := Node) (r (.typeOperators level left)) (r' (.typeOperators level left'))
  typeName {φ : Phase} {left left' : Node} : Related L left left' → P (.typeName left) φ →
    Together C φ (α := Node) (r (.typeName left)) (r' (.typeName left'))

/-- Answers keep a coupling wherever rules of the grammar ask for them. -/
abbrev Below {L : Look} (C : Coupling L) (r r' : Recur) : Prop :=
  Answer C Goal.Fits r r'

section
variable {L : Look} {C : Coupling L} {self self' : Recur} [below : Below C self self'] {φ ψ : Phase}
include below

namespace Below

section
variable [Admits 0 φ]

instance : Together C φ (self .elements) (self' .elements) :=
  below.goal (g := .elements) rfl (Goal.fits_of_none rfl)

instance : Together C φ (self .arguments) (self' .arguments) :=
  below.goal (g := .arguments) rfl (Goal.fits_of_none rfl)

instance : Together C φ (self .properties) (self' .properties) :=
  below.goal (g := .properties) rfl (Goal.fits_of_none rfl)

instance : Together C φ (self .declarators) (self' .declarators) :=
  below.goal (g := .declarators) rfl (Goal.fits_of_none rfl)

instance : Together C φ (self .patternElements) (self' .patternElements) :=
  below.goal (g := .patternElements) rfl (Goal.fits_of_none rfl)

instance : Together C φ (self .patternProperties) (self' .patternProperties) :=
  below.goal (g := .patternProperties) rfl (Goal.fits_of_none rfl)

instance : Together C φ (self .parameters) (self' .parameters) :=
  below.goal (g := .parameters) rfl (Goal.fits_of_none rfl)

instance : Together C φ (self .typeArguments) (self' .typeArguments) :=
  below.goal (g := .typeArguments) rfl (Goal.fits_of_none rfl)

instance : Together C φ (self .tupleElements) (self' .tupleElements) :=
  below.goal (g := .tupleElements) rfl (Goal.fits_of_none rfl)

instance : Together C φ (self .members) (self' .members) :=
  below.goal (g := .members) rfl (Goal.fits_of_none rfl)

instance : Together C φ (self .bases) (self' .bases) :=
  below.goal (g := .bases) rfl (Goal.fits_of_none rfl)

instance {level : Nat} {left left' : Node} [h : Related L left left'] :
    Together C φ (self (.operators level left)) (self' (.operators level left')) :=
  below.operators h (Goal.fits_of_none rfl)

instance {level : Nat} {left left' : Node} [h : Related L left left'] :
    Together C φ (self (.typeOperators level left)) (self' (.typeOperators level left')) :=
  below.typeOperators h (Goal.fits_of_none rfl)

instance {left left' : Node} [h : Related L left left'] :
    Together C φ (self (.typeName left)) (self' (.typeName left')) :=
  below.typeName h (Goal.fits_of_none rfl)

end

instance [Admits 1 φ] {level : Nat} :
    Together C φ (self (.expression level)) (self' (.expression level)) :=
  below.goal (g := .expression level) rfl (Goal.fits_of_some rfl)

instance [Admits 1 φ] : Together C φ (self .binding) (self' .binding) :=
  below.goal (g := .binding) rfl (Goal.fits_of_some rfl)

instance [Admits 1 φ] {level : Nat} : Together C φ (self (.type level)) (self' (.type level)) :=
  below.goal (g := .type level) rfl (Goal.fits_of_some rfl)

instance [Admits 2 φ] : Together C φ (self .statement) (self' .statement) :=
  below.goal (g := .statement) rfl (Goal.fits_of_some rfl)

instance : Together C .moved (self .programItems) (self' .programItems) :=
  below.goal (g := .programItems) rfl trivial

instance : Together C .moved (self .blockItems) (self' .blockItems) :=
  below.goal (g := .blockItems) rfl trivial

instance : Together C .moved (self .caseItems) (self' .caseItems) :=
  below.goal (g := .caseItems) rfl trivial

instance {b b' : Bool} [h : Related L b b'] :
    Together C .moved (self (.cases b)) (self' (.cases b')) := by
  obtain rfl : b = b' := h.eq
  exact below.goal (g := .cases b) rfl trivial

end Below

set_option synthInstance.maxSize 1000

/-! Keys and bindings. -/

instance [Admits 0 φ] : Together C φ (key self) (key self') := by
  unfold key
  infer_instance

instance [Admits 0 φ] : Together C φ ( annotation self) ( annotation self') := by
  unfold annotation
  infer_instance

instance [Admits 0 φ] : Together C φ (initializer self) (initializer self') := by
  unfold initializer
  infer_instance

instance [Admits 0 φ] : Together C φ (binding self) (binding self') := by
  unfold binding
  refine .bind (k := fun t => ?_)
  rw [Token.kind_eq (h := t.related)]
  split <;> infer_instance

instance [Admits 1 φ] : Together C φ (bindingElement self) (bindingElement self') := by
  unfold bindingElement
  infer_instance

instance : Together C .before (patternElements self) (patternElements self') := by
  unfold patternElements
  infer_instance

instance [Admits 0 φ] : Together C φ (patternProperty self) (patternProperty self') := by
  unfold patternProperty
  refine .bind (k := fun t => .pair_bind (k := fun key computed =>
    .skip_bind (g := .bind (k := fun last => ?_))))
  rw [← computed.related.bool_eq, ← Token.is_eq (h := last.related)]
  obtain ⟨none, none'⟩ | ⟨t, t', name, some, some', related⟩ :=
    shorthand_cases key.related computed.left
  · rw [none, none']
    infer_instance
  · rw [some, some']
    cases last.left.is .identifier <;> infer_instance

instance : Together C .before (patternProperties self) (patternProperties self') := by
  unfold patternProperties
  infer_instance

instance [Admits 1 φ] : Together C φ (parameter self) (parameter self') := by
  unfold parameter
  infer_instance

instance : Together C .before (parameters self) (parameters self') := by
  unfold parameters
  infer_instance

instance [Admits 0 φ] : Together C φ (parameterList self) (parameterList self') := by
  unfold parameterList
  infer_instance

/-! Types. -/

instance {left left' : Node} [Related L left left'] :
    Together C .before (typeName self left) (typeName self' left') := by
  unfold typeName
  infer_instance

instance : Together C .before (typeArguments self) (typeArguments self') := by
  unfold typeArguments
  infer_instance

instance [Admits 0 φ] : Together C φ (typeReference self) (typeReference self') := by
  unfold typeReference
  infer_instance

instance [Admits 0 φ] : Together C φ (parenthesizedType self) (parenthesizedType self') := by
  unfold parenthesizedType
  infer_instance

instance : Together C .before (tupleElements self) (tupleElements self') := by
  unfold tupleElements
  infer_instance

instance [Admits 0 φ] : Together C φ (typeOperand self) (typeOperand self') := by
  unfold typeOperand
  refine .bind (k := fun t => ?_)
  rw [Token.kind_eq (h := t.related)]
  split <;> infer_instance

instance [Admits 0 φ] {level : Nat} :
    Together C φ (typeExpression self level) (typeExpression self' level) := by
  unfold typeExpression
  infer_instance

instance {level : Nat} {left left' : Node} [Related L left left'] :
    Together C .before (typeOperators self level left) (typeOperators self' level left') := by
  unfold typeOperators
  refine .peek_bind (h := fun ahead => ?_)
  rw [Token.kind_eq (h := ahead.related)]
  split
  · infer_instance
  · split <;> infer_instance

instance [Admits 0 φ] {t t' : Token} [Related L t t'] {readonly readonly' : Bool} [Related L
    readonly readonly'] :
    Together C φ (indexSignature self t readonly) (indexSignature self' t' readonly') := by
  unfold indexSignature
  infer_instance

instance [Admits 0 φ] {t t' : Token} [Related L t t'] {readonly readonly' : Bool} [Related L
    readonly readonly'] :
    Together C φ (keyedMember self t readonly) (keyedMember self' t' readonly') := by
  unfold keyedMember
  infer_instance

instance [Admits 0 φ] : Together C φ (memberSignature self) (memberSignature self') := by
  unfold memberSignature
  infer_instance

instance : Together C .before (members self) (members self') := by
  unfold members
  infer_instance

instance : Together C .before (bases self) (bases self') := by
  unfold bases
  infer_instance

/-! Functions. -/

instance [Admits 0 φ] : Together C φ (block self) (block self') := by
  unfold block
  infer_instance

instance [Admits 0 φ] : Together C φ (functionBody self) (functionBody self') := by
  unfold functionBody
  infer_instance

instance [Admits 0 φ] {t t' : Token} [Related L t t'] {async : Bool} {name name' : Node}
    [Related L name name'] :
    Together C φ (functionRest self t async name) (functionRest self' t' async name') := by
  unfold functionRest
  infer_instance

instance [Admits 0 φ] {async : Bool} :
    Together C φ (functionExpression self async) (functionExpression self' async) := by
  unfold functionExpression
  infer_instance

instance [Admits 0 φ] {t t' : Token} [Related L t t'] {async : Bool} :
    Together C φ (functionDeclaration self t async) (functionDeclaration self' t' async) := by
  unfold functionDeclaration
  infer_instance

instance [Admits 0 φ] {t t' : Token} [Related L t t'] {async : Bool} {ns ns' : List Node}
    [Related L ns ns'] {name name' : Node} [Related L name name'] :
    Together C φ (arrowBody self t async ns name) (arrowBody self' t' async ns' name') := by
  unfold arrowBody
  infer_instance

instance [Admits 0 φ] {async : Bool} :
    Together C φ (arrowFunction self async) (arrowFunction self' async) := by
  unfold arrowFunction
  infer_instance

instance [Admits 0 φ] {async : Bool} :
    Together C φ (arrowOfName self async) (arrowOfName self' async) := by
  unfold arrowOfName
  infer_instance

omit below in
theorem arrowAhead_eq (s : State) : arrowAhead self s =
    match s.closing? with
    | none => (some false, s)
    | some r =>
      if r.peek.is (.operator .arrow) then (some (!r.peek.newlineBefore), s)
      else if !r.peek.is (.operator .colon) then (some false, s)
      else
        (some ((self (.type Level.lowest) r.advance.advance).2.complaints.length ==
            s.complaints.length &&
          (self (.type Level.lowest) r.advance.advance).2.peek.is (.operator .arrow)), s) := by
  rw [arrowAhead, State.closing?]
  cases closing? 0 s.current s.upcoming <;> rfl

instance [Admits 0 φ] : Together C φ (arrowAhead self) (arrowAhead self') where
  run := by
    intro s s' together
    have jump := C.closing together
    rw [arrowAhead_eq, arrowAhead_eq]
    generalize s.closing? = o, s'.closing? = o' at jump
    cases jump with
    | none => exact ⟨inferInstance, together⟩
    | @some r r' jumped =>
        have answer : Together C .moved (self (.type Level.lowest)) (self' (.type Level.lowest)) :=
          inferInstance
        obtain ⟨-, after⟩ := answer.run (C.advance (C.advance jumped))
        dsimp only
        simp only [Token.is_eq (L := L) (h := C.peek jumped), C.line jumped,
          Token.is_eq (L := L) (h := C.peek after), Together.length_complaints after,
          Together.length_complaints together]
        split
        · exact ⟨inferInstance, together⟩
        split
        · exact ⟨inferInstance, together⟩
        · exact ⟨inferInstance, together⟩

/-! Expressions. -/

instance [Admits 1 φ] : Together C φ (listElement self) (listElement self') := by
  unfold listElement
  infer_instance

instance : Together C .before (elements self) (elements self') := by
  unfold elements
  infer_instance

instance : Together C .before (arguments self) (arguments self') := by
  unfold arguments
  infer_instance

instance [Admits 0 φ] : Together C φ (argumentList self) (argumentList self') := by
  unfold argumentList
  infer_instance

instance [Admits 0 φ] {t t' : Token} [Related L t t'] {async async' : Bool} [Related L async
    async'] {key key' : Node} [hk : Related L key key'] {computed computed' : Bool} [Related L computed
    computed'] :
    Together C φ (propertyRest self t async key computed)
      (propertyRest self' t' async' key' computed') := by
  unfold propertyRest
  obtain rfl : async = async' := Related.bool_eq (L := L) inferInstance
  obtain rfl : computed = computed' := Related.bool_eq (L := L) inferInstance
  have named (ahead : Ahead L) : Together C φ
      (match shorthand? key computed with
        | some (nameToken, name) =>
          return .property t key computed (.identifier nameToken name) true false
        | none => reject ahead.left (.expected (.operator .colon) ahead.left) : Parse Node)
      (match shorthand? key' computed with
        | some (nameToken, name) =>
          return .property t' key' computed (.identifier nameToken name) true false
        | none => reject ahead.right (.expected (.operator .colon) ahead.right)) := by
    obtain ⟨none, none'⟩ | ⟨t, t', name, some, some', related⟩ := shorthand_cases hk computed
    · rw [none, none']
      infer_instance
    · rw [some, some']
      infer_instance
  infer_instance

instance [Admits 0 φ] : Together C φ (property self) (property self') := by
  unfold property
  infer_instance

instance : Together C .before (properties self) (properties self') := by
  unfold properties
  infer_instance

omit below in
instance {t t' : Token} [h : Related L t t'] : Together C φ (regexLiteral t) (regexLiteral t') := by
  unfold regexLiteral
  dsimp only
  rw [Token.literal_eq (h := h)]
  split
  · infer_instance
  · split <;> infer_instance

theorem substitution_together {t t' : Token} (h : Related L t t') (kind : t.kind = .template)
    {body : Template.Body} (parts : Template.split? t.literal = some body) {source : Text}
    (mem : source ∈ body.sources) :
    Together C φ (substitution self t source) (substitution self' t' source) where
  run := by
    intro s s' together
    have answer : Together C .moved (self (.expression Level.lowest))
      (self' (.expression Level.lowest)) := inferInstance
    obtain ⟨same, after⟩ := answer.run (C.start h kind parts mem)
    simp only [substitution]
    generalize self (.expression Level.lowest) (.start source) = outcome at same after
    generalize self' (.expression Level.lowest) (.start source) = outcome' at same after
    obtain ⟨e, sub⟩ := outcome
    obtain ⟨e', sub'⟩ := outcome'
    dsimp only at same after ⊢
    have := C.peek after
    have empty : sub.complaints.isEmpty = sub'.complaints.isEmpty := by
      rw [Bool.eq_iff_iff, List.isEmpty_iff_length_eq_zero, List.isEmpty_iff_length_eq_zero,
        Together.length_complaints after]
    rw [empty, Token.is_eq (L := L) (h := C.peek after)]
    have final : C.holds .moved
        (if sub'.complaints.isEmpty && !sub'.peek.is .eof then
          sub.complain sub.peek (.unexpected sub.peek) else sub)
        (if sub'.complaints.isEmpty && !sub'.peek.is .eof then
          sub'.complain sub'.peek (.unexpected sub'.peek) else sub') := by
      split
      · exact Together.complain inferInstance inferInstance after
      · exact after
    have faults := C.complaints final
    generalize (if sub'.complaints.isEmpty && !sub'.peek.is .eof then _ else sub) = last at faults ⊢
    generalize (if sub'.complaints.isEmpty && !sub'.peek.is .eof then _ else sub') = last'
      at faults ⊢
    cases complaints : last.complaints with
    | nil =>
        cases complaints' : last'.complaints with
        | nil => exact ⟨same, together⟩
        | cons => simp [complaints, complaints'] at faults
    | cons first =>
        cases complaints' : last'.complaints with
        | nil => simp [complaints, complaints'] at faults
        | cons first' =>
            simp only [complaints, complaints', List.map_cons, List.forall₂_cons] at faults
            have := faults.1
            exact ⟨Related.nothing, Together.complain h inferInstance together⟩

theorem templateLiteral_together {t t' : Token} [h : Related L t t'] (kind : t'.kind = .template) :
    Together C φ (templateLiteral self t) (templateLiteral self' t') := by
  unfold templateLiteral
  rw [Token.literal_eq (h := h)]
  split
  · rename_i unsplit
    rw [← Token.literal_eq (h := h)] at unsplit
    have := Fault.related_malformedTemplate h ((Token.kind_eq (h := h)).trans kind) unsplit
    infer_instance
  · rename_i body parts
    rw [← Token.literal_eq (h := h)] at parts
    rw [← Token.kind_eq (h := h)] at kind
    suffices all : ∀ sources ⊆ body.sources,
        Together C φ (substitutions self t sources) (substitutions self' t' sources) by
      have := all body.sources (fun _ => id)
      infer_instance
    intro sources
    induction sources with
    | nil =>
        intro _
        unfold substitutions
        infer_instance
    | cons source sources ih =>
        intro sub
        have := ih fun _ mem => sub (List.mem_cons_of_mem _ mem)
        have : Together C φ (substitution self t source) (substitution self' t' source) :=
          substitution_together h kind parts (sub List.mem_cons_self)
        unfold substitutions
        infer_instance

instance [Admits 0 φ] {t t' : Token} [Related L t t'] :
    Together C φ (nameOperand self t) (nameOperand self' t') := by
  unfold nameOperand
  infer_instance

instance [Admits 0 φ] : Together C φ (groupOperand self) (groupOperand self') := by
  unfold groupOperand
  infer_instance

instance [Admits 0 φ] {t t' : Token} [Related L t t'] :
    Together C φ (newOperand self t) (newOperand self' t') := by
  unfold newOperand
  infer_instance

instance [Admits 0 φ] {t t' : Token} [Related L t t'] :
    Together C φ (unaryOperand self t) (unaryOperand self' t') := by
  unfold unaryOperand
  infer_instance

instance [Admits 0 φ] {t t' : Token} [Related L t t'] :
    Together C φ (updateOperand self t) (updateOperand self' t') := by
  unfold updateOperand
  infer_instance

instance [Admits 0 φ] : Together C φ (operand self) (operand self') := by
  unfold operand
  refine .bind (k := fun t => ?_)
  rw [Token.kind_eq (h := t.related)]
  split
  case h_4 kind => exact templateLiteral_together kind
  all_goals infer_instance

instance [Admits 0 φ] {level : Nat} :
    Together C φ (expression self level) (expression self' level) := by
  unfold expression
  infer_instance

instance [Admits 0 φ] {t t' : Token} [Related L t t'] {left left' : Node} [Related L left left'] :
    Together C φ (assignmentRest self t left) (assignmentRest self' t' left') := by
  unfold assignmentRest
  infer_instance

instance [Admits 0 φ] {t t' : Token} [Related L t t'] {left left' : Node} [Related L left left'] :
    Together C φ (conditionalRest self t left) (conditionalRest self' t' left') := by
  unfold conditionalRest
  infer_instance

instance [Admits 0 φ] {t t' : Token} [Related L t t'] {left left' : Node} [Related L left left'] :
    Together C φ (sequenceRest self t left) (sequenceRest self' t' left') := by
  rw [sequenceRest_eq, sequenceRest_eq]
  infer_instance

instance [Admits 0 φ] {t t' : Token} [Related L t t'] {left left' : Node} [Related L left left'] :
    Together C φ (assertionRest self t left) (assertionRest self' t' left') := by
  unfold assertionRest
  infer_instance

instance [Admits 0 φ] {t t' : Token} [Related L t t'] :
    Together C φ (propertyName t) (propertyName t') := by
  unfold propertyName
  infer_instance

instance [Admits 0 φ] {t t' : Token} [Related L t t'] {left left' : Node} [Related L left left']
    {optional : Bool} :
    Together C φ (indexRest self t left optional) (indexRest self' t' left' optional) := by
  unfold indexRest
  infer_instance

instance [Admits 0 φ] {t t' : Token} [Related L t t'] {left left' : Node} [Related L left left'] :
    Together C φ (optionalRest self t left) (optionalRest self' t' left') := by
  unfold optionalRest
  infer_instance

instance [Admits 0 φ] {left left' : Node} [Related L left left'] :
    Together C φ (operatorRest self left) (operatorRest self' left') := by
  unfold operatorRest
  refine .bind (k := fun t => ?_)
  rw [Token.kind_eq (h := t.related)]
  dsimp only
  split
  case h_10 kind =>
    have : Together C φ (templateLiteral self t.left) (templateLiteral self' t.right) :=
      templateLiteral_together kind
    infer_instance
  all_goals infer_instance

instance {level : Nat} {left left' : Node} [Related L left left'] :
    Together C .before (operators self level left) (operators self' level left') := by
  unfold operators
  infer_instance

/-! Statements. -/

omit below in
theorem bind_assoc {α β γ : Type} (p : Parse α) (f : α → Parse β) (g : β → Parse γ) :
    p >>= f >>= g = p >>= fun a => f a >>= g := by
  funext s
  cases hp : p s with
  | mk r s' =>
      cases r with
      | none => rw [bind_eq_none hp, bind_eq_none (bind_eq_none hp)]
      | some a =>
          rw [bind_eq hp]
          cases hf : f a s' with
          | mk r' s'' =>
              cases r' with
              | none => rw [bind_eq_none hf, bind_eq_none (by rw [bind_eq hp, hf])]
              | some b => rw [bind_eq hf, bind_eq (by rw [bind_eq hp, hf])]

/-- After an item of a list of statements, something was taken. -/
instance item_bind [Admits 2 φ] {β : Type} [Data β] {f f' : Option Node → Parse β}
    [h : ∀ x : Pair L (Option Node), Together C .moved (f x.left) (f' x.right)] :
    Together C φ (item self >>= f) (item self' >>= f') := by
  rw [item, item, bind_assoc, bind_assoc]
  refine .pair_bind (k := fun statement broken => ?_)
  rw [← broken.related.bool_eq]
  dsimp only
  cases broken.left with
  | true =>
      simp only [if_true, bind_assoc]
      infer_instance
  | false =>
      simp only [Bool.false_eq_true, if_false, bind_assoc]
      infer_instance

instance [Admits 2 φ] : Together C φ (programItems self) (programItems self') := by
  unfold programItems
  infer_instance

instance [Admits 2 φ] : Together C φ (blockItems self) (blockItems self') := by
  unfold blockItems
  infer_instance

instance [Admits 1 φ] : Together C φ (declarator self) (declarator self') := by
  unfold declarator
  infer_instance

instance : Together C .before (declarators self) (declarators self') := by
  unfold declarators
  infer_instance

instance [Admits 0 φ] : Together C φ (declaration self) (declaration self') := by
  unfold declaration
  infer_instance

instance [Admits 0 φ] : Together C φ (interfaceDeclaration self) (interfaceDeclaration self') := by
  unfold interfaceDeclaration
  infer_instance

instance [Admits 0 φ] : Together C φ (typeAlias self) (typeAlias self') := by
  unfold typeAlias
  infer_instance

instance [Admits 0 φ] : Together C φ (condition self) (condition self') := by
  unfold condition
  infer_instance

instance [Admits 0 φ] : Together C φ (body self) (body self') := by
  unfold body
  infer_instance

instance [Admits 0 φ] : Together C φ (ifStatement self) (ifStatement self') := by
  unfold ifStatement
  infer_instance

instance [Admits 0 φ] {t t' : Token} [ht : Related L t t'] {left left' : Node}
    [hl : Related L left left'] {ofElements : Bool} {awaits awaits' : Bool}
    [Related L awaits awaits'] :
    Together C φ (loopOver self t left ofElements awaits)
      (loopOver self' t' left' ofElements awaits') := by
  unfold loopOver
  obtain ⟨none, none'⟩ | ⟨d, d', fault, related, same, shown, shown', some, some'⟩ :=
    loopHeadFault_cases ht hl
  · rw [none, none']
    infer_instance
  · rw [some, some']
    exact ⟨fun together => ⟨Related.nothing, C.complain together same shown shown' related⟩⟩

instance [Admits 0 φ] {t t' : Token} [Related L t t'] {left left' : Node} [Related L left left'] :
    Together C φ (loopClauses self t left) (loopClauses self' t' left') := by
  unfold loopClauses
  infer_instance

instance [Admits 1 φ] : Together C φ (loopInit self) (loopInit self') := by
  unfold loopInit
  refine .bind (k := fun t => ?_)
  rw [Token.kind_eq (h := t.related)]
  split <;> infer_instance

instance [Admits 0 φ] : Together C φ (forStatement self) (forStatement self') := by
  unfold forStatement
  infer_instance

instance [Admits 0 φ] : Together C φ (whileStatement self) (whileStatement self') := by
  unfold whileStatement
  infer_instance

instance [Admits 0 φ] : Together C φ (doWhile self) (doWhile self') := by
  unfold doWhile
  infer_instance

instance [Admits 0 φ] : Together C φ (returnStatement self) (returnStatement self') := by
  unfold returnStatement
  infer_instance

instance [Admits 0 φ] : Together C φ jump jump := by
  unfold jump
  infer_instance

instance [Admits 0 φ] : Together C φ (throwStatement self) (throwStatement self') := by
  unfold throwStatement
  infer_instance

instance [Admits 0 φ] : Together C φ (blockAhead self) (blockAhead self') := by
  unfold blockAhead
  infer_instance

instance [Admits 0 φ] : Together C φ (catchClause self) (catchClause self') := by
  unfold catchClause
  infer_instance

instance [Admits 0 φ] : Together C φ (tryStatement self) (tryStatement self') := by
  unfold tryStatement
  infer_instance

instance [Admits 2 φ] : Together C φ (caseItems self) (caseItems self') := by
  unfold caseItems
  infer_instance

instance [Admits 0 φ] {seenDefault : Bool} {t t' : Token} [h : Related L t t'] :
    Together C φ (caseTest self seenDefault t) (caseTest self' seenDefault t') := by
  unfold caseTest
  rw [Token.kind_eq (h := h)]
  split <;> infer_instance

instance [Admits 2 φ] {seenDefault : Bool} :
    Together C φ (cases self seenDefault) (cases self' seenDefault) := by
  unfold cases
  infer_instance

instance [Admits 0 φ] : Together C φ (switchStatement self) (switchStatement self') := by
  unfold switchStatement
  infer_instance

instance [Admits 0 φ] : Together C φ (labeledStatement self) (labeledStatement self') := by
  unfold labeledStatement
  infer_instance

instance [Admits 1 φ] : Together C φ (expressionStatement self) (expressionStatement self') := by
  unfold expressionStatement
  infer_instance

instance [Admits 1 φ] {t t' : Token} [Related L t t'] :
    Together C φ (wordStatement self t) (wordStatement self' t') := by
  unfold wordStatement
  infer_instance

instance [Admits 1 φ] : Together C φ (statement self) (statement self') := by
  unfold statement
  refine .bind (k := fun t => ?_)
  rw [Token.kind_eq (h := t.related)]
  split <;> infer_instance

/-- The rules of the grammar keep a coupling where a phrase begins, if the answers they ask for do. -/
theorem step_answer : Answer C (fun g φ => φ = g.phase) (step self) (step self') where
  goal := by
    rintro _ g free rfl
    cases g with
    | operators => cases free
    | typeOperators => cases free
    | typeName => cases free
    | _ =>
        dsimp only [Goal.phase, Goal.rank?, step]
        infer_instance
  operators := by
    rintro _ level left left' related rfl
    exact inferInstanceAs (Together C .before (operators self level left) (operators self' level left'))
  typeOperators := by
    rintro _ level left left' related rfl
    exact inferInstanceAs
      (Together C .before (typeOperators self level left) (typeOperators self' level left'))
  typeName := by
    rintro _ left left' related rfl
    exact inferInstanceAs (Together C .before (typeName self left) (typeName self' left'))

end

section
variable {L : Look} {C : Coupling L}

/-- A coupling that takes no notice of the phase. -/
def Coupling.Even (C : Coupling L) : Prop :=
  ∀ φ ψ s s', C.holds φ s s' → C.holds ψ s s'

theorem Together.inPhase {φ ψ : Phase} {α : Type} [Data α] {p p' : Parse α} (even : C.Even)
    (h : Together C φ p p') : Together C ψ p p' where
  run together :=
    have ⟨same, after⟩ := h.run (even _ _ _ _ together)
    ⟨same, even _ _ _ _ after⟩

/-- Such a coupling is kept, whatever is asked of the parser and however deep the nesting may go. -/
theorem run_answer (even : C.Even) (depth : Nat) :
    Answer C (fun _ _ => True) (run depth) (run depth) := by
  induction depth with
  | zero =>
      have stops (α : Type) [Data α] : Together C .moved
          (fun s => (none, s.complain s.current (.unexpected s.current)) : Parse α)
          (fun s => (none, s.complain s.current (.unexpected s.current))) := {
        run := fun together =>
          have := C.current together
          ⟨Related.nothing, Together.complain inferInstance inferInstance together⟩ }
      exact {
        goal := fun _ _ => (stops _).inPhase even
        operators := fun _ _ => (stops _).inPhase even
        typeOperators := fun _ _ => (stops _).inPhase even
        typeName := fun _ _ => (stops _).inPhase even }
  | succ depth ih =>
      have : Below C (run depth) (run depth) := {
        goal := fun free _ => ih.goal free trivial
        operators := fun related _ => ih.operators related trivial
        typeOperators := fun related _ => ih.typeOperators related trivial
        typeName := fun related _ => ih.typeName related trivial }
      have next : Answer C (fun g φ => φ = g.phase) (step (run depth)) (step (run depth)) :=
        step_answer
      exact {
        goal := fun free _ => (next.goal free rfl).inPhase even
        operators := fun related _ => (next.operators related rfl).inPhase even
        typeOperators := fun related _ => (next.typeOperators related rfl).inPhase even
        typeName := fun related _ => (next.typeName related rfl).inPhase even }

end

end CoScript.Parse
