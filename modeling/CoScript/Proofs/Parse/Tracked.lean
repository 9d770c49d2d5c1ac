import CoScript.Proofs.Parse.Braces
import CoScript.Proofs.Parse.Track

/-!
The rules of the grammar on two scripts that begin with the same tokens: a phrase that is read in one of
them without complaints is read in the other one, too, and ends at the same place.
-/
namespace CoScript.Parse

open Track Footing
open Token.Tells (isWord_of_not_isFlat)
open Agrees (of_kind of_flat of_clear of_rejects to_weaker of_inner of_inner_before peek_bind_over
  peek_bind_stop peek_bind_meets peek_bind_flat)

/-- Answers to goals at the end of the input: expressions, types, bindings and statements are missed. -/
class Bare (self : Recur) : Prop extends Missing self self where
  statement : Idle true true (self .statement) (self .statement)

attribute [instance] Bare.statement

/-- Answers to goals that get two runs from where the phrase starts to where it ends. Types and lists of
parameters are looked ahead for, so for them it does not matter which script is over first. -/
class Agreeing (self : Recur) : Prop where
  expression (T : Track) [T.Strict] (level n : Nat) [NeZero level] :
    Agrees T (on n) (past true n) (self (.expression level))
  operators (T : Track) [T.Strict] (level n : Nat) (left : Node) [NeZero level] :
    Agrees T (past true n) (past true n) (self (.operators level left))
  elements (T : Track) [T.Strict] (n : Nat) :
    Agrees T (before false (n + 1)) (past true n) (self .elements)
  arguments (T : Track) [T.Strict] (n : Nat) :
    Agrees T (before false (n + 1)) (past false (n + 1)) (self .arguments)
  properties (T : Track) [T.Strict] (n : Nat) :
    Agrees T (past false (n + 1)) (past true n) (self .properties)
  statement (T : Track) [T.Strict] (n : Nat) : Agrees T (on n) (past true n) (self .statement)
  programItems (T : Track) [T.Deep] (n : Nat) : Agrees T (on n) (on n) (self .programItems)
  blockItems (T : Track) [T.Strict] (n : Nat) : Agrees T (on (n + 1)) (on (n + 1)) (self .blockItems)
  caseItems (T : Track) [T.Strict] (n : Nat) : Agrees T (on (n + 1)) (on (n + 1)) (self .caseItems)
  cases (T : Track) [T.Strict] (n : Nat) (seenDefault : Bool) :
    Agrees T (on (n + 1)) (past true n) (self (.cases seenDefault))
  declarators (T : Track) [T.Strict] (n : Nat) :
    Agrees T (past false n) (past true n) (self .declarators)
  binding (T : Track) [T.Strict] (n : Nat) : Agrees T (on n) (past true n) (self .binding)
  patternElements (T : Track) [T.Strict] (n : Nat) :
    Agrees T (before false (n + 1)) (past true n) (self .patternElements)
  patternProperties (T : Track) [T.Strict] (n : Nat) :
    Agrees T (past false (n + 1)) (past true n) (self .patternProperties)
  parameters (T : Track) [T.Deep] (n : Nat) :
    Agrees T (before false n) (before false n) (self .parameters)
  type (T : Track) (level n : Nat) : Agrees T (on n) (past true n) (self (.type level))
  typeOperators (T : Track) (level n : Nat) (left : Node) :
    Agrees T (past true n) (past true n) (self (.typeOperators level left))
  typeName (T : Track) (n : Nat) (left : Node) :
    Agrees T (past true n) (past true n) (self (.typeName left))
  typeArguments (T : Track) (n : Nat) :
    Agrees T (before false n) (past true n) (self .typeArguments)
  tupleElements (T : Track) (n : Nat) :
    Agrees T (past false (n + 1)) (past true n) (self .tupleElements)
  members (T : Track) (n : Nat) : Agrees T (past false (n + 1)) (past true n) (self .members)
  bases (T : Track) [T.Strict] (n : Nat) : Agrees T (past false n) (past true n) (self .bases)

attribute [instance] Agreeing.expression Agreeing.operators Agreeing.elements Agreeing.arguments
  Agreeing.properties Agreeing.statement Agreeing.programItems Agreeing.blockItems Agreeing.caseItems
  Agreeing.cases Agreeing.declarators Agreeing.binding Agreeing.patternElements
  Agreeing.patternProperties Agreeing.parameters Agreeing.type Agreeing.typeOperators
  Agreeing.typeName Agreeing.typeArguments Agreeing.tupleElements Agreeing.members Agreeing.bases

set_option synthInstance.maxSize 1000

section
variable {self : Recur} [∀ g, (self g).Moves] [∀ g, Speaks (self g)] [Bare self] [Agreeing self]
  {T : Track} {n : Nat}

/-! Keys and bindings. -/

section
variable [T.Strict]

instance : Agrees T (on n) (past true n) (key self) := by
  unfold key
  infer_instance

end

instance : Agrees T (past true n) (past true n) ( annotation self) := by
  unfold annotation
  infer_instance

instance : Agrees T (past false n) (past false n) ( annotation self) := by
  have type : Agrees T (on n) (past false n) (self (.type Level.lowest)) := to_weaker (m := past true n)
  unfold annotation
  infer_instance

section
variable [T.Strict]

instance : Agrees T (past true n) (past true n) (initializer self) := by
  unfold initializer
  infer_instance

instance : Agrees T (past false n) (past false n) (initializer self) := by
  have value : Agrees T (on n) (past false n) (self (.expression Level.comma)) :=
    to_weaker (m := past true n)
  unfold initializer
  infer_instance

instance : Agrees T (on n) (past true n) (binding self) := by
  unfold binding
  refine Agrees.current_bind (h := fun t => ?_)
  split
  · exact of_kind ‹_›
  · exact of_kind ‹_›
  · exact of_kind ‹_›
  · exact of_rejects

instance : Agrees T (on n) (past true n) (bindingElement self) := by
  unfold bindingElement
  infer_instance

instance : Agrees T (before false (n + 1)) (past true n) (patternElements self) := by
  unfold patternElements
  infer_instance

instance : Agrees T (on n) (past true n) (patternProperty self) := by
  unfold patternProperty
  have shorthand (t last : Token) (key : Node) (computed : Bool) : Agrees T (past true n) (past true n)
      (match shorthand? key computed, last.is .identifier with
      | some (nameToken, name), true => do
        let target := Node.identifier nameToken name
        if ← skip (.operator .assign) then
          let assign ← current
          advance
          let default ← self (.expression Level.comma)
          return .patternProperty t key computed (.assignmentPattern assign target default) true
        else return .patternProperty t key computed target true
      | _, _ => do
        let t ← peek
        reject t (.expected (.operator .colon) t) : Parse Node) := by
    split
    · infer_instance
    · exact of_rejects
  infer_instance

instance : Agrees T (past false (n + 1)) (past true n) (patternProperties self) := by
  unfold patternProperties
  infer_instance

end

section
variable [T.Deep]

instance : Agrees T (on n) (past false n) (parameter self) := by
  unfold parameter
  infer_instance

instance : Agrees T (before false n) (before false n) (parameters self) := by
  unfold parameters
  infer_instance

end

instance : Agrees T (before false (n + 1)) (past true n) (parameterList self) := by
  have inside : Agrees T (before false (n + 1)) (before false (n + 1)) (self .parameters) := of_inner_before
  unfold parameterList
  infer_instance

/-! Types. -/

instance (left : Node) : Agrees T (past true n) (past true n) (typeName self left) := by
  unfold typeName
  infer_instance

instance : Agrees T (before false n) (past true n) (typeArguments self) := by
  unfold typeArguments
  infer_instance

/-- Where the scripts part, no point is ahead. -/
instance : Agrees T (past true n) (past true n) (typeReference self) := by
  unfold typeReference
  refine Agrees.bind (m := past true n) (r := fun t => peek_bind_over (fun ahead ahead' breaks breaks' => ?_)
    fun ahead breaks => ?_)
  · rw [breaks.is_inner rfl, breaks'.is_inner rfl]
  · rw [breaks.is_inner rfl]
    infer_instance

instance : Agrees T (before false (n + 1)) (past true n) (parenthesizedType self) := by
  unfold parenthesizedType
  infer_instance

instance : Agrees T (past false (n + 1)) (past true n) (tupleElements self) := by
  unfold tupleElements
  infer_instance

instance : Agrees T (on n) (past true n) (typeOperand self) := by
  unfold typeOperand
  refine Agrees.current_bind (h := fun t => ?_)
  split
  all_goals first
    | exact of_rejects
    | exact of_kind ‹_›

instance (level : Nat) : Agrees T (on n) (past true n) (typeExpression self level) := by
  unfold typeExpression
  infer_instance

/-- Where the scripts part, no type goes on. -/
instance (level : Nat) (left : Node) :
    Agrees T (past true n) (past true n) (typeOperators self level left) := by
  unfold typeOperators
  refine peek_bind_stop (b := left) (h := fun ahead => ?_) fun s breaks => ?_
  · split
    · infer_instance
    split
    · exact .bind (m := meets ahead n) (r := fun _ => of_kind ‹_›)
    · exact .bind (m := meets ahead n) (r := fun _ => of_kind ‹_›)
    · split
      · infer_instance
      · exact .bind (m := meets ahead n) (r := fun _ => of_kind ‹_›)
    · infer_instance
  · have begins := breaks.begins
    generalize s.peek.kind = k at begins ⊢
    unfold Token.Kind.begins at begins
    split at begins
    all_goals first
      | contradiction
      | split <;> rfl

instance [T.Strict] : Agrees T (past false n) (past true n) (bases self) := by
  unfold bases
  infer_instance

/-! Members. -/

section
variable [deep : T.Deep]

instance (t : Token) (readonly : Bool) : Agrees T (on n) (past false n) (keyedMember self t readonly) := by
  unfold keyedMember
  infer_instance

instance (t param : Token) (readonly : Bool) :
    Agrees T (on (n + 1)) (past false n) (indexTypes self t param readonly) := by
  unfold indexTypes
  infer_instance

/-- Behind a bracket the scripts have enough in common to see whether an index signature starts there. -/
instance (t first : Token) (readonly : Bool) : Agrees T (meets first n) (past false n) (do
    let isIndex ← indexSignatureAhead
    if first.is (.operator .bracketOpen) && isIndex then indexSignature self t readonly
    else if first.is (.operator .parenOpen) || first.is (.keyword .new) then
      reject first (.unsupported .callSignature)
    else keyedMember self t readonly) where
  agrees {s s'} s₁ a done clean stands := by
    have seen (s : State) : indexSignatureAhead s =
        (some (s.peek.is .identifier && s.advance.peek.is (.operator .colon)), s) := rfl
    rw [bind_eq (seen s)] at done
    rw [bind_eq (seen s')]
    have behind (bracket : first.is (.operator .bracketOpen)) : T.holds true (n + 1) s s' := by
      refine deep.deep (stands.2.2 _ (Token.Kind.enclose_of_opens ?_ n))
      rw [stands.1, eq_of_beq bracket]
    have further (bracket : first.is (.operator .bracketOpen)) (name : s.peek.is .identifier) :
        T.holds true (n + 1) s.advance s'.advance := by
      refine deep.deep (T.advance (behind bracket) (Token.Kind.enclose_of_isFlat ?_ _))
      rw [eq_of_beq name]
    split at done
    · rename_i index
      simp only [Bool.and_eq_true] at index
      obtain ⟨bracket, name, colon⟩ := index
      have last : T.holds true (n + 1) s.advance.advance s'.advance.advance := by
        refine deep.deep (T.advance (further bracket name) (Token.Kind.enclose_of_isFlat ?_ _))
        rw [eq_of_beq colon]
      have read : indexTypes self t s.advance.current readonly s.advance.advance.advance = (some a, s₁) := done
      have types : Agrees T (on (n + 1)) (past false n) (indexTypes self t s.advance.current readonly) :=
        inferInstance
      rw [if_pos (by simp [bracket, ← T.peek (behind bracket), name, ← T.peek (further bracket name), colon])]
      have current : s.advance.current = s'.advance.current := T.peek (behind bracket)
      rw [current] at read types
      have onward := types.agrees read clean (stands_advance last)
      exact onward
    · rename_i none
      have none' : ¬(first.is (.operator .bracketOpen) &&
          (s'.peek.is .identifier && s'.advance.peek.is (.operator .colon))) = true := by
        simp only [Bool.and_eq_true, not_and] at none ⊢
        intro bracket name
        rw [← T.peek (behind bracket)] at name
        rw [← T.peek (further bracket name)]
        exact none bracket name
      rw [if_neg none']
      have other : Agrees T (meets first n) (past false n)
          (if first.is (.operator .parenOpen) || first.is (.keyword .new) then
            reject first (.unsupported .callSignature)
          else keyedMember self t readonly : Parse Node) := inferInstance
      exact other.agrees done clean stands

instance : Agrees T (on n) (past false n) (memberSignature self) := by
  unfold memberSignature
  refine Agrees.current_bind (h := fun t => peek_bind_meets (fun _ ahead => ?_) (fun other ahead ahead' => ?_)
    fun other ahead => ?_)
  · infer_instance
  · simp only [isWord_of_not_isFlat other, Bool.false_and]
  · simp only [isWord_of_not_isFlat other, Bool.false_and]
    infer_instance

end

instance : Agrees T (past false (n + 1)) (past true n) (members self) := by
  have inside : Agrees T (on (n + 1)) (past false (n + 1)) (memberSignature self) := of_inner
  unfold members
  infer_instance

/-! Functions. -/

omit [∀ g, (self g).Moves] [Bare self] in
/-- A type that is followed by an arrow in one run is followed by it in the other one. -/
theorem typeBeforeArrow {r r' : State} (stands : T.Stands (on n) r r') :
    ((self (.type Level.lowest) r).2.complaints.length == 0 &&
      (self (.type Level.lowest) r).2.peek.is (.operator .arrow)) = true →
    ((self (.type Level.lowest) r').2.complaints.length == 0 &&
      (self (.type Level.lowest) r').2.peek.is (.operator .arrow)) = true := by
  rw [Bool.and_eq_true, beq_iff_eq, List.length_eq_zero_iff]
  rintro ⟨clean, arrow⟩
  obtain ⟨type, read⟩ := Option.isSome_iff_exists.1
    (Speaks.clean (p := self (.type Level.lowest)) (Prod.eta _).symm clean).2
  have whole : self (.type Level.lowest) r = (some type, (self (.type Level.lowest) r).2) := Prod.ext read rfl
  have type : Agrees T (on n) (past true n) (self (.type Level.lowest)) := inferInstance
  obtain ⟨⟨s₁', read', there⟩, -⟩ := type.agrees whole clean stands
  have more : T.holds true n (self (.type Level.lowest) r).2 s₁' := by
    refine (T.seam there.1).resolve_right fun parted => ?_
    rw [parted.left.is_inner rfl] at arrow
    contradiction
  rw [read', there.agree.clean', ← T.peek more, arrow]
  rfl

omit [∀ g, (self g).Moves] [Bare self] in
/-- The bracket is closed within what the scripts have in common, and so is the type behind it. -/
theorem arrowAhead_agrees {t : Token} (paren : t.kind = .operator .parenOpen) :
    Agrees T (meets t n) (meets t n) (arrowAhead self) := by
  refine Agrees.of_looks (fun s => (arrowAhead self s).1.getD false) (fun s => ?_) fun {s s'} stands => ?_
  · rw [arrowAhead_eq]
    repeat' split
    all_goals rfl
  have opened : T.holds false (n + 1) s s' :=
    stands.2.2 _ (Token.Kind.enclose_of_opens (by rw [stands.1, paren]) n)
  obtain rfl | ⟨r, r', found, found', there⟩ := T.closing opened (stands.1 ▸ paren)
  · rfl
  rw [arrowAhead_eq, arrowAhead_eq, found, found', stands.agree.clean, stands.agree.clean']
  dsimp only
  obtain more | parted := T.seam there
  · rw [← T.peek more]
    split
    · rfl
    split
    · rfl
    · rename_i colon
      have colon : r.peek.is (.operator .colon) := by simpa using colon
      have behind := Agrees.stands_taken (m := before false n) more colon
      have inside := stands_advance behind.1
      exact Bool.eq_iff_iff.2 ⟨typeBeforeArrow inside, typeBeforeArrow inside.swap⟩
  · rw [parted.left.is_inner rfl, parted.left.is_inner rfl, parted.right.is_inner rfl,
      parted.right.is_inner rfl]
    rfl

section
variable [T.Strict]

instance : Agrees T (before false (n + 1)) (past true n) (block self) := by
  unfold block
  infer_instance

instance : Agrees T (before false (n + 1)) (past true n) (functionBody self) := by
  unfold functionBody
  infer_instance

instance (t : Token) (async : Bool) (name : Node) :
    Agrees T (before false (n + 1)) (past true n) (functionRest self t async name) := by
  unfold functionRest
  infer_instance

instance (async : Bool) : Agrees T (past true n) (past true n) (functionExpression self async) := by
  unfold functionExpression
  infer_instance

instance (first : Token) (async : Bool) :
    Agrees T (past true n) (past true n) (functionDeclaration self first async) := by
  unfold functionDeclaration
  infer_instance

instance (t : Token) (async : Bool) (ps : List Node) (r : Node) :
    Agrees T (before false n) (past true n) (arrowBody self t async ps r) := by
  unfold arrowBody
  infer_instance

instance (async : Bool) : Agrees T (before false (n + 1)) (past true n) (arrowFunction self async) := by
  unfold arrowFunction
  infer_instance

instance (async : Bool) : Agrees T (clear false n) (past true n) (arrowOfName self async) := by
  unfold arrowOfName
  infer_instance

/-! Expressions. -/

instance : Agrees T (on n) (past true n) (listElement self) := by
  unfold listElement
  infer_instance

instance : Agrees T (before false (n + 1)) (past true n) (elements self) := by
  unfold elements
  infer_instance

instance : Agrees T (before false (n + 1)) (past false (n + 1)) (arguments self) := by
  unfold arguments
  infer_instance

instance : Agrees T (before false (n + 1)) (past true n) (argumentList self) := by
  unfold argumentList
  infer_instance

instance (t : Token) (async : Bool) (key : Node) (computed : Bool) :
    Agrees T (past true (n + 1)) (past true (n + 1)) (propertyRest self t async key computed) := by
  unfold propertyRest
  have shorthand (ahead : Token) : Agrees T (faces true ahead (n + 1)) (past true (n + 1))
      (match shorthand? key computed with
      | some (nameToken, name) =>
        return .property t key computed (.identifier nameToken name) true false
      | none => reject ahead (.expected (.operator .colon) ahead) : Parse Node) := by
    split
    · infer_instance
    · exact of_rejects
  infer_instance

instance : Agrees T (on (n + 1)) (past true (n + 1)) (property self) := by
  unfold property
  have named (t : Token) : Agrees T (meets t (n + 1)) (past true (n + 1)) (do
      let ahead ← peek
      let modified := startsKey ahead
      if modified && (t.isWord "get" || t.isWord "set") then reject t (.unsupportedAccessor t)
      let async := modified && t.isWord "async"
      if async then advance
      let (key, computed) ← key self
      propertyRest self t async key computed : Parse Node) := by
    refine peek_bind_meets (fun _ ahead => ?_) (fun other ahead ahead' => ?_) fun other ahead => ?_
    · infer_instance
    · simp only [isWord_of_not_isFlat other, Bool.or_self, Bool.and_false]
    · simp only [isWord_of_not_isFlat other, Bool.or_self, Bool.and_false]
      infer_instance
  infer_instance

instance : Agrees T (past false (n + 1)) (past true n) (properties self) := by
  unfold properties
  infer_instance

omit [∀ g, (self g).Moves] [∀ g, Speaks (self g)] [Bare self] [Agreeing self] in
instance (t : Token) : Repeats (regexLiteral t) := by
  unfold regexLiteral
  dsimp only
  split
  · infer_instance
  · split <;> infer_instance

omit [∀ g, (self g).Moves] [Bare self] [Agreeing self] in
/-- A substitution is read in a state of its own. -/
instance (t : Token) (source : Text) : Repeats (substitution self t source) where
  repeats := by
    intro s s₁ a done clean
    simp only [substitution] at done ⊢
    split at done
    · rename_i none
      obtain ⟨found, rfl⟩ := Prod.mk.inj done
      exact ⟨rfl, fun s' => congrArg (·, s') found⟩
    · cases done

omit [∀ g, (self g).Moves] [Bare self] [Agreeing self] in
instance (t : Token) (sources : List Text) : Repeats (substitutions self t sources) := by
  induction sources with
  | nil =>
      unfold substitutions
      infer_instance
  | cons source sources ih =>
      unfold substitutions
      infer_instance

omit [∀ g, (self g).Moves] [Bare self] [Agreeing self] in
instance (t : Token) : Repeats (templateLiteral self t) := by
  unfold templateLiteral
  split <;> infer_instance

omit [∀ g, (self g).Moves] [Bare self] in
/-- The word `async` in front of a parameter, which an arrow may follow. -/
theorem asyncName_agrees {t ahead : Token} (name : ahead.kind = .identifier) :
    Agrees T (faces true ahead n) (past true n) (do
      let isArrow ← foresee do
        advance
        peekIs (.operator .arrow)
      if isArrow then
        advance
        arrowOfName self true
      else return .identifier t t.literal) where
  agrees {s s'} s₁ a done clean stands := by
    obtain ⟨more, final, same⟩ := stands
    have seen (s : State) : foresee (do advance; peekIs (.operator .arrow)) s =
        (some (s.advance.peek.is (.operator .arrow)), s) := by
      simp [foresee, advance, peekIs, bind, State.advance]
    have behind : T.holds false n s.advance s'.advance :=
      T.advance more (Token.Kind.enclose_of_isFlat (by rw [same, name]) n)
    rw [bind_eq (seen s)] at done
    rw [bind_eq (seen s')]
    split at done
    · rename_i arrow
      have more' : T.holds true n s.advance s'.advance := by
        refine (T.seam behind).resolve_right fun parted => ?_
        rw [parted.left.is_inner rfl] at arrow
        contradiction
      have read : arrowOfName self true s.advance = (some a, s₁) := done
      have kind : s.advance.peek.kind = .operator .arrow := eq_of_beq arrow
      rw [← T.peek more', if_pos arrow]
      have rest : Agrees T (clear false n) (past true n) (arrowOfName self true) := inferInstance
      have onward := rest.agrees read clean ⟨more', by rw [kind], by rw [kind]⟩
      exact onward
    · rename_i none
      have none' : ¬s'.advance.peek.is (.operator .arrow) = true := by
        obtain more' | parted := T.seam behind
        · rwa [← T.peek more']
        · rw [parted.right.is_inner rfl]
          exact Bool.false_ne_true
      rw [if_neg none']
      cases done
      exact ⟨⟨s', rfl, T.weaken more, final⟩, id⟩

omit [∀ g, (self g).Moves] [Bare self] in
/-- The word `async` in front of a parameter list, which an arrow may follow. -/
theorem asyncCall_agrees {t ahead : Token} (paren : ahead.kind = .operator .parenOpen) :
    Agrees T (faces true ahead n) (past true n) (do
      let isArrow ← foresee do
        advance
        arrowAhead self
      if isArrow then
        advance
        arrowFunction self true
      else return .identifier t t.literal) := by
  have foreseen (T : Track) : Agrees T (faces true ahead n) (meets ahead n) (do
      advance
      arrowAhead self : Parse Bool) :=
    .bind (m := meets ahead n) (r := fun _ => arrowAhead_agrees paren)
  have taken : Agrees T (faces true ahead n) (past true n) (do
      advance
      arrowFunction self true : Parse Node) :=
    .bind (m := meets ahead n) (r := fun _ => of_kind paren)
  infer_instance

/-- Where the scripts part, a name stands for itself. -/
instance (t : Token) : Agrees T (past true n) (past true n) (nameOperand self t) := by
  unfold nameOperand
  refine peek_bind_stop (b := .identifier t t.literal) (h := fun ahead => ?_) fun s breaks => ?_
  · have named : Agrees T (faces true ahead n) (past true n) (if ahead.is .identifier then do
          let isArrow ← foresee do
            advance
            peekIs (.operator .arrow)
          if isArrow then
            advance
            arrowOfName self true
          else return .identifier t t.literal
        else if ahead.is (.operator .parenOpen) then do
          let isArrow ← foresee do
            advance
            arrowAhead self
          if isArrow then
            advance
            arrowFunction self true
          else return .identifier t t.literal
        else return .identifier t t.literal : Parse Node) := by
      split
      · exact asyncName_agrees (eq_of_beq ‹_›)
      split
      · exact asyncCall_agrees (eq_of_beq ‹_›)
      · infer_instance
    infer_instance
  · obtain ended | apart := breaks.apart
    · have missed : skip (.keyword .function) s = (some false, s) := by
        rw [skip, Token.is, ended]
        rfl
      have nothing (k : Token.Kind) [k.Solid] : ¬s.peek.is k = true :=
        Bool.eq_false_iff.1 (EndToken.not_is ⟨s.peek, ended⟩ k)
      rw [if_neg fun both => nothing (.operator .arrow) (Bool.and_eq_true_iff.1 both).1]
      split
      · rw [bind_eq missed, if_neg Bool.false_ne_true, if_neg (nothing .identifier),
          if_neg (nothing (.operator .parenOpen))]
        rfl
      · rfl
    · rw [apart, Bool.not_true, Bool.and_false, Bool.and_false]
      rfl

instance (t : Token) : Agrees T (past true n) (past true n) (newOperand self t) := by
  unfold newOperand
  infer_instance

instance (t : Token) : Agrees T (past false n) (past true n) (unaryOperand self t) := by
  unfold unaryOperand
  infer_instance

instance (t : Token) : Agrees T (past false n) (past true n) (updateOperand self t) := by
  unfold updateOperand
  infer_instance

omit [∀ g, (self g).Moves] [Bare self] in
theorem groupOperand_agrees {t : Token} (paren : t.kind = .operator .parenOpen) :
    Agrees T (meets t n) (past true n) (groupOperand self) := by
  unfold groupOperand
  refine Agrees.bind (h := arrowAhead_agrees paren) (r := fun isArrow => of_kind paren)

instance : Agrees T (on n) (past true n) (operand self) := by
  unfold operand
  refine Agrees.current_bind (h := fun t => ?_)
  split
  all_goals first
    | exact of_rejects
    | exact groupOperand_agrees ‹_›
    | exact of_kind ‹_›

instance (level : Nat) [NeZero level] : Agrees T (on n) (past true n) (expression self level) := by
  unfold expression
  infer_instance

instance (t : Token) (left : Node) : Agrees T (past false n) (past true n) (assignmentRest self t left) := by
  unfold assignmentRest
  infer_instance

instance (t : Token) (c : Node) : Agrees T (before false n) (past true n) (conditionalRest self t c) := by
  unfold conditionalRest
  infer_instance

instance (t : Token) (first : Node) : Agrees T (before false n) (past true n) (sequenceRest self t first) := by
  unfold sequenceRest
  have longer (next : Node) : Agrees T (past true n) (past true n) (match first with
      | .sequence t expressions => return .sequence t (expressions ++ [next])
      | _ => return .sequence t [first, next] : Parse Node) := by
    split <;> infer_instance
  infer_instance

instance (t : Token) (left : Node) : Agrees T (past true n) (past true n) (assertionRest self t left) := by
  unfold assertionRest
  infer_instance

omit [∀ g, (self g).Moves] [∀ g, Speaks (self g)] [Bare self] [Agreeing self] [T.Strict] in
instance (t : Token) : Agrees T (before false n) (past true n) (propertyName t) := by
  unfold propertyName
  infer_instance

instance (t : Token) (whole : Node) (optional : Bool) :
    Agrees T (before false (n + 1)) (past true n) (indexRest self t whole optional) := by
  unfold indexRest
  infer_instance

instance (t : Token) (whole : Node) : Agrees T (before false n) (past true n) (optionalRest self t whole) := by
  unfold optionalRest
  infer_instance

omit [∀ g, (self g).Moves] in
theorem operatorRest_agrees {t : Token} (left : Node) (operator : Level.lowest < Level.ofKind t.kind) :
    Agrees T (meets t n) (past true n) (operatorRest self left) := by
  have speaks : Speaks (operatorRest self left) := inferInstance
  unfold operatorRest at speaks ⊢
  refine Agrees.current_bind_meets (h := ?_)
  dsimp only
  split
  case h_14 =>
    have flat := Agrees.isFlat_of_level operator ‹_› ‹_›
    exact of_flat flat
  all_goals exact of_kind ‹_›

instance (level : Nat) (left : Node) [NeZero level] :
    Agrees T (past true n) (past true n) (operators self level left) := by
  unfold operators
  have goes (t : Token) (operator : Level.lowest < Level.ofKind t.kind) :
      Agrees T (faces true t n) (past true n) (do
        advance
        let left ← operatorRest self left
        self (.operators level left) : Parse Node) :=
    have rest : Agrees T (meets t n) (past true n) (operatorRest self left) :=
      operatorRest_agrees left operator
    .bind (m := meets t n) (r := fun _ => inferInstance)
  exact Agrees.level_bind goes

/-! Statements. -/

omit [T.Strict] in
instance [T.Deep] : Agrees T (on n) (on n) (programItems self) := by
  unfold programItems item
  infer_instance

instance : Agrees T (on (n + 1)) (on (n + 1)) (blockItems self) := by
  unfold blockItems item
  infer_instance

/-- Where the scripts part, nothing is definite. -/
instance : Agrees T (on n) (past true n) (declarator self) := by
  unfold declarator
  refine Agrees.current_bind (h := fun t => .bind (m := past true n) (r := fun target => ?_))
  refine peek_bind_over (fun ahead ahead' breaks breaks' => ?_) fun ahead breaks => ?_
  · rw [breaks.is_and (.operator .bang), breaks'.is_and (.operator .bang)]
  · rw [breaks.is_and (.operator .bang)]
    infer_instance

instance : Agrees T (past false n) (past true n) (declarators self) := by
  unfold declarators
  infer_instance

instance : Agrees T (past true n) (past true n) (declaration self) := by
  unfold declaration
  infer_instance

instance : Agrees T (clear true n) (past true n) (interfaceDeclaration self) := by
  unfold interfaceDeclaration
  infer_instance

instance : Agrees T (clear true n) (past true n) (typeAlias self) := by
  unfold typeAlias
  infer_instance

instance : Agrees T (past false n) (past true n) (condition self) := by
  unfold condition
  infer_instance

instance : Agrees T (past false n) (past true n) (body self) := by
  unfold body
  infer_instance

instance : Agrees T (past true n) (past true n) (ifStatement self) := by
  unfold ifStatement
  infer_instance

instance (t : Token) (left : Node) (ofElements awaits : Bool) :
    Agrees T (clear true (n + 1)) (past true n) (loopOver self t left ofElements awaits) := by
  unfold loopOver
  split
  · exact of_rejects
  · infer_instance

instance (t : Token) (init : Node) :
    Agrees T (past true (n + 1)) (past true n) (loopClauses self t init) := by
  unfold loopClauses
  infer_instance

instance : Agrees T (on n) (past true n) (loopInit self) := by
  unfold loopInit
  refine Agrees.current_bind (h := fun t => ?_)
  split
  all_goals first
    | exact of_rejects
    | exact of_kind ‹_›
    | infer_instance

instance : Agrees T (past true n) (past true n) (forStatement self) := by
  unfold forStatement
  infer_instance

instance : Agrees T (past true n) (past true n) (whileStatement self) := by
  unfold whileStatement
  infer_instance

instance : Agrees T (past true n) (past true n) (doWhile self) := by
  unfold doWhile
  infer_instance

instance : Agrees T (past true n) (past true n) (returnStatement self) := by
  unfold returnStatement
  infer_instance

omit [∀ g, (self g).Moves] [∀ g, Speaks (self g)] [Bare self] [Agreeing self] [T.Strict] in
/-- Where the scripts part, there is no label. -/
instance : Agrees T (past true n) (past true n) jump := by
  unfold jump
  refine Agrees.bind (m := past true n) (r := fun t => ?_)
  refine peek_bind_over (fun ahead ahead' breaks breaks' => ?_) fun ahead breaks => ?_
  · simp only [breaks.is_and .identifier, breaks'.is_and .identifier, Bool.false_eq_true, if_false]
  · simp only [breaks.is_and .identifier, Bool.false_eq_true, if_false]
    infer_instance

instance : Agrees T (past true n) (past true n) (throwStatement self) := by
  unfold throwStatement
  infer_instance

instance : Agrees T (past true n) (past true n) (blockAhead self) := by
  unfold blockAhead
  infer_instance

instance : Agrees T (past true n) (past true n) (catchClause self) := by
  unfold catchClause
  infer_instance

instance : Agrees T (past true n) (past true n) (tryStatement self) := by
  unfold tryStatement
  infer_instance

instance : Agrees T (on (n + 1)) (on (n + 1)) (caseItems self) := by
  unfold caseItems
  infer_instance

instance (seenDefault : Bool) (t : Token) :
    Agrees T (meets t n) (past true n) (caseTest self seenDefault t) := by
  unfold caseTest
  split
  all_goals first
    | exact of_rejects
    | exact of_kind ‹_›

instance (seenDefault : Bool) : Agrees T (on (n + 1)) (past true n) (cases self seenDefault) := by
  unfold cases
  infer_instance

instance : Agrees T (past true n) (past true n) (switchStatement self) := by
  unfold switchStatement
  infer_instance

instance : Agrees T (clear false n) (past true n) (labeledStatement self) := by
  unfold labeledStatement
  infer_instance

instance : Agrees T (on n) (past true n) (expressionStatement self) := by
  unfold expressionStatement
  infer_instance

omit [∀ g, (self g).Moves] [∀ g, (self g).Speaks] in
/-- Where the scripts part, a word is an expression. -/
theorem wordStatement_agrees {t : Token} (word : t.kind = .identifier) :
    Agrees T (meets t n) (past true n) (wordStatement self t) := by
  unfold wordStatement
  refine peek_bind_flat (by rw [word]) (q := expressionStatement self) fun ahead breaks => ?_
  obtain ended | apart := breaks.apart
  · have nothing (k : Token.Kind) [k.Solid] : ahead.is k = false := EndToken.not_is ⟨ahead, ended⟩ k
    simp only [nothing (.operator .colon), nothing (.keyword .function), nothing .identifier,
      Bool.and_false, Bool.false_eq_true, if_false]
  · simp only [breaks.is_inner (k := .operator .colon) rfl, apart, Bool.not_true, Bool.and_false,
      Bool.false_and, Bool.false_eq_true, if_false]

instance : Agrees T (on n) (past true n) (statement self) := by
  unfold statement
  refine Agrees.current_bind (h := fun t => ?_)
  split
  all_goals first
    | exact of_rejects
    | exact wordStatement_agrees ‹_›
    | exact of_kind ‹_›
    | infer_instance

end

/-- The rules keep two runs together. -/
instance agreeing_step : Agreeing (step self) where
  expression T _ level n _ := inferInstanceAs (Agrees T (on n) (past true n) (expression self level))
  operators T _ level n left _ :=
    inferInstanceAs (Agrees T (past true n) (past true n) (operators self level left))
  elements T _ n := inferInstanceAs (Agrees T (before false (n + 1)) (past true n) (elements self))
  arguments T _ n :=
    inferInstanceAs (Agrees T (before false (n + 1)) (past false (n + 1)) (arguments self))
  properties T _ n := inferInstanceAs (Agrees T (past false (n + 1)) (past true n) (properties self))
  statement T _ n := inferInstanceAs (Agrees T (on n) (past true n) (statement self))
  programItems T _ n := inferInstanceAs (Agrees T (on n) (on n) (programItems self))
  blockItems T _ n := inferInstanceAs (Agrees T (on (n + 1)) (on (n + 1)) (blockItems self))
  caseItems T _ n := inferInstanceAs (Agrees T (on (n + 1)) (on (n + 1)) (caseItems self))
  cases T _ n seenDefault :=
    inferInstanceAs (Agrees T (on (n + 1)) (past true n) (cases self seenDefault))
  declarators T _ n := inferInstanceAs (Agrees T (past false n) (past true n) (declarators self))
  binding T _ n := inferInstanceAs (Agrees T (on n) (past true n) (binding self))
  patternElements T _ n :=
    inferInstanceAs (Agrees T (before false (n + 1)) (past true n) (patternElements self))
  patternProperties T _ n :=
    inferInstanceAs (Agrees T (past false (n + 1)) (past true n) (patternProperties self))
  parameters T _ n := inferInstanceAs (Agrees T (before false n) (before false n) (parameters self))
  type T level n := inferInstanceAs (Agrees T (on n) (past true n) (typeExpression self level))
  typeOperators T level n left :=
    inferInstanceAs (Agrees T (past true n) (past true n) (typeOperators self level left))
  typeName T n left := inferInstanceAs (Agrees T (past true n) (past true n) (typeName self left))
  typeArguments T n := inferInstanceAs (Agrees T (before false n) (past true n) (typeArguments self))
  tupleElements T n :=
    inferInstanceAs (Agrees T (past false (n + 1)) (past true n) (tupleElements self))
  members T n := inferInstanceAs (Agrees T (past false (n + 1)) (past true n) (members self))
  bases T _ n := inferInstanceAs (Agrees T (past false n) (past true n) (bases self))

end

/-! Runs. -/

instance bare_step {self : Recur} [Bare self] : Bare (step self) where
  expression level := inferInstanceAs (Idle true true (expression self level) (expression self level))
  type level := inferInstanceAs (Idle true true (typeExpression self level) (typeExpression self level))
  binding := inferInstanceAs (Idle true true (binding self) (binding self))
  statement := by
    show Idle true true (statement self) (statement self)
    unfold statement
    refine Idle.current_bind (h := fun t => ?_)
    rw [t.2]
    unfold expressionStatement
    infer_instance

instance run_bare (depth : Nat) : Bare (run depth) := by
  induction depth with
  | zero =>
      have fails (g : Goal) : Idle true true (run 0 g) (run 0 g) := ⟨fun _ _ => ⟨rfl, fun _ => rfl⟩⟩
      exact { toMissing := ⟨fun _ => fails _, fun _ => fails _, fails _⟩, statement := fails _ }
  | succ depth ih => exact bare_step

/-- However deep the nesting may go, what two scripts have in common is read alike. -/
instance run_agreeing (depth : Nat) : Agreeing (run depth) := by
  induction depth with
  | zero =>
      -- Without room for nesting nothing is read.
      constructor
      all_goals
        intros
        exact ⟨nofun, run_speaks 0 _⟩
  | succ depth ih => exact agreeing_step

end CoScript.Parse
