import CoScript.Proofs.Parse.Motion
import CoScript.Proofs.Parse.Start

/-!
Failures are not silent. A phrase that cannot be read leaves a complaint behind, and no phrase takes a
complaint back.
-/
namespace CoScript.Parse

/-! Complaints. -/

theorem State.complaints_grow (s : State) (t : Token) (f : Fault) :
    s.complaints <+: (s.complain t f).complaints := by
  rw [complain]
  split
  · exact List.prefix_rfl
  · exact List.prefix_append _ _

/-- As long as the limit is not passed, a complaint makes the list longer. -/
theorem State.complaints_lt (s : State) (t : Token) (f : Fault)
    (room : s.complaints.length ≤ faultLimit) :
    s.complaints.length < (s.complain t f).complaints.length := by
  rw [complain, if_neg (Nat.not_lt.2 room)]
  simp

theorem Move.complaints_grow {s s' : State} (h : Move s s') : s.complaints <+: s'.complaints := by
  cases h with
  | advance | context => exact List.prefix_rfl
  | complain t f => exact s.complaints_grow t f
  | angle =>
      obtain ⟨-, taken⟩ | ⟨o, -, -, taken⟩ | missed := expectAngleClose_cases s
      · rw [taken]
        exact List.prefix_rfl
      · rw [taken]
        exact List.prefix_rfl
      · rw [missed]
        exact s.complaints_grow _ _

theorem Reaches.complaints_grow {s s' : State} (h : Reaches s s') : s.complaints <+: s'.complaints := by
  induction h with
  | refl => exact List.prefix_rfl
  | tail _ move ih => exact ih.trans move.complaints_grow

end CoScript.Parse

namespace CoScript

open Parse (State faultLimit)

/-- A parser that takes no complaint back, and that complains if it fails, as long as not too much was
complained about. -/
class Parse.Speaks {α : Type} (p : Parse α) : Prop where
  keeps (s : State) : s.complaints <+: (p s).2.complaints
  speaks {s : State} : s.complaints.length ≤ faultLimit → (p s).1 = none →
    s.complaints.length < (p s).2.complaints.length

namespace Parse

namespace Speaks

variable {α β : Type} {p q : Parse α} {f : α → Parse β}

/-- A parser that always answers. -/
theorem of_answers [h : p.Moves] (answers : ∀ s, (p s).1.isSome) : Speaks p where
  keeps s := (h.reaches s).complaints_grow
  speaks {s} _ failed := by
    have answer := answers s
    rw [failed] at answer
    contradiction

/-- A parser that always answers and goes nowhere. -/
theorem of_still (still : ∀ s, (p s).1.isSome ∧ (p s).2 = s) : Speaks p where
  keeps s := (congrArg State.complaints (still s).2).symm ▸ List.prefix_rfl
  speaks {s} _ failed := by
    have answer := (still s).1
    rw [failed] at answer
    contradiction

instance (a : α) : Speaks (pure a) := of_answers fun _ => rfl

instance : Speaks current := of_answers fun _ => rfl

instance : Speaks peek := of_answers fun _ => rfl

instance : Speaks peekLevel := of_answers fun _ => rfl

instance (k : Token.Kind) : Speaks (currentIs k) := of_answers fun _ => rfl

instance (k : Token.Kind) : Speaks (peekIs k) := of_answers fun _ => rfl

instance : Speaks advance := of_answers fun _ => rfl

instance : Speaks recover := of_answers fun _ => rfl

instance {p : Parse Bool} : Speaks (foresee p) := of_still fun _ => ⟨rfl, rfl⟩

instance (k : Token.Kind) : Speaks (skip k) := by
  apply of_answers
  intro s
  rw [skip]
  split <;> rfl

instance (t : Token) (fault : Fault) : Speaks (reject t fault : Parse α) where
  keeps s := s.complaints_grow t fault
  speaks {s} room _ := s.complaints_lt t fault room

instance (k : Token.Kind) : Speaks (expect k) where
  keeps s := (Moves.reaches (p := expect k) s).complaints_grow
  speaks {s} room failed := by
    rw [expect] at failed ⊢
    split at failed
    · contradiction
    · rw [if_neg ‹_›]
      exact s.complaints_lt _ _ room

instance : Speaks expectAngleClose where
  keeps s := (Moves.reaches (p := expectAngleClose) s).complaints_grow
  speaks {s} room failed := by
    obtain ⟨-, taken⟩ | ⟨o, -, -, taken⟩ | missed := expectAngleClose_cases s
    · rw [taken] at failed
      contradiction
    · rw [taken] at failed
      contradiction
    · rw [missed]
      exact s.complaints_lt _ _ room

/-- What goes on from a state where there is no room left is out of account: a complaint was recorded
since. -/
theorem since {s s₁ : State} [h : Speaks p] (before : s.complaints <+: s₁.complaints)
    (room : s.complaints.length ≤ faultLimit) (failed : (p s₁).1 = none) :
    s.complaints.length < (p s₁).2.complaints.length := by
  have later := (h.keeps s₁).length_le
  by_cases room' : s₁.complaints.length ≤ faultLimit
  · exact Nat.lt_of_le_of_lt before.length_le (h.speaks room' failed)
  · omega

instance bind [h : Speaks p] [k : ∀ a, Speaks (f a)] : Speaks (p >>= f) where
  keeps s := by
    have first := h.keeps s
    cases hp : p s with
    | mk r s₁ =>
        rw [hp] at first
        cases r with
        | none =>
            rw [bind_eq_none hp]
            exact first
        | some a =>
            rw [bind_eq hp]
            exact first.trans ((k a).keeps s₁)
  speaks {s} room failed := by
    have first := h.keeps s
    cases hp : p s with
    | mk r s₁ =>
        rw [hp] at first
        cases r with
        | none =>
            have spoken := h.speaks room (by rw [hp])
            rw [bind_eq_none hp]
            rwa [hp] at spoken
        | some a =>
            rw [bind_eq hp] at failed ⊢
            exact since first room failed

instance {c : Prop} [Decidable c] [Speaks p] [Speaks q] : Speaks (if c then p else q) := by
  split <;> infer_instance

instance [h : Speaks p] : Speaks (attempt p) where
  keeps := h.keeps
  speaks := nofun

/-- What is done about a broken phrase need not speak: the phrase did. -/
theorem watch_bind {f : Option α × Bool → Parse β} [h : Speaks p] (moves : ∀ r, (f (r, true)).Moves)
    (k : ∀ r, Speaks (f (r, false))) : Speaks (watch (attempt p) >>= f) := by
  have watched (s : State) : (watch (attempt p) >>= f) s =
      f ((p s).1, decide (s.complaints.length < (p s).2.complaints.length)) (p s).2 := rfl
  constructor
  · intro s
    rw [watched]
    refine (h.keeps s).trans ?_
    cases decide (s.complaints.length < (p s).2.complaints.length) with
    | true => exact ((moves _).reaches _).complaints_grow
    | false => exact (k _).keeps _
  · intro s room failed
    rw [watched] at failed ⊢
    by_cases broken : s.complaints.length < (p s).2.complaints.length
    · rw [decide_eq_true broken]
      exact Nat.lt_of_lt_of_le broken ((moves _).reaches _).complaints_grow.length_le
    · rw [decide_eq_false broken] at failed ⊢
      exact since (h.keeps s) room failed

instance [h : Speaks p] : Speaks (watch (attempt p)) where
  keeps := h.keeps
  speaks := nofun

instance [h : Speaks p] : Speaks (allowIn p) where
  keeps s := h.keeps { s with noIn := false }
  speaks {s} := h.speaks (s := { s with noIn := false })

instance [h : Speaks p] : Speaks (forbidIn p) where
  keeps s := h.keeps { s with noIn := true }
  speaks {s} := h.speaks (s := { s with noIn := true })

instance : Speaks statementEnds := by
  unfold statementEnds
  infer_instance

instance : Speaks finishStatement := by
  unfold finishStatement
  infer_instance

end Speaks

set_option synthInstance.maxSize 1000

section
variable {self : Recur} [∀ g, Speaks (self g)]

/-! Keys and bindings. -/

instance : Speaks (key self) := by
  unfold key
  infer_instance

instance : Speaks ( annotation self) := by
  unfold annotation
  infer_instance

instance : Speaks (initializer self) := by
  unfold initializer
  infer_instance

instance : Speaks (binding self) := by
  unfold binding
  refine .bind (k := fun t => ?_)
  split <;> infer_instance

instance : Speaks (bindingElement self) := by
  unfold bindingElement
  infer_instance

instance : Speaks (patternElements self) := by
  unfold patternElements
  infer_instance

instance : Speaks (patternProperty self) := by
  unfold patternProperty
  refine .bind (k := fun t => .bind (k := fun (key, computed) => .bind (k := fun explicit => ?_)))
  split
  · infer_instance
  · refine .bind (k := fun last => ?_)
    split <;> infer_instance

instance : Speaks (patternProperties self) := by
  unfold patternProperties
  infer_instance

instance : Speaks (parameter self) := by
  unfold parameter
  infer_instance

instance : Speaks (parameters self) := by
  unfold parameters
  infer_instance

instance : Speaks (parameterList self) := by
  unfold parameterList
  infer_instance

/-! Types. -/

instance (left : Node) : Speaks (typeName self left) := by
  unfold typeName
  infer_instance

instance : Speaks (typeArguments self) := by
  unfold typeArguments
  infer_instance

instance : Speaks (typeReference self) := by
  unfold typeReference
  infer_instance

instance : Speaks (parenthesizedType self) := by
  unfold parenthesizedType
  infer_instance

instance : Speaks (tupleElements self) := by
  unfold tupleElements
  infer_instance

instance : Speaks (typeOperand self) := by
  unfold typeOperand
  refine .bind (k := fun t => ?_)
  split <;> infer_instance

instance (level : Nat) : Speaks (typeExpression self level) := by
  unfold typeExpression
  infer_instance

instance (level : Nat) (left : Node) : Speaks (typeOperators self level left) := by
  unfold typeOperators
  refine .bind (k := fun ahead => ?_)
  split
  · infer_instance
  · split <;> infer_instance

instance : Speaks indexSignatureAhead := .of_still fun _ => ⟨rfl, rfl⟩

instance (t : Token) (readonly : Bool) : Speaks (indexSignature self t readonly) := by
  unfold indexSignature
  infer_instance

instance (t : Token) (readonly : Bool) : Speaks (keyedMember self t readonly) := by
  unfold keyedMember
  infer_instance

instance : Speaks (memberSignature self) := by
  unfold memberSignature
  infer_instance

instance : Speaks (members self) := by
  unfold members
  infer_instance

instance : Speaks (bases self) := by
  unfold bases
  infer_instance

/-! Functions. -/

instance : Speaks (block self) := by
  unfold block
  infer_instance

instance : Speaks (functionBody self) := by
  unfold functionBody
  infer_instance

instance (t : Token) (async : Bool) (name : Node) : Speaks (functionRest self t async name) := by
  unfold functionRest
  infer_instance

instance (async : Bool) : Speaks (functionExpression self async) := by
  unfold functionExpression
  infer_instance

instance (first : Token) (async : Bool) : Speaks (functionDeclaration self first async) := by
  unfold functionDeclaration
  infer_instance

instance (t : Token) (async : Bool) (ps : List Node) (r : Node) :
    Speaks (arrowBody self t async ps r) := by
  unfold arrowBody
  infer_instance

instance (async : Bool) : Speaks (arrowFunction self async) := by
  unfold arrowFunction
  infer_instance

instance (async : Bool) : Speaks (arrowOfName self async) := by
  unfold arrowOfName
  infer_instance

/-- The lookahead for an arrow goes back to where it started, whatever it met. -/
instance : Speaks (arrowAhead self) := by
  apply Speaks.of_still
  intro s
  rw [arrowAhead]
  dsimp only
  split
  · exact ⟨rfl, rfl⟩
  split
  · exact ⟨rfl, rfl⟩
  split
  · exact ⟨rfl, rfl⟩
  · exact ⟨rfl, rfl⟩

/-! Expressions. -/

instance : Speaks (listElement self) := by
  unfold listElement
  infer_instance

instance : Speaks (elements self) := by
  unfold elements
  infer_instance

instance : Speaks (arguments self) := by
  unfold arguments
  infer_instance

instance : Speaks (argumentList self) := by
  unfold argumentList
  infer_instance

instance (t : Token) (async : Bool) (key : Node) (computed : Bool) :
    Speaks (propertyRest self t async key computed) := by
  unfold propertyRest
  have shorthand (ahead : Token) : Speaks (match shorthand? key computed with
      | some (nameToken, name) =>
        return .property t key computed (.identifier nameToken name) true false
      | none => reject ahead (.expected (.operator .colon) ahead) : Parse Node) := by
    split <;> infer_instance
  infer_instance

instance : Speaks (property self) := by
  unfold property
  infer_instance

instance : Speaks (properties self) := by
  unfold properties
  infer_instance

instance (t : Token) : Speaks (regexLiteral t) := by
  unfold regexLiteral
  dsimp only
  split
  · infer_instance
  · split <;> infer_instance

/-- A substitution has a list of complaints of its own. One that fails has a first complaint, which is
reported at the template. -/
instance (t : Token) (source : Text) : Speaks (substitution self t source) where
  keeps s := by
    rw [substitution]
    dsimp only
    split
    · exact List.prefix_rfl
    · exact s.complaints_grow t _
  speaks {s} room failed := by
    rw [substitution] at failed ⊢
    dsimp only at failed ⊢
    split at failed
    · rename_i silent
      have empty : (State.start source).complaints = [] := State.complaints_start source
      have spoken := Speaks.speaks (p := self (.expression Level.lowest)) (s := .start source)
        (by rw [empty]; exact Nat.zero_le _) failed
      split at silent
      · rename_i asked
        have none := List.isEmpty_iff.1 (Bool.and_eq_true_iff.1 asked).1
        rw [none] at spoken
        exact absurd spoken (Nat.not_lt_zero _)
      · rw [silent] at spoken
        exact absurd spoken (Nat.not_lt_zero _)
    · exact s.complaints_lt t _ room

instance (t : Token) (sources : List Text) : Speaks (substitutions self t sources) := by
  induction sources with
  | nil =>
      unfold substitutions
      infer_instance
  | cons source sources ih =>
      unfold substitutions
      infer_instance

instance (t : Token) : Speaks (templateLiteral self t) := by
  unfold templateLiteral
  split <;> infer_instance

instance (t : Token) : Speaks (nameOperand self t) := by
  unfold nameOperand
  infer_instance

instance : Speaks (groupOperand self) := by
  unfold groupOperand
  infer_instance

instance (t : Token) : Speaks (newOperand self t) := by
  unfold newOperand
  infer_instance

instance (t : Token) : Speaks (unaryOperand self t) := by
  unfold unaryOperand
  infer_instance

instance (t : Token) : Speaks (updateOperand self t) := by
  unfold updateOperand
  infer_instance

instance : Speaks (operand self) := by
  unfold operand
  refine .bind (k := fun t => ?_)
  split <;> infer_instance

instance (level : Nat) : Speaks (expression self level) := by
  unfold expression
  infer_instance

instance (t : Token) (left : Node) : Speaks (assignmentRest self t left) := by
  unfold assignmentRest
  infer_instance

instance (t : Token) (c : Node) : Speaks (conditionalRest self t c) := by
  unfold conditionalRest
  infer_instance

instance (t : Token) (first : Node) : Speaks (sequenceRest self t first) := by
  unfold sequenceRest
  refine .bind (k := fun _ => .bind (k := fun next => ?_))
  split <;> infer_instance

instance (t : Token) (left : Node) : Speaks (assertionRest self t left) := by
  unfold assertionRest
  infer_instance

instance (t : Token) : Speaks (propertyName t) := by
  unfold propertyName
  infer_instance

instance (t : Token) (whole : Node) (optional : Bool) :
    Speaks (indexRest self t whole optional) := by
  unfold indexRest
  infer_instance

instance (t : Token) (whole : Node) : Speaks (optionalRest self t whole) := by
  unfold optionalRest
  infer_instance

instance (left : Node) : Speaks (operatorRest self left) := by
  unfold operatorRest
  refine .bind (k := fun t => ?_)
  dsimp only
  split <;> infer_instance

instance (level : Nat) (left : Node) : Speaks (operators self level left) := by
  unfold operators
  infer_instance

/-! Statements. -/

instance : Speaks (item self) := by
  unfold item
  refine .bind (k := fun r => ?_)
  infer_instance

instance : Speaks (programItems self) := by
  unfold programItems
  infer_instance

instance : Speaks (blockItems self) := by
  unfold blockItems
  infer_instance

instance : Speaks (declarator self) := by
  unfold declarator
  infer_instance

instance : Speaks (declarators self) := by
  unfold declarators
  infer_instance

instance : Speaks (declaration self) := by
  unfold declaration
  infer_instance

instance : Speaks (interfaceDeclaration self) := by
  unfold interfaceDeclaration
  infer_instance

instance : Speaks (typeAlias self) := by
  unfold typeAlias
  infer_instance

instance : Speaks (condition self) := by
  unfold condition
  infer_instance

instance : Speaks (body self) := by
  unfold body
  infer_instance

instance : Speaks (ifStatement self) := by
  unfold ifStatement
  infer_instance

instance (t : Token) (left : Node) (ofElements awaits : Bool) :
    Speaks (loopOver self t left ofElements awaits) := by
  unfold loopOver
  split <;> infer_instance

instance (t : Token) (init : Node) : Speaks (loopClauses self t init) := by
  unfold loopClauses
  refine .bind (k := fun ended => ?_)
  dsimp only
  split <;> infer_instance

instance : Speaks (loopInit self) := by
  unfold loopInit
  refine .bind (k := fun t => ?_)
  split <;> infer_instance

instance : Speaks (forStatement self) := by
  unfold forStatement
  infer_instance

instance : Speaks (whileStatement self) := by
  unfold whileStatement
  infer_instance

instance : Speaks (doWhile self) := by
  unfold doWhile
  infer_instance

instance : Speaks (returnStatement self) := by
  unfold returnStatement
  infer_instance

instance : Speaks jump := by
  unfold jump
  infer_instance

instance : Speaks (throwStatement self) := by
  unfold throwStatement
  infer_instance

instance : Speaks (blockAhead self) := by
  unfold blockAhead
  infer_instance

instance : Speaks (catchClause self) := by
  unfold catchClause
  infer_instance

instance : Speaks (tryStatement self) := by
  unfold tryStatement
  infer_instance

/-- An arm of a switch gives up without a word only where the statement that broke it was complained
about. -/
instance [∀ g, (self g).Moves] : Speaks (caseItems self) := by
  unfold caseItems
  apply Speaks.bind (k := fun t => ?_)
  split
  · infer_instance
  · apply Speaks.watch_bind
    · intro r
      dsimp only
      infer_instance
    · intro r
      dsimp only
      rw [if_neg Bool.false_ne_true]
      infer_instance

instance (seenDefault : Bool) (t : Token) : Speaks (caseTest self seenDefault t) := by
  unfold caseTest
  split <;> infer_instance

instance (seenDefault : Bool) : Speaks (cases self seenDefault) := by
  unfold cases
  infer_instance

instance : Speaks (switchStatement self) := by
  unfold switchStatement
  infer_instance

instance : Speaks (labeledStatement self) := by
  unfold labeledStatement
  infer_instance

instance : Speaks (expressionStatement self) := by
  unfold expressionStatement
  infer_instance

instance (t : Token) : Speaks (wordStatement self t) := by
  unfold wordStatement
  infer_instance

instance : Speaks (statement self) := by
  unfold statement
  refine .bind (k := fun t => ?_)
  split <;> infer_instance

instance step_speaks [∀ g, (self g).Moves] (g : Goal) : Speaks (step self g) := by
  cases g <;> (dsimp only [step]; infer_instance)

end

/-- Whatever is asked of the parser, and however deep the nesting may go. -/
instance run_speaks (depth : Nat) (g : Goal) : Speaks (run depth g) := by
  induction depth generalizing g with
  | zero =>
      exact ⟨fun s => s.complaints_grow _ _, fun {s} room _ => s.complaints_lt _ _ room⟩
  | succ depth ih => exact step_speaks g

/-- Where nothing is wrong at the end nothing was wrong before, and there is a result. -/
theorem Speaks.clean {α : Type} {p : Parse α} [h : Speaks p] {s s' : State} {r : Option α}
    (done : p s = (r, s')) (none : s'.complaints = []) : s.complaints = [] ∧ r.isSome := by
  have kept := h.keeps s
  rw [done, none] at kept
  have before : s.complaints = [] := List.prefix_nil.1 kept
  refine ⟨before, ?_⟩
  cases r with
  | some a => rfl
  | none =>
      have spoken := h.speaks (s := s) (by simp [before]) (by rw [done])
      simp [done, none] at spoken

theorem run_clean {depth : Nat} {g : Goal} {s s' : State} {r : Option g.Result}
    (done : run depth g s = (r, s')) (none : s'.complaints = []) : s.complaints = [] ∧ r.isSome :=
  Speaks.clean done none

end Parse

end CoScript
