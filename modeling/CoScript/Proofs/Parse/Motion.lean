import Mathlib.Logic.Relation
import CoScript.Parse.Program

/-!
How a parser gets from one state to another. All that a rule of the grammar can do to the state is a
sequence of a few moves, whether it succeeds or fails. What the moves preserve therefore holds after
any phrase, and no rule has to be looked at again to see that.
-/
namespace CoScript.Parse

/-- A single move of a parser. -/
inductive Move : State → State → Prop
  | advance (s : State) : Move s s.advance
  | complain (s : State) (t : Token) (f : Fault) : Move s (s.complain t f)
  | context (s : State) (noIn : Bool) : Move s { s with noIn := noIn }
  /-- Takes the closing angle bracket ahead, which may leave a part of the token. -/
  | angle (s : State) : Move s (expectAngleClose s).2

/-- A state that moves lead to. -/
def Reaches : State → State → Prop :=
  Relation.ReflTransGen Move

theorem Reaches.refl (s : State) : Reaches s s :=
  Relation.ReflTransGen.refl

theorem Reaches.trans {s s' s'' : State} (h : Reaches s s') (k : Reaches s' s'') : Reaches s s'' :=
  Relation.ReflTransGen.trans h k

theorem Reaches.of {s s' : State} (h : Move s s') : Reaches s s' :=
  .single h

/-- What every move preserves is preserved. -/
theorem Reaches.preserves {I : State → Prop} (step : ∀ s s', Move s s' → I s → I s')
    {s s' : State} (h : Reaches s s') (holds : I s) : I s' := by
  induction h with
  | refl => exact holds
  | tail _ move ih => exact step _ _ move ih

/-! Sequences. -/

section
variable {α β : Type} {p : Parse α} {f : α → Parse β} {s s' : State}

theorem bind_eq {a : α} (h : p s = (some a, s')) : (p >>= f) s = f a s' := by
  simp only [bind, h]

theorem bind_eq_none (h : p s = (none, s')) : (p >>= f) s = (none, s') := by
  simp only [bind, h]

/-- A sequence succeeds if both parts do. -/
theorem bind_cases {b : β} (h : (p >>= f) s = (some b, s')) :
    ∃ a s₁, p s = (some a, s₁) ∧ f a s₁ = (some b, s') := by
  simp only [bind] at h
  cases hp : p s with
  | mk r s₁ =>
      rw [hp] at h
      cases r with
      | none => cases h
      | some a => exact ⟨a, s₁, rfl, h⟩

end

/-- A parser that does nothing to the state but moves. -/
class Moves {α : Type} (p : Parse α) : Prop where
  reaches : ∀ s, Reaches s (p s).2

namespace Moves

variable {α β : Type} {p q : Parse α}

instance (a : α) : Moves (pure a) := ⟨.refl⟩

instance : Moves current := ⟨.refl⟩

instance : Moves peek := ⟨.refl⟩

instance : Moves peekLevel := ⟨.refl⟩

instance (k : Token.Kind) : Moves (currentIs k) := ⟨.refl⟩

instance (k : Token.Kind) : Moves (peekIs k) := ⟨.refl⟩

instance : Moves advance := ⟨fun s => .of (.advance s)⟩

instance (t : Token) (f : Fault) : Moves (reject t f : Parse α) := ⟨fun s => .of (.complain s t f)⟩

instance : Moves (giveUp : Parse α) := ⟨.refl⟩

instance : Moves expectAngleClose := ⟨fun s => .of (.angle s)⟩

instance bind {f : α → Parse β} [h : p.Moves] [k : ∀ a, (f a).Moves] : (p >>= f).Moves := by
  constructor
  intro s
  have first := h.reaches s
  change Reaches s (match p s with | (some a, s) => f a s | (none, s) => (none, s)).2
  cases hp : p s with
  | mk r s₁ =>
      rw [hp] at first
      cases r with
      | none => exact first
      | some a => exact first.trans ((k a).reaches s₁)

instance {c : Prop} [Decidable c] [p.Moves] [q.Moves] : Moves (if c then p else q) := by
  split <;> infer_instance

instance (k : Token.Kind) : Moves (skip k) := by
  constructor
  intro s
  simp only [skip]
  split
  · exact .of (.advance s)
  · exact .refl s

instance (k : Token.Kind) : Moves (expect k) := by
  constructor
  intro s
  simp only [expect]
  split
  · exact .of (.advance s)
  · exact .of (.complain s _ _)

instance [h : p.Moves] : Moves (attempt p) := ⟨h.reaches⟩

instance [h : p.Moves] : Moves (watch p) := by
  constructor
  intro s
  have first := h.reaches s
  rw [watch]
  split
  all_goals
    rename_i hp
    rwa [hp] at first

/-- A parser that runs in another context and then in a third one. -/
theorem inContext [h : p.Moves] (s : State) (before after : Bool) :
    Reaches s { (p { s with noIn := before }).2 with noIn := after } :=
  ((Reaches.of (.context s before)).trans (h.reaches _)).trans (.of (.context _ after))

instance [p.Moves] : Moves (allowIn p) := ⟨fun s => inContext s false s.noIn⟩

instance [p.Moves] : Moves (forbidIn p) := ⟨fun s => inContext s true false⟩

instance {p : Parse Bool} : Moves (foresee p) := ⟨.refl⟩

instance : Moves recover := by
  constructor
  intro s
  suffices skips : ∀ upcoming (s : State), s.upcoming = upcoming → Reaches s
      { s with
        current := (recoverFrom s.current upcoming).1
        upcoming := (recoverFrom s.current upcoming).2 } by
    exact skips s.upcoming s rfl
  intro upcoming
  induction upcoming with
  | nil =>
      intro s ended
      rw [recoverFrom, ← ended]
      exact .refl s
  | cons t rest ih =>
      intro s ahead
      rw [recoverFrom]
      split
      · rw [← ahead]
        exact .refl s
      · have moved := Reaches.of (.advance s)
        simp only [State.advance, State.peek, ahead, List.headD_cons, List.tail_cons] at moved
        exact moved.trans (ih { s with current := t, upcoming := rest } rfl)

instance : Moves statementEnds := by
  unfold statementEnds
  infer_instance

instance : Moves finishStatement := by
  unfold finishStatement
  infer_instance

end Moves

set_option synthInstance.maxSize 1000

section
variable {self : Recur} [∀ g, (self g).Moves]

/-! Keys and bindings. -/

instance : Moves (key self) := by
  unfold key
  infer_instance

instance : Moves ( annotation self) := by
  unfold annotation
  infer_instance

instance : Moves (initializer self) := by
  unfold initializer
  infer_instance

instance : Moves (binding self) := by
  unfold binding
  refine .bind (k := fun t => ?_)
  split <;> infer_instance

instance : Moves (bindingElement self) := by
  unfold bindingElement
  infer_instance

instance : Moves (patternElements self) := by
  unfold patternElements
  infer_instance

instance : Moves (patternProperty self) := by
  unfold patternProperty
  refine .bind (k := fun t => .bind (k := fun (key, computed) => .bind (k := fun explicit => ?_)))
  split
  · infer_instance
  · refine .bind (k := fun last => ?_)
    split <;> infer_instance

instance : Moves (patternProperties self) := by
  unfold patternProperties
  infer_instance

instance : Moves (parameter self) := by
  unfold parameter
  infer_instance

instance : Moves (parameters self) := by
  unfold parameters
  infer_instance

instance : Moves (parameterList self) := by
  unfold parameterList
  infer_instance

/-! Types. -/

instance (left : Node) : Moves (typeName self left) := by
  unfold typeName
  infer_instance

instance : Moves (typeArguments self) := by
  unfold typeArguments
  infer_instance

instance : Moves (typeReference self) := by
  unfold typeReference
  infer_instance

instance : Moves (parenthesizedType self) := by
  unfold parenthesizedType
  infer_instance

instance : Moves (tupleElements self) := by
  unfold tupleElements
  infer_instance

instance : Moves (typeOperand self) := by
  unfold typeOperand
  refine .bind (k := fun t => ?_)
  split <;> infer_instance

instance (level : Nat) : Moves (typeExpression self level) := by
  unfold typeExpression
  infer_instance

instance (level : Nat) (left : Node) : Moves (typeOperators self level left) := by
  unfold typeOperators
  refine .bind (k := fun ahead => ?_)
  split
  · infer_instance
  · split <;> infer_instance

instance : Moves indexSignatureAhead := ⟨.refl⟩

instance (t : Token) (readonly : Bool) : Moves (indexSignature self t readonly) := by
  unfold indexSignature
  infer_instance

instance (t : Token) (readonly : Bool) : Moves (keyedMember self t readonly) := by
  unfold keyedMember
  infer_instance

instance : Moves (memberSignature self) := by
  unfold memberSignature
  infer_instance

instance : Moves (members self) := by
  unfold members
  infer_instance

instance : Moves (bases self) := by
  unfold bases
  infer_instance

/-! Functions. -/

instance : Moves (block self) := by
  unfold block
  infer_instance

instance : Moves (functionBody self) := by
  unfold functionBody
  infer_instance

instance (t : Token) (async : Bool) (name : Node) : Moves (functionRest self t async name) := by
  unfold functionRest
  infer_instance

instance (async : Bool) : Moves (functionExpression self async) := by
  unfold functionExpression
  infer_instance

instance (first : Token) (async : Bool) : Moves (functionDeclaration self first async) := by
  unfold functionDeclaration
  infer_instance

instance (t : Token) (async : Bool) (ps : List Node) (r : Node) :
    Moves (arrowBody self t async ps r) := by
  unfold arrowBody
  infer_instance

instance (async : Bool) : Moves (arrowFunction self async) := by
  unfold arrowFunction
  infer_instance

instance (async : Bool) : Moves (arrowOfName self async) := by
  unfold arrowOfName
  infer_instance

omit [∀ g, (self g).Moves] in
instance : Moves (arrowAhead self) := by
  constructor
  intro s
  simp only [arrowAhead]
  split
  · exact .refl s
  split
  · exact .refl s
  split
  · exact .refl s
  · exact .refl s

/-! Expressions. -/

instance : Moves (listElement self) := by
  unfold listElement
  infer_instance

instance : Moves (elements self) := by
  unfold elements
  infer_instance

instance : Moves (arguments self) := by
  unfold arguments
  infer_instance

instance : Moves (argumentList self) := by
  unfold argumentList
  infer_instance

instance (t : Token) (async : Bool) (key : Node) (computed : Bool) :
    Moves (propertyRest self t async key computed) := by
  unfold propertyRest
  have shorthand (ahead : Token) : Moves (match shorthand? key computed with
      | some (nameToken, name) =>
        return .property t key computed (.identifier nameToken name) true false
      | none => reject ahead (.expected (.operator .colon) ahead) : Parse Node) := by
    split <;> infer_instance
  infer_instance

instance : Moves (property self) := by
  unfold property
  infer_instance

instance : Moves (properties self) := by
  unfold properties
  infer_instance

instance (t : Token) : Moves (regexLiteral t) := by
  unfold regexLiteral
  dsimp only
  split
  · infer_instance
  · split <;> infer_instance

omit [∀ g, (self g).Moves] in
instance (t : Token) (source : Text) : Moves (substitution self t source) := by
  constructor
  intro s
  simp only [substitution]
  split
  · exact .refl s
  · exact .of (.complain s t _)

omit [∀ g, (self g).Moves] in
instance (t : Token) (sources : List Text) : Moves (substitutions self t sources) := by
  induction sources with
  | nil =>
      unfold substitutions
      infer_instance
  | cons source sources ih =>
      unfold substitutions
      infer_instance

omit [∀ g, (self g).Moves] in
instance (t : Token) : Moves (templateLiteral self t) := by
  unfold templateLiteral
  split <;> infer_instance

instance (t : Token) : Moves (nameOperand self t) := by
  unfold nameOperand
  infer_instance

instance : Moves (groupOperand self) := by
  unfold groupOperand
  infer_instance

instance (t : Token) : Moves (newOperand self t) := by
  unfold newOperand
  infer_instance

instance (t : Token) : Moves (unaryOperand self t) := by
  unfold unaryOperand
  infer_instance

instance (t : Token) : Moves (updateOperand self t) := by
  unfold updateOperand
  infer_instance

instance : Moves (operand self) := by
  unfold operand
  refine .bind (k := fun t => ?_)
  split <;> infer_instance

instance (level : Nat) : Moves (expression self level) := by
  unfold expression
  infer_instance

instance (t : Token) (left : Node) : Moves (assignmentRest self t left) := by
  unfold assignmentRest
  infer_instance

instance (t : Token) (c : Node) : Moves (conditionalRest self t c) := by
  unfold conditionalRest
  infer_instance

instance (t : Token) (first : Node) : Moves (sequenceRest self t first) := by
  unfold sequenceRest
  refine .bind (k := fun _ => .bind (k := fun next => ?_))
  split <;> infer_instance

instance (t : Token) (left : Node) : Moves (assertionRest self t left) := by
  unfold assertionRest
  infer_instance

instance (t : Token) : Moves (propertyName t) := by
  unfold propertyName
  infer_instance

instance (t : Token) (whole : Node) (optional : Bool) :
    Moves (indexRest self t whole optional) := by
  unfold indexRest
  infer_instance

instance (t : Token) (whole : Node) : Moves (optionalRest self t whole) := by
  unfold optionalRest
  infer_instance

instance (left : Node) : Moves (operatorRest self left) := by
  unfold operatorRest
  refine .bind (k := fun t => ?_)
  dsimp only
  split <;> infer_instance

instance (level : Nat) (left : Node) : Moves (operators self level left) := by
  unfold operators
  infer_instance

/-! Statements. -/

instance : Moves (item self) := by
  unfold item
  refine .bind (k := fun r => ?_)
  infer_instance

instance : Moves (programItems self) := by
  unfold programItems
  infer_instance

instance : Moves (blockItems self) := by
  unfold blockItems
  infer_instance

instance : Moves (declarator self) := by
  unfold declarator
  infer_instance

instance : Moves (declarators self) := by
  unfold declarators
  infer_instance

instance : Moves (declaration self) := by
  unfold declaration
  infer_instance

instance : Moves (interfaceDeclaration self) := by
  unfold interfaceDeclaration
  infer_instance

instance : Moves (typeAlias self) := by
  unfold typeAlias
  infer_instance

instance : Moves (condition self) := by
  unfold condition
  infer_instance

instance : Moves (body self) := by
  unfold body
  infer_instance

instance : Moves (ifStatement self) := by
  unfold ifStatement
  infer_instance

instance (t : Token) (left : Node) (ofElements awaits : Bool) :
    Moves (loopOver self t left ofElements awaits) := by
  unfold loopOver
  split <;> infer_instance

instance (t : Token) (init : Node) : Moves (loopClauses self t init) := by
  unfold loopClauses
  refine .bind (k := fun ended => ?_)
  dsimp only
  split <;> infer_instance

instance : Moves (loopInit self) := by
  unfold loopInit
  refine .bind (k := fun t => ?_)
  split <;> infer_instance

instance : Moves (forStatement self) := by
  unfold forStatement
  infer_instance

instance : Moves (whileStatement self) := by
  unfold whileStatement
  infer_instance

instance : Moves (doWhile self) := by
  unfold doWhile
  infer_instance

instance : Moves (returnStatement self) := by
  unfold returnStatement
  infer_instance

instance : Moves jump := by
  unfold jump
  infer_instance

instance : Moves (throwStatement self) := by
  unfold throwStatement
  infer_instance

instance : Moves (blockAhead self) := by
  unfold blockAhead
  infer_instance

instance : Moves (catchClause self) := by
  unfold catchClause
  infer_instance

instance : Moves (tryStatement self) := by
  unfold tryStatement
  infer_instance

instance : Moves (caseItems self) := by
  unfold caseItems
  infer_instance

instance (seenDefault : Bool) (t : Token) : Moves (caseTest self seenDefault t) := by
  unfold caseTest
  split <;> infer_instance

instance (seenDefault : Bool) : Moves (cases self seenDefault) := by
  unfold cases
  infer_instance

instance : Moves (switchStatement self) := by
  unfold switchStatement
  infer_instance

instance : Moves (labeledStatement self) := by
  unfold labeledStatement
  infer_instance

instance : Moves (expressionStatement self) := by
  unfold expressionStatement
  infer_instance

instance (t : Token) : Moves (wordStatement self t) := by
  unfold wordStatement
  infer_instance

instance : Moves (statement self) := by
  unfold statement
  refine .bind (k := fun t => ?_)
  split <;> infer_instance

instance step_moves (g : Goal) : Moves (step self g) := by
  cases g <;> (dsimp only [step]; infer_instance)

end

/-- Whatever is asked of the parser, and however deep the nesting may go. -/
instance run_moves (depth : Nat) (g : Goal) : Moves (run depth g) := by
  induction depth generalizing g with
  | zero => exact ⟨fun s => .of (.complain s s.current (.unexpected s.current))⟩
  | succ depth ih => exact step_moves g

/-! Closing angle brackets. -/

/-- The operators that start with a closing angle bracket and go on. -/
def angled : List Operator :=
  [.shiftRight, .shiftRightZero, .greaterEqual, .shiftRightAssign, .shiftRightZeroAssign]

/-- A token that starts with a closing angle bracket, cut down to it. -/
def angle (t : Token) : Token :=
  { t with
    kind := .operator .greater, literal := txt ">", raw := txt ">", stop := t.start + 1 }

/-- What a token that starts with a closing angle bracket leaves when that is taken off. -/
def afterAngle (t : Token) : Token :=
  { t with
    kind := match Operator.ofText? (t.literal.drop 1) with
      | some o => .operator o
      | none => .illegal
    literal := t.literal.drop 1, raw := t.literal.drop 1, column := t.column + 1,
    start := t.start + 1, newlineBefore := false }

/-- The state after a closing angle bracket that was stuck together with what follows. -/
def State.splitAngle (s : State) : State :=
  { s with current := angle s.peek, upcoming := afterAngle s.peek :: s.upcoming.tail }

/-- A closing angle bracket is taken as it is or split off, or it is missed. -/
theorem expectAngleClose_cases (s : State) :
    (s.peek.kind = .operator .greater ∧ expectAngleClose s = (some (), s.advance)) ∨
    (∃ o ∈ angled, s.peek.kind = .operator o ∧ expectAngleClose s = (some (), s.splitAngle)) ∨
    expectAngleClose s = (none, s.complain s.peek (.expected (.operator .greater) s.peek)) := by
  simp only [expectAngleClose]
  split
  · exact .inl ⟨‹_›, rfl⟩
  · exact .inr (.inl ⟨.shiftRight, by decide, ‹_›, rfl⟩)
  · exact .inr (.inl ⟨.shiftRightZero, by decide, ‹_›, rfl⟩)
  · exact .inr (.inl ⟨.greaterEqual, by decide, ‹_›, rfl⟩)
  · exact .inr (.inl ⟨.shiftRightAssign, by decide, ‹_›, rfl⟩)
  · exact .inr (.inl ⟨.shiftRightZeroAssign, by decide, ‹_›, rfl⟩)
  · exact .inr (.inr rfl)

/-! Moves never go back. -/

theorem State.complain_eq (s : State) (t : Token) (f : Fault) :
    ∃ complaints ≠ [], s.complain t f = { s with complaints := complaints } := by
  rw [State.complain]
  split
  · rename_i full
    exact ⟨s.complaints, fun none => by simp [none] at full, rfl⟩
  · exact ⟨_, by simp, rfl⟩

/-- A move keeps the end token, leaves no more tokens ahead than before, and takes no complaint
back. -/
theorem Move.onward {s s' : State} (h : Move s s') (ended : s.ending.kind = .eof) :
    s'.ending = s.ending ∧ s'.upcoming.length ≤ s.upcoming.length ∧
      (s'.complaints = [] → s.complaints = []) := by
  have complained (t : Token) (f : Fault) : (s.complain t f).ending = s.ending ∧
      (s.complain t f).upcoming.length ≤ s.upcoming.length ∧
      ((s.complain t f).complaints = [] → s.complaints = []) := by
    obtain ⟨complaints, some, same⟩ := s.complain_eq t f
    rw [same]
    exact ⟨rfl, Nat.le_refl _, fun none => absurd none some⟩
  cases h with
  | advance => exact ⟨rfl, by simp [State.advance], id⟩
  | context => exact ⟨rfl, Nat.le_refl _, id⟩
  | complain t f => exact complained t f
  | angle =>
      obtain ⟨-, taken⟩ | ⟨o, -, kind, taken⟩ | missed := expectAngleClose_cases s
      · rw [taken]
        exact ⟨rfl, by simp [State.advance], id⟩
      · rw [taken]
        refine ⟨rfl, ?_, id⟩
        cases ahead : s.upcoming with
        | nil => simp [State.peek, ahead, ended] at kind
        | cons u us => simp [State.splitAngle, ahead]
      · rw [missed]
        exact complained _ _

theorem Reaches.onward {s s' : State} (h : Reaches s s') (ended : s.ending.kind = .eof) :
    s'.ending = s.ending ∧ s'.upcoming.length ≤ s.upcoming.length ∧
      (s'.complaints = [] → s.complaints = []) := by
  refine h.preserves (I := fun s' => s'.ending = s.ending ∧
    s'.upcoming.length ≤ s.upcoming.length ∧ (s'.complaints = [] → s.complaints = []))
    (fun s₁ s₂ move ⟨same, fewer, clean⟩ => ?_) ⟨rfl, Nat.le_refl _, id⟩
  obtain ⟨same', fewer', clean'⟩ := move.onward (same ▸ ended)
  exact ⟨same'.trans same, Nat.le_trans fewer' fewer, clean ∘ clean'⟩

/-! Arrows. The parser makes up no token but what is left of one that starts with an angle bracket, so
it meets no arrow unless there was one from the beginning. -/

/-- A token that is no arrow, and is written as its operator if it is one. -/
def NoArrow (t : Token) : Prop :=
  t.kind ≠ .operator .arrow ∧ ∀ o, t.kind = .operator o → t.literal = txt o.spelling

/-- No arrow is ahead. -/
structure State.NoArrow (s : State) : Prop where
  ending : Parse.NoArrow s.ending
  upcoming : ∀ t ∈ s.upcoming, Parse.NoArrow t

theorem State.NoArrow.peek {s : State} (h : s.NoArrow) : Parse.NoArrow s.peek := by
  rw [State.peek]
  cases ahead : s.upcoming with
  | nil => exact h.ending
  | cons t rest => exact h.upcoming t (by simp [ahead])

/-- What is left of a token after an angle bracket was taken off is no arrow. -/
theorem noArrow_rest {t : Token} (h : t.literal ≠ txt "=>")
    (kind : t.kind = match Operator.ofText? t.literal with
      | some o => .operator o
      | none => .illegal) : NoArrow t := by
  cases known : Operator.ofText? t.literal with
  | none =>
      rw [known] at kind
      exact ⟨by simp [kind], by simp [kind]⟩
  | some o =>
      have spelled : txt o.spelling = t.literal := by
        simpa using List.find?_some known
      rw [known] at kind
      refine ⟨?_, ?_⟩
      · intro arrow
        obtain rfl := Token.Kind.operator.inj (kind.symm.trans arrow)
        exact h spelled.symm
      · intro o' ho'
        obtain rfl := Token.Kind.operator.inj (kind.symm.trans ho')
        exact spelled.symm

theorem State.NoArrow.complain {s : State} (h : s.NoArrow) (t : Token) (f : Fault) :
    (s.complain t f).NoArrow := by
  rw [State.complain]
  split
  · exact h
  · exact ⟨h.ending, h.upcoming⟩

theorem Move.noArrow {s s' : State} (h : Move s s') (free : s.NoArrow) : s'.NoArrow := by
  cases h with
  | advance => exact ⟨free.ending, fun t ht => free.upcoming t (List.mem_of_mem_tail ht)⟩
  | complain t f => exact free.complain t f
  | context => exact ⟨free.ending, free.upcoming⟩
  | angle =>
      have rest : ∀ t ∈ s.upcoming.tail, Parse.NoArrow t :=
        fun t ht => free.upcoming t (List.mem_of_mem_tail ht)
      obtain ⟨-, taken⟩ | ⟨o, ho, kind, taken⟩ | missed := expectAngleClose_cases s
      · rw [taken]
        exact ⟨free.ending, rest⟩
      · rw [taken]
        have left : ∀ o ∈ angled, (txt o.spelling).drop 1 ≠ txt "=>" := by decide
        have noArrow : (afterAngle s.peek).literal ≠ txt "=>" := by
          rw [afterAngle, free.peek.2 o kind]
          exact left o ho
        exact ⟨free.ending, List.forall_mem_cons.2 ⟨noArrow_rest noArrow rfl, rest⟩⟩
      · rw [missed]
        exact free.complain _ _

theorem Reaches.noArrow {s s' : State} (h : Reaches s s') (free : s.NoArrow) : s'.NoArrow :=
  h.preserves (fun _ _ => Move.noArrow) free

theorem closing_suffix {depth : Nat} {current last : Token} {upcoming rest : List Token}
    (h : closing? depth current upcoming = some (last, rest)) : rest <:+ upcoming := by
  induction upcoming generalizing depth current with
  | nil =>
      rw [closing?] at h
      split at h
      · cases h
        exact List.suffix_rfl
      · contradiction
  | cons t upcoming ih =>
      rw [closing?] at h
      split at h
      · contradiction
      split at h
      · cases h
        exact List.suffix_rfl
      · exact (ih h).trans (List.suffix_cons t upcoming)

/-- Without an arrow ahead a parenthesis opens no parameters. -/
theorem arrowAhead_of_noArrow {self : Recur} [∀ g, (self g).Moves] {s : State} (h : s.NoArrow) :
    arrowAhead self s = (some false, s) := by
  have noArrow {s : State} (h : s.NoArrow) : s.peek.is (.operator .arrow) = false := by
    simpa [Token.is] using h.peek.1
  rw [arrowAhead]
  split
  · rfl
  rename_i last rest found
  have free : State.NoArrow { s with current := last, upcoming := rest } :=
    ⟨h.ending, fun t ht => h.upcoming t ((closing_suffix found).mem ht)⟩
  dsimp only
  rw [noArrow free]
  simp only [Bool.false_eq_true, if_false]
  split
  · rfl
  · have moved := Moves.reaches (p := self (.type Level.lowest))
      (State.advance (State.advance { s with current := last, upcoming := rest }))
    have after := moved.noArrow ((Reaches.trans (.of (.advance _)) (.of (.advance _))).noArrow free)
    rw [noArrow after, Bool.and_false]

end CoScript.Parse
