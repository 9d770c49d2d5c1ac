import CoScript.Proofs.Parse.Motion

/-!
The parser at the end of the input. No rule goes on from there, so what is answered to the phrases below
does not matter, but for expressions, types and bindings, which are missed.
-/
namespace CoScript

/-- A kind of token that is not the end token. -/
class Token.Kind.Solid (k : Kind) : Prop where
  solid : k ≠ .eof

namespace Token.Kind.Solid

instance (o : Operator) : Solid (.operator o) := ⟨nofun⟩
instance (k : Keyword) : Solid (.keyword k) := ⟨nofun⟩
instance : Solid .identifier := ⟨nofun⟩
instance : Solid .string := ⟨nofun⟩
instance : Solid .number := ⟨nofun⟩

end Token.Kind.Solid

namespace Parse

/-- No token is left. -/
structure State.AtEnd (s : State) : Prop where
  ending : s.ending.kind = .eof
  upcoming : ∀ t ∈ s.upcoming, t.kind = .eof

theorem State.AtEnd.peek {s : State} (h : s.AtEnd) : s.peek.kind = .eof := by
  rw [State.peek]
  cases ahead : s.upcoming with
  | nil => exact h.ending
  | cons t rest => exact h.upcoming t (by simp [ahead])

theorem State.AtEnd.advance {s : State} (h : s.AtEnd) : s.advance.AtEnd :=
  ⟨h.ending, fun t ht => h.upcoming t (List.mem_of_mem_tail ht)⟩

/-- Two parsers do the same at the end of the input, and fail if need be. The end token is ahead, and it
is the current token if the parsers are past the last token before. -/
class Idle (past fails : Bool) {α : Type} (p p' : Parse α) : Prop where
  same {s : State} : s.AtEnd → (past → s.current.kind = .eof) →
    p s = p' s ∧ (fails → (p s).1 = none)

/-- The end token. -/
abbrev EndToken : Type :=
  { t : Token // t.kind = .eof }

theorem EndToken.not_is (t : EndToken) (k : Token.Kind) [h : k.Solid] : t.1.is k = false :=
  beq_false_of_ne fun kind => h.solid (kind.symm.trans t.2)

/-- A condition that does not hold. -/
class IsFalse (b : Bool) : Prop where
  is_false : b = false

namespace IsFalse

instance : IsFalse false := ⟨rfl⟩

instance (t : EndToken) {k : Token.Kind} [k.Solid] : IsFalse (t.1.is k) :=
  ⟨t.not_is k⟩

instance (t : EndToken) {word : String} : IsFalse (t.1.isWord word) :=
  ⟨by simp [Token.isWord, t.2]⟩

instance (t : EndToken) : IsFalse t.1.namesProperty :=
  ⟨by simp [Token.namesProperty, t.2]⟩

instance {a b : Bool} [h : IsFalse a] : IsFalse (a && b) :=
  ⟨by rw [h.is_false, Bool.false_and]⟩

instance {a b : Bool} [h : IsFalse a] [k : IsFalse b] : IsFalse (a || b) :=
  ⟨by rw [h.is_false, k.is_false, Bool.false_or]⟩

instance (t : EndToken) : IsFalse (startsKey t.1) := by
  unfold startsKey
  infer_instance

end IsFalse

/-- A condition that holds. -/
class IsTrue (b : Bool) : Prop where
  is_true : b = true

instance : IsTrue true := ⟨rfl⟩

instance (t : EndToken) : IsTrue (t.1.is .eof) :=
  ⟨beq_iff_eq.2 t.2⟩

instance {a b : Bool} [h : IsTrue b] : IsTrue (a || b) :=
  ⟨by rw [h.is_true, Bool.or_true]⟩

namespace Idle

variable {past fails : Bool} {α β : Type} {p q p' q' : Parse α}

instance (priority := low) refl (p : Parse α) : Idle past false p p :=
  ⟨fun _ _ => ⟨rfl, nofun⟩⟩

instance (priority := low) of_fails [h : Idle past true p p'] : Idle past false p p' :=
  ⟨fun ended finished => ⟨(h.same ended finished).1, nofun⟩⟩

instance reject {t : Token} {f : Fault} : Idle past fails (reject t f : Parse α) (reject t f) :=
  ⟨fun _ _ => ⟨rfl, fun _ => rfl⟩⟩

/-- What follows a parser that fails does not matter. -/
instance (priority := low) bind {f f' : α → Parse β} [h : Idle past true p p'] :
    Idle past fails (p >>= f) (p' >>= f') where
  same := by
    intro s ended finished
    obtain ⟨same, none⟩ := h.same ended finished
    have missed : p s = (Option.none, (p s).2) := Prod.ext (none rfl) rfl
    rw [bind_eq_none missed, bind_eq_none (same ▸ missed)]
    exact ⟨by rw [same], fun _ => rfl⟩

instance ite_true {c : Bool} [h : IsTrue c] [k : Idle past fails p p'] :
    Idle past fails (if c = true then p else q) (if c = true then p' else q') := by
  rwa [if_pos h.is_true, if_pos h.is_true]

instance ite {c : Bool} [h : IsFalse c] [k : Idle past fails q q'] :
    Idle past fails (if c = true then p else q) (if c = true then p' else q') := by
  rwa [h.is_false, if_neg (by decide), if_neg (by decide)]

instance not_ite {c : Bool} [h : IsFalse c] [k : Idle past fails p p'] :
    Idle past fails (if (!c) = true then p else q) (if (!c) = true then p' else q') := by
  rwa [h.is_false, if_pos (by decide), if_pos (by decide)]

instance advance_bind {f f' : Unit → Parse β} [h : Idle true fails (f ()) (f' ())] :
    Idle past fails (advance >>= f) (advance >>= f') :=
  ⟨fun ended _ => h.same ended.advance fun _ => ended.peek⟩

instance skip_bind {k : Token.Kind} {f f' : Bool → Parse β} [solid : k.Solid]
    [h : Idle past fails (f false) (f' false)] :
    Idle past fails (skip k >>= f) (skip k >>= f') where
  same := by
    intro s ended finished
    have missed : s.peek.is k = false := EndToken.not_is ⟨_, ended.peek⟩ k
    have skipped : skip k s = (some false, s) := by rw [skip, missed, if_neg (by decide)]
    rw [bind_eq skipped, bind_eq skipped]
    exact h.same ended finished

instance expect_bind {k : Token.Kind} {f f' : Unit → Parse β} [solid : k.Solid] :
    Idle past fails (expect k >>= f) (expect k >>= f') where
  same := by
    intro s ended finished
    have missed : s.peek.is k = false := EndToken.not_is ⟨_, ended.peek⟩ k
    have failed : expect k s = (none, s.complain s.peek (.expected k s.peek)) := by
      rw [expect, missed, if_neg (by decide)]
    rw [bind_eq_none failed, bind_eq_none failed]
    exact ⟨rfl, fun _ => rfl⟩

instance peekIs_bind {k : Token.Kind} {f f' : Bool → Parse β} [solid : k.Solid]
    [h : Idle past fails (f false) (f' false)] :
    Idle past fails (peekIs k >>= f) (peekIs k >>= f') where
  same := by
    intro s ended finished
    have missed : s.peek.is k = false := EndToken.not_is ⟨_, ended.peek⟩ k
    have seen : peekIs k s = (some false, s) := by rw [peekIs, missed]
    rw [bind_eq seen, bind_eq seen]
    exact h.same ended finished

instance currentIs_bind {k : Token.Kind} {f f' : Bool → Parse β} [solid : k.Solid]
    [h : Idle true fails (f false) (f' false)] :
    Idle true fails (currentIs k >>= f) (currentIs k >>= f') where
  same := by
    intro s ended finished
    have missed : s.current.is k = false := EndToken.not_is ⟨_, finished rfl⟩ k
    have seen : currentIs k s = (some false, s) := by rw [currentIs, missed]
    rw [bind_eq seen, bind_eq seen]
    exact h.same ended finished

instance currentIs_eof_bind {f f' : Bool → Parse β} [h : Idle true fails (f true) (f' true)] :
    Idle true fails (currentIs .eof >>= f) (currentIs .eof >>= f') where
  same := by
    intro s ended finished
    have seen : currentIs .eof s = (some true, s) := by simp [currentIs, Token.is, finished]
    rw [bind_eq seen, bind_eq seen]
    exact h.same ended finished

instance current_bind {f f' : Token → Parse β} [h : ∀ t : EndToken, Idle true fails (f t.1) (f' t.1)] :
    Idle true fails (current >>= f) (current >>= f') :=
  ⟨fun ended finished => (h ⟨_, finished rfl⟩).same ended finished⟩

instance peek_bind {f f' : Token → Parse β} [h : ∀ t : EndToken, Idle past fails (f t.1) (f' t.1)] :
    Idle past fails (peek >>= f) (peek >>= f') :=
  ⟨fun ended finished => (h ⟨_, ended.peek⟩).same ended finished⟩

instance ite_prop {c : Prop} [Decidable c] [Idle past fails p p'] [Idle past fails q q'] :
    Idle past fails (if c then p else q) (if c then p' else q') := by
  split <;> infer_instance

instance peekLevel_bind {f f' : Nat → Parse β}
    [h : Idle past fails (f Level.lowest) (f' Level.lowest)] :
    Idle past fails (peekLevel >>= f) (peekLevel >>= f') where
  same := by
    intro s ended finished
    have seen : peekLevel s = (some Level.lowest, s) := by
      have last : Level.ofKind .eof = Level.lowest := rfl
      simp [peekLevel, ended.peek, last]
    rw [bind_eq seen, bind_eq seen]
    exact h.same ended finished

instance indexSignatureAhead_bind {f f' : Bool → Parse β} [h : Idle past fails (f false) (f' false)] :
    Idle past fails (indexSignatureAhead >>= f) (indexSignatureAhead >>= f') where
  same := by
    intro s ended finished
    have seen : indexSignatureAhead s = (some false, s) := by
      simp [indexSignatureAhead, Token.is, ended.peek]
    rw [bind_eq seen, bind_eq seen]
    exact h.same ended finished

end Idle

/-- Answers to expressions, types and bindings at the end of the input: they are missed. -/
class Missing (r r' : Recur) : Prop where
  expression (level : Nat) : Idle true true (r (.expression level)) (r' (.expression level))
  type (level : Nat) : Idle true true (r (.type level)) (r' (.type level))
  binding : Idle true true (r .binding) (r' .binding)

attribute [instance] Missing.expression Missing.type Missing.binding

section
variable {self self' : Recur}

instance : Idle true true (binding self) (binding self') := by
  unfold binding
  refine Idle.current_bind (h := fun t => ?_)
  rw [t.2]
  infer_instance

instance : Idle true true (operand self) (operand self') := by
  unfold operand
  refine Idle.current_bind (h := fun t => ?_)
  rw [t.2]
  infer_instance

instance : Idle true true (typeOperand self) (typeOperand self') := by
  unfold typeOperand
  refine Idle.current_bind (h := fun t => ?_)
  rw [t.2]
  infer_instance

instance (level : Nat) : Idle true true (expression self level) (expression self' level) := by
  unfold expression
  infer_instance

instance (level : Nat) :
    Idle true true (typeExpression self level) (typeExpression self' level) := by
  unfold typeExpression
  infer_instance

/-- The rules for these phrases miss them whatever is answered to others. -/
instance missing_step : Missing (step self) (step self') where
  expression level := inferInstanceAs (Idle true true (expression self level) (expression self' level))
  type level :=
    inferInstanceAs (Idle true true (typeExpression self level) (typeExpression self' level))
  binding := inferInstanceAs (Idle true true (binding self) (binding self'))

instance : Idle true true (key self) (key self') := by
  unfold key
  infer_instance

end

section
variable {self self' : Recur} [Missing self self']

/-! Phrases that start at the end token. -/

instance : Idle true true (listElement self) (listElement self') := by
  unfold listElement
  infer_instance

instance : Idle true true (property self) (property self') := by
  unfold property
  infer_instance

instance : Idle true true (bindingElement self) (bindingElement self') := by
  unfold bindingElement
  infer_instance

instance : Idle true true (patternProperty self) (patternProperty self') := by
  unfold patternProperty
  infer_instance

instance : Idle true true (parameter self) (parameter self') := by
  unfold parameter
  infer_instance

instance : Idle true true (declarator self) (declarator self') := by
  unfold declarator
  infer_instance

instance (t : Token) (readonly : Bool) :
    Idle true true (keyedMember self t readonly) (keyedMember self' t readonly) := by
  unfold keyedMember
  infer_instance

instance : Idle true true (memberSignature self) (memberSignature self') := by
  unfold memberSignature
  infer_instance

instance : Idle true false (statement self) (statement self') := by
  unfold statement
  refine Idle.current_bind (h := fun t => ?_)
  rw [t.2]
  unfold expressionStatement
  infer_instance

instance (seenDefault : Bool) : Idle true false (cases self seenDefault) (cases self' seenDefault) := by
  unfold cases
  refine Idle.current_bind (h := fun t => ?_)
  unfold caseTest
  rw [t.2]
  infer_instance

instance : Idle true false (programItems self) (programItems self') := by
  unfold programItems
  infer_instance

instance : Idle true false (blockItems self) (blockItems self') := by
  unfold blockItems
  infer_instance

instance : Idle true false (caseItems self) (caseItems self') := by
  unfold caseItems
  infer_instance

/-! Phrases that follow the current token. -/

instance : Idle false false (elements self) (elements self') := by
  unfold elements
  infer_instance

instance : Idle false false (arguments self) (arguments self') := by
  unfold arguments
  infer_instance

instance : Idle false false (properties self) (properties self') := by
  unfold properties
  infer_instance

instance : Idle false false (declarators self) (declarators self') := by
  unfold declarators
  infer_instance

instance : Idle false false (patternElements self) (patternElements self') := by
  unfold patternElements
  infer_instance

instance : Idle false false (patternProperties self) (patternProperties self') := by
  unfold patternProperties
  infer_instance

instance : Idle false false (parameters self) (parameters self') := by
  unfold parameters
  infer_instance

instance (left : Node) : Idle false false (typeName self left) (typeName self' left) := by
  unfold typeName
  infer_instance

instance : Idle false false (typeArguments self) (typeArguments self') := by
  unfold typeArguments
  infer_instance

instance : Idle false false (tupleElements self) (tupleElements self') := by
  unfold tupleElements
  infer_instance

instance : Idle false false (members self) (members self') := by
  unfold members
  infer_instance

instance : Idle false false (bases self) (bases self') := by
  unfold bases
  infer_instance

instance (left : Node) : Idle true true (operatorRest self left) (operatorRest self' left) := by
  unfold operatorRest
  refine Idle.current_bind (h := fun t => ?_)
  have other : ¬Level.ofKind .eof = Level.assignment := by decide
  rw [t.2]
  dsimp only
  rw [if_neg other, if_neg other]
  infer_instance

instance (level : Nat) (left : Node) :
    Idle false false (operators self level left) (operators self' level left) := by
  unfold operators
  infer_instance

instance (level : Nat) (left : Node) :
    Idle false false (typeOperators self level left) (typeOperators self' level left) := by
  unfold typeOperators
  refine Idle.peek_bind (h := fun t => ?_)
  rw [t.2]
  infer_instance

end

end Parse

end CoScript
