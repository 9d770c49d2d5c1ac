import Mathlib.Data.List.Forall2
import CoScript.Proofs.Parse.Motion
import CoScript.Proofs.Tree.Related

/-!
Two runs of the parser side by side. What the states of the runs have to do with each other is up to a
coupling; the grammar only needs that each step of a parser keeps it. A run also keeps track of how
far it has come within the phrase that it is asked for, because before anything is taken it may ask
for other phrases only in a certain order.
-/
namespace CoScript.Parse

/-! Faults on related tokens. -/

/-- A fault with a function applied to all tokens. -/
def Fault.mapTokens (f : Token → Token) : Fault → Fault
  | illegal t => illegal (f t)
  | unexpected t => unexpected (f t)
  | expected k t => expected k (f t)
  | expectedSemicolon t => expectedSemicolon (f t)
  | expectedBinding t => expectedBinding (f t)
  | expectedType t => expectedType (f t)
  | expectedProperty t => expectedProperty (f t)
  | expectedPropertyAfter o t => expectedPropertyAfter (f o) (f t)
  | expectedCase t => expectedCase (f t)
  | expectedMemberEnd t => expectedMemberEnd (f t)
  | unsupportedToken t => unsupportedToken (f t)
  | unsupportedAccessor t => unsupportedAccessor (f t)
  | badOperand t => badOperand (f t)
  | inSubstitution fault => inSubstitution (fault.mapTokens f)
  | fault => fault

theorem Fault.mapTokens_id (fault : Fault) : fault.mapTokens id = fault := by
  induction fault with
  | inSubstitution fault ih => rw [mapTokens, ih]
  | _ => rfl

/-- Whether a fault says that a template cannot be split, or a template in a substitution. -/
def Fault.isMalformed : Fault → Bool
  | malformedTemplate => true
  | inSubstitution fault => fault.isMalformed
  | _ => false

instance : Data Fault where
  view L := Fault.mapTokens L.view
  good L f := f.isMalformed → L.malformed

namespace Fault

variable {L : Look} {t t' o o' : Token} [h : Related L t t'] [k : Related L o o']

theorem related {f f' : Fault} (h : f.mapTokens L.view = f'.mapTokens L.view)
    (formed : f.isMalformed = false) (formed' : f'.isMalformed = false) : Related L f f' :=
  ⟨h, fun malformed => absurd malformed (by simp [formed]),
    fun malformed => absurd malformed (by simp [formed'])⟩

instance : Related L (illegal t) (illegal t') := related (congrArg illegal h.eq) rfl rfl
instance : Related L (unexpected t) (unexpected t') := related (congrArg unexpected h.eq) rfl rfl
instance (kind : Token.Kind) : Related L (expected kind t) (expected kind t') :=
  related (congrArg (expected kind) h.eq) rfl rfl
instance : Related L (expectedSemicolon t) (expectedSemicolon t') :=
  related (congrArg expectedSemicolon h.eq) rfl rfl
instance : Related L (expectedBinding t) (expectedBinding t') :=
  related (congrArg expectedBinding h.eq) rfl rfl
instance : Related L (expectedType t) (expectedType t') := related (congrArg expectedType h.eq) rfl rfl
instance : Related L (expectedProperty t) (expectedProperty t') :=
  related (congrArg expectedProperty h.eq) rfl rfl
instance : Related L (expectedPropertyAfter o t) (expectedPropertyAfter o' t') :=
  related (congrArg₂ expectedPropertyAfter k.eq h.eq) rfl rfl
instance : Related L (expectedCase t) (expectedCase t') := related (congrArg expectedCase h.eq) rfl rfl
instance : Related L (expectedMemberEnd t) (expectedMemberEnd t') :=
  related (congrArg expectedMemberEnd h.eq) rfl rfl
instance : Related L (unsupportedToken t) (unsupportedToken t') :=
  related (congrArg unsupportedToken h.eq) rfl rfl
instance : Related L (unsupportedAccessor t) (unsupportedAccessor t') :=
  related (congrArg unsupportedAccessor h.eq) rfl rfl
instance : Related L (badOperand t) (badOperand t') := related (congrArg badOperand h.eq) rfl rfl
instance : Related L unclosedBrace unclosedBrace := related rfl rfl rfl
instance (feature : Feature) : Related L (unsupported feature) (unsupported feature) := related rfl rfl rfl
instance : Related L badTarget badTarget := related rfl rfl rfl
instance : Related L awaitWithoutOf awaitWithoutOf := related rfl rfl rfl
instance : Related L lineBreakAfterThrow lineBreakAfterThrow := related rfl rfl rfl
instance : Related L tryAlone tryAlone := related rfl rfl rfl
instance : Related L secondDefault secondDefault := related rfl rfl rfl
instance (literal pattern : Text) (fault : Regex.Fault) :
    Related L (badRegex literal pattern fault) (badRegex literal pattern fault) := related rfl rfl rfl
instance {f f' : Fault} [h : Related L f f'] : Related L (inSubstitution f) (inSubstitution f') :=
  ⟨congrArg inSubstitution h.eq, h.good, h.good'⟩

end Fault

/-- A template that cannot be split may be reported where one is met. -/
theorem Fault.related_malformedTemplate {L : Look} {t t' : Token} (h : Related L t t')
    (kind : t.kind = .template) (unsplit : Template.split? t.literal = none) :
    Related L malformedTemplate malformedTemplate :=
  have malformed := L.malformed_of_good h.good kind unsplit
  ⟨rfl, fun _ => malformed, fun _ => malformed⟩

/-! Progress. -/

/-- How far a run has come within the phrase that it is asked for. -/
inductive Phase where
  /-- Nothing was taken; the phrase is what follows the current token. -/
  | before
  /-- Nothing but the current token was taken, which may still start phrases of a lower rank. -/
  | fresh (rank : Nat)
  /-- Something was taken. -/
  | moved

namespace Phase

/-- Phases in which the current token belongs to the phrase and may start phrases below a rank. -/
class Admits (rank : Nat) (φ : Phase) : Prop where
  admits : match φ with
    | before => False
    | fresh r => rank ≤ r
    | moved => True

instance {rank : Nat} : Admits rank moved := ⟨trivial⟩
instance {rank : Nat} : Admits rank (fresh rank) := ⟨Nat.le_refl rank⟩
instance {φ : Phase} [h : Admits 2 φ] : Admits 1 φ where
  admits := match φ, h with
    | fresh _, h => Nat.le_of_succ_le h.admits
    | moved, _ => trivial
instance {φ : Phase} [h : Admits 1 φ] : Admits 0 φ where
  admits := match φ, h with
    | fresh _, _ => Nat.zero_le _
    | moved, _ => trivial
instance {rank : Nat} : Admits 0 (fresh rank) := ⟨Nat.zero_le rank⟩

/-- The phase after one more token. -/
class Next (φ : Phase) (ψ : outParam Phase) : Prop where
  next : match φ with
    | before => ψ = fresh 1
    | _ => ψ = moved

instance : Next before (fresh 1) := ⟨rfl⟩
instance {φ : Phase} [h : Admits 0 φ] : Next φ moved where
  next := match φ, h with
    | fresh _, _ => rfl
    | moved, _ => rfl

end Phase

open Phase (Admits Next)

/-- The rank of a phrase that starts at the current token. Other phrases follow it. -/
def Goal.rank? : Goal → Option Nat
  | expression _ | binding | type _ => some 0
  | statement => some 1
  | programItems | blockItems | caseItems | cases _ => some 2
  | _ => none

/-- The phase in which a phrase is asked for. -/
def Goal.phase (g : Goal) : Phase :=
  match g.rank? with
  | some rank => .fresh rank
  | none => .before

/-- The node that a phrase goes on from. -/
def Goal.left? : Goal → Option Node
  | operators _ left | typeOperators _ left | typeName left => some left
  | _ => none

/-- Whether a phrase may be asked for in a phase. -/
def Goal.Fits (g : Goal) : Phase → Prop
  | .before => False
  | .fresh r => ∀ rank ∈ g.rank?, rank < r
  | .moved => True

theorem Goal.fits_of_none {g : Goal} (h : g.rank? = none) {φ : Phase} [k : Admits 0 φ] :
    g.Fits φ := by
  cases φ with
  | before => exact k.admits
  | fresh r => simp [Fits, h]
  | moved => trivial

theorem Goal.fits_of_some {g : Goal} {rank : Nat} (h : g.rank? = some rank) {φ : Phase}
    [k : Admits (rank + 1) φ] : g.Fits φ := by
  cases φ with
  | before => exact k.admits
  | fresh r =>
      intro same mem
      cases h.symm.trans mem
      exact k.admits
  | moved => trivial

/-- The state at the bracket that closes the current one. -/
def State.closing? (s : State) : Option State :=
  (Parse.closing? 0 s.current s.upcoming).map fun (current, upcoming) =>
    { s with current := current, upcoming := upcoming }

/-- What the states of two runs have to do with each other, phase by phase, such that the steps of a
parser keep it. -/
structure Coupling (L : Look) where
  holds : Phase → State → State → Prop
  current {φ s s'} [Admits 0 φ] : holds φ s s' → Related L s.current s'.current
  peek {φ s s'} : holds φ s s' → Related L s.peek s'.peek
  line {φ s s'} : holds φ s s' → s.peek.newlineBefore = s'.peek.newlineBefore
  noIn {φ s s'} : holds φ s s' → s.noIn = s'.noIn
  complaints {φ s s'} : holds φ s s' →
    List.Forall₂ (Related L) (s.complaints.map (·.fault)) (s'.complaints.map (·.fault))
  context {φ s s'} (noIn : Bool) : holds φ s s' →
    holds φ { s with noIn := noIn } { s' with noIn := noIn }
  complain {φ s s' t t' f f'} : holds φ s s' → L.view t = L.view t' → L.shown t → L.shown t' →
    Related L f f' → holds φ (s.complain t f) (s'.complain t' f')
  advance {φ ψ s s'} [Next φ ψ] : holds φ s s' → holds ψ s.advance s'.advance
  /-- What holds further on holds within the whole phrase. -/
  back {φ ψ s s' r r'} [Next φ ψ] : holds φ s s' → holds ψ r r' → holds φ r r'
  splitAngle {φ s s'} [Admits 0 φ] {o : Operator} : o ∈ angled → s.peek.kind = .operator o →
    holds φ s s' → holds φ s.splitAngle s'.splitAngle
  closing {φ s s'} [Admits 0 φ] : holds φ s s' → Option.Rel (holds φ) s.closing? s'.closing?
  recover {φ s s'} [Admits 0 φ] : holds φ s s' → holds φ (recover s).2 (recover s').2
  /-- The parser of a substitution. -/
  start {t t' : Token} {body : Template.Body} {source : Text} : Related L t t' →
    t.kind = .template → Template.split? t.literal = some body → source ∈ body.sources →
    holds .moved (.start source) (.start source)

/-- Tokens ahead, as two runs see them. -/
structure Ahead (L : Look) extends Pair L Token where
  line : left.newlineBefore = right.newlineBefore

instance {L : Look} (t : Ahead L) : Related L t.left.newlineBefore t.right.newlineBefore :=
  ⟨t.line, trivial, trivial⟩

/-- From coupled states, two parsers give related results and lead to coupled states. -/
class Together {L : Look} (C : Coupling L) (φ : Phase) {α : Type} [Data α] (p p' : Parse α) : Prop
    where
  run {s s' : State} : C.holds φ s s' →
    Related L (p s).1 (p' s').1 ∧ C.holds φ (p s).2 (p' s').2

namespace Together

variable {L : Look} {C : Coupling L} {φ ψ : Phase} {α β : Type} [Data α] [Data β]
  {p q p' q' : Parse α} {f f' : α → Parse β}

/-! Looking at the state. -/

/-- A parser that looks at the state and moves nowhere. -/
theorem look (g : State → α) (h : ∀ {s s'}, C.holds φ s s' → Related L (g s) (g s')) :
    Together C φ (fun s => (some (g s), s)) (fun s => (some (g s), s)) where
  run together := ⟨have := h together; inferInstance, together⟩

instance pure {a a' : α} [h : Related L a a'] : Together C φ (pure a : Parse α) (pure a') :=
  ⟨fun together => ⟨inferInstanceAs (Related L (some a) (some a')), together⟩⟩

instance current [Admits 0 φ] : Together C φ current current :=
  look State.current C.current

instance currentIs {k : Token.Kind} [Admits 0 φ] : Together C φ (currentIs k) (currentIs k) :=
  look (·.current.is k) fun together => have := C.current together; inferInstance

instance peekIs {k : Token.Kind} : Together C φ (peekIs k) (peekIs k) :=
  look (·.peek.is k) fun together => have := C.peek together; inferInstance

instance peekLevel : Together C φ peekLevel peekLevel := by
  refine look _ fun {s s'} together => ?_
  have := C.peek together
  have same : s.peek.kind = s'.peek.kind := Token.kind_eq (L := L)
  rw [C.line together, C.noIn together, same]
  infer_instance

/-! Sequences. -/

omit [Data α] in
theorem bind_of (h : ∀ {s s'}, C.holds φ s s' →
    (p s).1 = none ∧ (p' s').1 = none ∧ C.holds φ (p s).2 (p' s').2 ∨
    ∃ a a', (p s).1 = some a ∧ (p' s').1 = some a' ∧
      Related L (f a (p s).2).1 (f' a' (p' s').2).1 ∧
      C.holds φ (f a (p s).2).2 (f' a' (p' s').2).2) :
    Together C φ (p >>= f) (p' >>= f') where
  run := by
    intro s s' together
    have step := h together
    cases hp : p s
    cases hp' : p' s'
    rw [hp, hp'] at step
    obtain ⟨rfl, rfl, after⟩ | ⟨a, a', rfl, rfl, after⟩ := step
    · rw [bind_eq_none hp, bind_eq_none hp']
      exact ⟨Related.nothing, after⟩
    · rw [bind_eq hp, bind_eq hp']
      exact after

instance (priority := low) bind [h : Together C φ p p']
    [k : ∀ x : Pair L α, Together C φ (f x.left) (f' x.right)] :
    Together C φ (p >>= f) (p' >>= f') := by
  refine bind_of fun together => ?_
  obtain ⟨same, after⟩ := h.run together
  obtain ⟨nothing, nothing'⟩ | ⟨x, some, some'⟩ := same.option_cases
  · exact .inl ⟨nothing, nothing', after⟩
  · exact .inr ⟨_, _, some, some', (k x).run after⟩

instance pair_bind {γ : Type} [Data γ] {p p' : Parse (α × γ)} {f f' : α × γ → Parse β}
    [h : Together C φ p p']
    [k : ∀ (x : Pair L α) (y : Pair L γ),
      Together C φ (f (x.left, y.left)) (f' (x.right, y.right))] :
    Together C φ (p >>= f) (p' >>= f') :=
  bind (k := fun ⟨(a, c), (a', c'), related⟩ =>
    k ⟨a, a', related.of_pair.1⟩ ⟨c, c', related.of_pair.2⟩)

instance peek_bind {f f' : Token → Parse β}
    [h : ∀ t : Ahead L, Together C φ (f t.left) (f' t.right)] :
    Together C φ (peek >>= f) (peek >>= f') :=
  ⟨fun together => (h ⟨⟨_, _, C.peek together⟩, C.line together⟩).run together⟩

theorem complain {s s' : State} {t t' : Token} {f f' : Fault} (h : Related L t t')
    (k : Related L f f') (together : C.holds φ s s') :
    C.holds φ (s.complain t f) (s'.complain t' f') :=
  C.complain together h.eq (L.shown_of_good h.good) (L.shown_of_good h.good') k

instance reject {t t' : Token} {f f' : Fault} [h : Related L t t'] [k : Related L f f'] :
    Together C φ (reject t f : Parse α) (reject t' f') :=
  ⟨fun together => ⟨Related.nothing, complain h k together⟩⟩

instance reject_bind {t t' : Token} {g g' : Fault} [h : Related L t t'] [k : Related L g g'] :
    Together C φ (Parse.reject t g >>= f) (Parse.reject t' g' >>= f') :=
  ⟨fun together => ⟨Related.nothing, complain h k together⟩⟩

instance giveUp_bind : Together C φ (giveUp >>= f) (giveUp >>= f') :=
  ⟨fun together => ⟨Related.nothing, together⟩⟩

instance ite_true [Together C φ p p'] :
    Together C φ (if true = true then p else q) (if true = true then p' else q') := by
  rwa [if_pos rfl, if_pos rfl]

instance ite_false [Together C φ q q'] :
    Together C φ (if false = true then p else q) (if false = true then p' else q') := by
  rwa [if_neg (by decide), if_neg (by decide)]

instance (priority := low) ite {c c' : Bool} [h : Related L c c'] [Together C φ p p']
    [Together C φ q q'] :
    Together C φ (if c = true then p else q) (if c' = true then p' else q') := by
  obtain rfl : c = c' := h.eq
  split <;> infer_instance

instance ite_prop {c : Prop} [Decidable c] [Together C φ p p'] [Together C φ q q'] :
    Together C φ (if c then p else q) (if c then p' else q') := by
  split <;> infer_instance

instance ite_less {l m m' : Nat} [h : Related L m m'] [Together C φ p p'] [Together C φ q q'] :
    Together C φ (if l < m then p else q) (if l < m' then p' else q') := by
  obtain rfl : m = m' := h.eq
  split <;> infer_instance

/-! Taking tokens. -/

instance advance_bind {f f' : Unit → Parse β} [Next φ ψ] [h : Together C ψ (f ()) (f' ())] :
    Together C φ (advance >>= f) (advance >>= f') where
  run together :=
    have ⟨same, after⟩ := h.run (C.advance together)
    ⟨same, C.back together after⟩

instance skip_bind {k : Token.Kind} {f f' : Bool → Parse β} [Next φ ψ]
    [h : Together C ψ (f true) (f' true)] [g : Together C φ (f false) (f' false)] :
    Together C φ (skip k >>= f) (skip k >>= f') := by
  refine bind_of fun {s s'} together => .inr ?_
  have := C.peek together
  have found : s.peek.is k = s'.peek.is k := Token.is_eq (L := L) k
  simp only [Parse.skip, found]
  split
  · obtain ⟨same, after⟩ := h.run (C.advance together)
    exact ⟨_, _, rfl, rfl, same, C.back together after⟩
  · exact ⟨_, _, rfl, rfl, g.run together⟩

instance expect_bind {k : Token.Kind} {f f' : Unit → Parse β} [Next φ ψ]
    [h : Together C ψ (f ()) (f' ())] :
    Together C φ (expect k >>= f) (expect k >>= f') := by
  refine bind_of fun {s s'} together => ?_
  have := C.peek together
  have found : s.peek.is k = s'.peek.is k := Token.is_eq (L := L) k
  simp only [Parse.expect, found]
  split
  · obtain ⟨same, after⟩ := h.run (C.advance together)
    exact .inr ⟨_, _, rfl, rfl, same, C.back together after⟩
  · exact .inl ⟨rfl, rfl, complain inferInstance inferInstance together⟩

omit [Data α] in
theorem bind_pure (p : Parse α) : p >>= Pure.pure = p := by
  funext s
  cases hp : p s with
  | mk r t =>
      cases r with
      | none => exact bind_eq_none hp
      | some a => exact bind_eq hp

instance advance [Next φ ψ] : Together C φ advance advance := by
  rw [← bind_pure Parse.advance]
  infer_instance

instance skip {k : Token.Kind} [Next φ ψ] : Together C φ (skip k) (skip k) := by
  rw [← bind_pure (Parse.skip k)]
  infer_instance

instance expect {k : Token.Kind} [Next φ ψ] : Together C φ (expect k) (expect k) := by
  rw [← bind_pure (Parse.expect k)]
  infer_instance

theorem expectAngleClose_eq (s : State) : Parse.expectAngleClose s =
    if s.peek.kind = .operator .greater then (some (), s.advance)
    else if ∃ o ∈ angled, s.peek.kind = .operator o then (some (), s.splitAngle)
    else (none, s.complain s.peek (.expected (.operator .greater) s.peek)) := by
  have starts {o : Operator} (kind : s.peek.kind = .operator o) (ho : o ∈ angled)
      (h : o ≠ .greater) :
      (some (), s.splitAngle) = if s.peek.kind = .operator .greater then (some (), s.advance)
        else if ∃ o ∈ angled, s.peek.kind = .operator o then (some (), s.splitAngle)
        else (none, s.complain s.peek (.expected (.operator .greater) s.peek)) := by
    rw [if_neg (by simpa [kind] using h), if_pos ⟨o, ho, kind⟩]
  rw [Parse.expectAngleClose]
  dsimp only
  split
  · rw [if_pos ‹_›]
  · exact starts ‹_› (by decide) (by decide)
  · exact starts ‹_› (by decide) (by decide)
  · exact starts ‹_› (by decide) (by decide)
  · exact starts ‹_› (by decide) (by decide)
  · exact starts ‹_› (by decide) (by decide)
  · rw [if_neg ‹_›, if_neg]
    simpa [angled] using ⟨‹_›, ‹_›, ‹_›, ‹_›, ‹_›⟩

instance expectAngleClose [Admits 0 φ] : Together C φ expectAngleClose expectAngleClose where
  run := by
    intro s s' together
    have := C.peek together
    have kinds : s.peek.kind = s'.peek.kind := Token.kind_eq (L := L)
    rw [expectAngleClose_eq, expectAngleClose_eq, ← kinds]
    split
    · exact ⟨inferInstance, C.back together (C.advance together)⟩
    split
    · obtain ⟨o, ho, kind⟩ := ‹∃ o ∈ angled, s.peek.kind = .operator o›
      exact ⟨inferInstance, C.splitAngle ho kind together⟩
    · exact ⟨inferInstance, complain inferInstance inferInstance together⟩

/-! Running parts of a parser in a special way. -/

instance allowIn [h : Together C φ p p'] : Together C φ (allowIn p) (allowIn p') where
  run := by
    intro s s' together
    obtain ⟨same, after⟩ := h.run (C.context false together)
    refine ⟨same, ?_⟩
    simp only [Parse.allowIn, C.noIn together]
    exact C.context s'.noIn after

instance forbidIn [h : Together C φ p p'] : Together C φ (forbidIn p) (forbidIn p') where
  run together :=
    have ⟨same, after⟩ := h.run (C.context true together)
    ⟨same, C.context false after⟩

/-- Coupled states have as many complaints. -/
theorem length_complaints {s s' : State} (h : C.holds φ s s') :
    s.complaints.length = s'.complaints.length := by
  simpa using (C.complaints h).length_eq

instance watch_attempt [h : Together C φ p p'] :
    Together C φ (watch (attempt p)) (watch (attempt p')) where
  run := by
    intro s s' together
    obtain ⟨same, after⟩ := h.run together
    refine ⟨?_, after⟩
    simp only [watch, attempt, length_complaints together, length_complaints after]
    infer_instance

instance foresee {p p' : Parse Bool} [h : Together C φ p p'] :
    Together C φ (foresee p) (foresee p') where
  run := by
    intro s s' together
    obtain ⟨same, after⟩ := h.run together
    refine ⟨?_, together⟩
    have answer : (p s).1 = (p' s').1 := by
      obtain ⟨nothing, nothing'⟩ | ⟨x, some, some'⟩ := same.option_cases
      · rw [nothing, nothing']
      · rw [some, some', x.related.bool_eq]
    simp only [Parse.foresee, length_complaints together, length_complaints after, answer]
    infer_instance

instance recover [Admits 0 φ] : Together C φ recover recover :=
  ⟨fun together => ⟨inferInstanceAs (Related L (some ()) (some ())), C.recover together⟩⟩

instance statementEnds : Together C φ statementEnds statementEnds := by
  unfold Parse.statementEnds
  infer_instance

instance finishStatement [Next φ ψ] : Together C φ finishStatement finishStatement := by
  unfold Parse.finishStatement
  infer_instance

instance indexSignatureAhead [Next φ ψ] :
    Together C φ indexSignatureAhead indexSignatureAhead := by
  refine look _ fun together => ?_
  have := C.peek together
  have := C.peek (C.advance together)
  infer_instance

end Together

end CoScript.Parse
