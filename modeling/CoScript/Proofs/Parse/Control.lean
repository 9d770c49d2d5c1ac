import CoScript.Proofs.Parse.Budget
import CoScript.Proofs.Parse.Reading
import CoScript.Proofs.Print.Control

/-!
Control statements are read from their signs. An alternative goes to the choice it stands behind, because
no consequence that stands in front of it ends in a choice without one.
-/
namespace CoScript.Parse

/-! Signs ahead of the parser. -/

/-- The tokens ahead have these signs, followed by the end of the input, and nothing was wrong so far. -/
structure State.Sees (s : State) (signs : List Token.Sign) : Prop where
  upcoming : s.upcoming.map Token.sign = signs ++ [(Token.Kind.eof, [])]
  clean : s.complaints = []

/-- The current token and those ahead have these signs. -/
def State.Faces (s : State) : List Token.Sign → Prop
  | [] => s.current.kind = .eof ∧ s.complaints = []
  | sign :: signs => s.current.sign = sign ∧ s.Sees signs

/-- The kind of the first sign, if the input does not end there. -/
def nextKind : List Token.Sign → Token.Kind
  | [] => .eof
  | sign :: _ => sign.1

namespace State.Sees

variable {s : State} {sign : Token.Sign} {signs : List Token.Sign}

theorem peek (h : s.Sees signs) : s.peek.kind = nextKind signs := by
  obtain ⟨upcoming, -⟩ := h
  rw [State.peek]
  cases signs with
  | nil =>
      obtain ⟨t, rest, found, same, -⟩ := List.map_eq_cons_iff.1 upcoming
      rw [found]
      exact congrArg Prod.fst same
  | cons sign signs =>
      obtain ⟨t, rest, found, same, -⟩ := List.map_eq_cons_iff.1 upcoming
      rw [found]
      exact congrArg Prod.fst same

theorem advance (h : s.Sees signs) : s.advance.Faces signs := by
  obtain ⟨upcoming, clean⟩ := h
  cases signs with
  | nil =>
      obtain ⟨t, rest, found, same, -⟩ := List.map_eq_cons_iff.1 upcoming
      refine ⟨?_, clean⟩
      rw [State.advance, State.peek, found]
      exact congrArg Prod.fst same
  | cons sign signs =>
      obtain ⟨t, rest, found, same, others⟩ := List.map_eq_cons_iff.1 upcoming
      refine ⟨?_, ?_, clean⟩
      · rw [State.advance, State.peek, found]
        exact same
      · rw [State.advance, found]
        exact others

theorem peek_is (h : s.Sees signs) (k : Token.Kind) : s.peek.is k = (nextKind signs == k) := by
  rw [Token.is, h.peek]

theorem skip (h : s.Sees (sign :: signs)) : skip sign.1 s = (some true, s.advance) := by
  rw [Parse.skip, if_pos (by rw [h.peek_is]; exact beq_self_eq_true _)]

theorem skip_other (h : s.Sees signs) {k : Token.Kind} (other : nextKind signs ≠ k) :
    Parse.skip k s = (some false, s) := by
  rw [Parse.skip, if_neg (by rw [h.peek_is]; simpa using other)]

theorem expect (h : s.Sees (sign :: signs)) : expect sign.1 s = (some (), s.advance) := by
  rw [Parse.expect, if_pos (by rw [h.peek_is]; exact beq_self_eq_true _)]

end State.Sees

theorem State.Faces.clean {s : State} {signs : List Token.Sign} (h : s.Faces signs) :
    s.complaints = [] := by
  cases signs with
  | nil => exact h.2
  | cons => exact h.2.clean

theorem State.Faces.current_is {s : State} {signs : List Token.Sign} (h : s.Faces signs)
    (k : Token.Kind) : s.current.is k = (nextKind signs == k) := by
  have kind : s.current.kind = nextKind signs := by
    cases signs with
    | nil => exact h.1
    | cons => exact congrArg Prod.fst h.1
  rw [Token.is, kind]

theorem State.Faces.currentIs {s : State} {signs : List Token.Sign} (h : s.Faces signs)
    (k : Token.Kind) : currentIs k s = (some (nextKind signs == k), s) := by
  rw [Parse.currentIs, h.current_is]

/-! Names and conditions. -/

/-- What may stand behind an expression that is a name alone. -/
def endsName : List Token.Kind :=
  [.eof, .operator .comma, .operator .bracketClose, .operator .parenClose, .operator .semicolon]

/-- A name alone is an expression where nothing behind it goes on with it. -/
theorem name_read (level depth : Nat) (enough : 2 ≤ depth) {s : State} {name : Text}
    {rest : List Token.Sign} (here : s.Faces ((.identifier, name) :: rest))
    (ends : nextKind rest ∈ endsName) (weak : Level.ofKind (nextKind rest) ≤ level) :
    run depth (.expression level) s = (some (.identifier s.current name), s) := by
  obtain ⟨depth, rfl⟩ : ∃ d, depth = d + 2 := ⟨depth - 2, by omega⟩
  obtain ⟨sign, ahead⟩ := here
  obtain ⟨kind, literal⟩ := Prod.mk.inj sign
  have other {k : Token.Kind} (h : k ∉ endsName) : s.peek.is k = false := by
    rw [ahead.peek_is]
    exact beq_false_of_ne fun same => h (same ▸ ends)
  have operand : operand (run (depth + 1)) s = (some (.identifier s.current name), s) := by
    rw [operand_identifier kind, nameOperand, bind_eq peek_eq, if_neg (by simp [other, endsName])]
    split
    · have function : skip (.keyword .function) s = (some false, s) := by
        rw [skip, if_neg (by simp [other, endsName])]
      rw [bind_eq function, if_neg Bool.false_ne_true, if_neg (by simp [other, endsName]),
        if_neg (by simp [other, endsName]), literal]
      rfl
    · rw [literal]
      rfl
  obtain ⟨l, peeked, least⟩ := peekLevel_bound s
  rw [ahead.peek] at least
  change expression (run (depth + 1)) level s = _
  rw [expression, bind_eq operand]
  change operators (run depth) level _ s = _
  rw [operators, bind_eq peeked, if_neg (Nat.not_lt.2 (Nat.le_trans least weak))]
  rfl

/-- A name in parentheses. -/
theorem condition_read (depth : Nat) (enough : 2 ≤ depth) {s : State} {u : Token} {name : Text}
    {rest : List Token.Sign} (ahead : s.Sees ((Node.identifier u name).conditionSigns ++ rest)) :
    ∃ t s', condition (run depth) s = (some (.identifier t name), s') ∧ s'.Sees rest := by
  have inside := ahead.advance.2.advance
  have closing : Token.Kind.operator .parenClose ∈ endsName := by decide
  have read := name_read Level.lowest depth enough inside closing (Nat.le_refl _)
  have expected : expect (.operator .parenOpen) s = (some (), s.advance) := ahead.expect
  have closed : expect (.operator .parenClose) s.advance.advance = (some (), s.advance.advance.advance) :=
    inside.2.expect
  refine ⟨s.advance.advance.current, s.advance.advance.advance, ?_, inside.2.advance.2⟩
  rw [condition, bind_eq expected, bind_eq advance_eq, bind_eq read, bind_eq closed]
  rfl

/-! Statements. -/

open Node (IsControl guarded guardedAll controlSigns controlSignsAll)

/-- A statement that nothing is wrong with is an item of a list. -/
theorem item_read {depth : Nat} {s s' : State} {n : Node} (read : run depth .statement s = (some n, s'))
    (clean : s.complaints = []) (clean' : s'.complaints = []) :
    item (run depth) s = (some (some n), s'.advance) := by
  have watched : watch (attempt (run depth .statement)) s = (some (some n, false), s') := by
    rw [watch, attempt, read]
    simp [clean, clean']
  rw [item, bind_eq watched]
  rfl

/-- A statement is read from its signs, unless it ends in a choice that would take the alternative behind
it. -/
def ReadsStatement (n : Node) (signs : List Token.Sign) (isOpen : Bool) : Prop :=
  ∀ (depth : Nat) (s : State) (rest : List Token.Sign), signs.length < depth →
    s.Faces (signs ++ rest) → (isOpen → nextKind rest ≠ .keyword .else) →
    ∃ n' s', run depth .statement s = (some n', s') ∧ n'.Alike n ∧ s'.Sees rest

section
variable {n : Node} {signs : List Token.Sign} {isOpen : Bool} (h : ReadsStatement n signs isOpen)
include h

/-- The statement may still be ahead. -/
theorem ReadsStatement.ahead (depth : Nat) {s : State} {rest : List Token.Sign}
    (enough : signs.length < depth) (ahead : s.Sees (signs ++ rest))
    (closed : isOpen → nextKind rest ≠ .keyword .else) :
    ∃ n' s', body (run depth) s = (some n', s') ∧ n'.Alike n ∧ s'.Sees rest := by
  obtain ⟨n', s', read, alike, left⟩ := h depth s.advance rest enough ahead.advance closed
  exact ⟨n', s', by rw [body, bind_eq advance_eq, read], alike, left⟩

/-- The statement may be one of a list. -/
theorem ReadsStatement.listed (depth : Nat) {s : State} {rest : List Token.Sign}
    (enough : signs.length < depth) (here : s.Faces (signs ++ rest))
    (closed : isOpen → nextKind rest ≠ .keyword .else) :
    ∃ n' s', item (run depth) s = (some (some n'), s') ∧ n'.Alike n ∧ s'.Faces rest := by
  obtain ⟨n', s', read, alike, left⟩ := h depth s rest enough here closed
  exact ⟨n', s'.advance, item_read read here.clean left.clean, alike, left.advance⟩

end

/-- Statements of a list. None of them starts with an alternative or ends the list. -/
inductive ReadsStatements : List Node → List Token.Sign → Prop
  | nil : ReadsStatements [] []
  | cons {n : Node} {ns : List Node} {k : Token.Kind} {literal : Text} {signs signs' : List Token.Sign}
      {isOpen : Bool} (first : ReadsStatement n ((k, literal) :: signs) isOpen)
      (starts : k ≠ .keyword .else ∧ k ≠ .operator .braceClose ∧ k ≠ .eof)
      (rest : ReadsStatements ns signs') : ReadsStatements (n :: ns) ((k, literal) :: signs ++ signs')

namespace ReadsStatements

variable {ns : List Node} {signs : List Token.Sign} (h : ReadsStatements ns signs)
include h

theorem nextKind_ne_else {rest : List Token.Sign} (last : nextKind rest ≠ .keyword .else) :
    nextKind (signs ++ rest) ≠ .keyword .else := by
  cases h with
  | nil => exact last
  | cons _ starts => exact starts.1

/-- Statements up to a closing brace. -/
theorem blockItems (depth : Nat) {s : State} {rest : List Token.Sign} (enough : signs.length + 2 ≤ depth)
    (here : s.Faces (signs ++ Operator.braceClose.sign :: rest)) :
    ∃ ns' s', run depth .blockItems s = (some ns', s') ∧
      ns'.map Node.withoutTokens = ns.map Node.withoutTokens ∧
      s'.Faces (Operator.braceClose.sign :: rest) := by
  induction h generalizing depth s with
  | nil =>
      obtain ⟨depth, rfl⟩ : ∃ d, depth = d + 1 := ⟨depth - 1, by omega⟩
      refine ⟨[], s, ?_, rfl, here⟩
      change Parse.blockItems (run depth) s = _
      rw [Parse.blockItems, bind_eq (here.currentIs _)]
      rfl
  | @cons n ns k literal signs signs' isOpen first starts others ih =>
      obtain ⟨depth, rfl⟩ : ∃ d, depth = d + 1 := ⟨depth - 1, by omega⟩
      simp only [List.length_append, List.length_cons] at enough
      rw [List.append_assoc] at here
      have follows : nextKind (signs' ++ Operator.braceClose.sign :: rest) ≠ .keyword .else :=
        others.nextKind_ne_else (by rintro ⟨⟩)
      obtain ⟨n', s', read, alike, left⟩ := first.listed depth (by simp only [List.length_cons]; omega) here
        fun _ => follows
      obtain ⟨ns', s'', readAll, alikes, after⟩ := ih depth (by omega) left
      refine ⟨n' :: ns', s'', ?_, congrArg₂ List.cons alike alikes, after⟩
      change Parse.blockItems (run depth) s = _
      rw [Parse.blockItems, bind_eq (here.currentIs _), if_neg (by simpa [nextKind] using starts.2.1),
        bind_eq (here.currentIs _), if_neg (by simpa [nextKind] using starts.2.2), bind_eq read,
        bind_eq readAll]
      rfl

/-- Statements up to the end of the input. -/
theorem programItems (depth : Nat) {s : State} (enough : signs.length + 2 ≤ depth)
    (here : s.Faces signs) :
    ∃ ns' s', run depth .programItems s = (some ns', s') ∧
      ns'.map Node.withoutTokens = ns.map Node.withoutTokens ∧ s'.complaints = [] := by
  induction h generalizing depth s with
  | nil =>
      obtain ⟨depth, rfl⟩ : ∃ d, depth = d + 1 := ⟨depth - 1, by omega⟩
      refine ⟨[], s, ?_, rfl, here.clean⟩
      change Parse.programItems (run depth) s = _
      rw [Parse.programItems, bind_eq (here.currentIs _)]
      rfl
  | @cons n ns k literal signs signs' isOpen first starts others ih =>
      obtain ⟨depth, rfl⟩ : ∃ d, depth = d + 1 := ⟨depth - 1, by omega⟩
      simp only [List.length_append, List.length_cons] at enough
      have follows : nextKind signs' ≠ .keyword .else := by
        have next := others.nextKind_ne_else (show nextKind [] ≠ .keyword .else by rintro ⟨⟩)
        rwa [List.append_nil] at next
      obtain ⟨n', s', read, alike, left⟩ := first.listed depth (by simp only [List.length_cons]; omega) here
        fun _ => follows
      obtain ⟨ns', s'', readAll, alikes, clean⟩ := ih depth (by omega) left
      refine ⟨n' :: ns', s'', ?_, congrArg₂ List.cons alike alikes, clean⟩
      change Parse.programItems (run depth) s = _
      rw [Parse.programItems, bind_eq (here.currentIs _),
        if_neg (by simpa [nextKind] using starts.2.2), bind_eq read, bind_eq readAll]
      rfl

/-- A block. -/
theorem block (t : Token) : ReadsStatement (.block t ns) (Token.block [signs]) false := by
  intro depth s rest enough here _
  simp only [Token.block, List.flatten_singleton, List.length_append, List.length_cons,
    List.length_nil] at enough
  obtain ⟨depth, rfl⟩ : ∃ d, depth = d + 1 := ⟨depth - 1, by omega⟩
  obtain ⟨sign, ahead⟩ := here
  have inside : s.Sees (signs ++ Operator.braceClose.sign :: rest) := by simpa using ahead
  obtain ⟨ns', s', read, alikes, left⟩ := h.blockItems depth (by omega) inside.advance
  refine ⟨.block s.current ns', s', ?_, ?_, left.2⟩
  · have kind : s.current.kind = .operator .braceOpen := congrArg Prod.fst sign
    change statement (run depth) s = _
    rw [statement, bind_eq current_eq, kind]
    change Parse.block (run depth) s = _
    have closes : s'.current.is (.operator .braceClose) = true := left.current_is _
    rw [Parse.block, bind_eq current_eq, bind_eq advance_eq, bind_eq read, bind_eq current_eq,
      if_pos closes]
    rfl
  · simp only [Node.Alike, Node.withoutTokens, Node.withoutTokensAll_eq_map, alikes]

end ReadsStatements

theorem emptyStatement_reads (t : Token) :
    ReadsStatement (.emptyStatement t) [Operator.semicolon.sign] false := by
  intro depth s rest enough here _
  obtain ⟨depth, rfl⟩ : ∃ d, depth = d + 1 := ⟨depth - 1, by omega⟩
  obtain ⟨sign, ahead⟩ := here
  have kind : s.current.kind = .operator .semicolon := congrArg Prod.fst sign
  refine ⟨.emptyStatement s.current, s, ?_, rfl, ahead⟩
  change statement (run depth) s = _
  rw [statement, bind_eq current_eq, kind]
  rfl

section
variable (t u : Token) (name : Text)

/-- A name with a semicolon. -/
theorem expressionStatement_reads :
    ReadsStatement (.expressionStatement t (.identifier u name))
      [(.identifier, name), Operator.semicolon.sign] false := by
  intro depth s rest enough here _
  simp only [List.length_cons, List.length_nil] at enough
  obtain ⟨depth, rfl⟩ : ∃ d, depth = d + 1 := ⟨depth - 1, by omega⟩
  have ends : Token.Kind.operator .semicolon ∈ endsName := by decide
  have read := name_read Level.lowest depth (by omega) here ends (Nat.le_refl _)
  obtain ⟨sign, ahead⟩ := here
  have kind : s.current.kind = .identifier := congrArg Prod.fst sign
  have finished : finishStatement s = (some (), s.advance) := by
    have skipped : skip (.operator .semicolon) s = (some true, s.advance) := ahead.skip
    rw [finishStatement, bind_eq skipped]
    rfl
  refine ⟨.expressionStatement s.current (.identifier s.current name), s.advance, ?_, ?_,
    ahead.advance.2⟩
  · have colon : s.peek.is (.operator .colon) = false := ahead.peek_is _
    have function : s.peek.is (.keyword .function) = false := ahead.peek_is _
    have word : s.peek.is .identifier = false := ahead.peek_is _
    change statement (run depth) s = _
    rw [statement, bind_eq current_eq, kind]
    change wordStatement (run depth) s.current s = _
    rw [wordStatement, bind_eq peek_eq]
    simp only [colon, function, word, Bool.and_false, Bool.false_eq_true, if_false]
    rw [expressionStatement, bind_eq current_eq, bind_eq read, bind_eq finished]
    rfl
  · simp [Node.Alike, Node.withoutTokens]

variable {body : Node} {signs : List Token.Sign} {isOpen : Bool} (h : ReadsStatement body signs isOpen)
include h

theorem labeled_reads : ReadsStatement (.labeled t (.identifier u name) body)
    ((.identifier, name) :: Operator.colon.sign :: signs) isOpen := by
  intro depth s rest enough here closed
  simp only [List.length_cons] at enough
  obtain ⟨depth, rfl⟩ : ∃ d, depth = d + 1 := ⟨depth - 1, by omega⟩
  obtain ⟨sign, ahead⟩ := here
  obtain ⟨kind, literal⟩ := Prod.mk.inj sign
  obtain ⟨body', s', read, alike, left⟩ := h.ahead depth (by omega) ahead.advance.2 closed
  refine ⟨.labeled s.current (.identifier s.current name) body', s', ?_, ?_, left⟩
  · change statement (run depth) s = _
    rw [statement, bind_eq current_eq, kind]
    change wordStatement (run depth) s.current s = _
    have colon : s.peek.is (.operator .colon) = true := ahead.peek_is _
    rw [wordStatement, bind_eq peek_eq, if_pos colon, labeledStatement,
      bind_eq current_eq, bind_eq advance_eq, bind_eq read, literal]
    rfl
  · simp only [Node.Alike, Node.withoutTokens]
    rw [alike]

theorem whileStatement_reads : ReadsStatement (.whileStatement t (.identifier u name) body)
    (Keyword.while.sign :: (Node.identifier u name).conditionSigns ++ signs) isOpen := by
  intro depth s rest enough here closed
  simp only [Node.conditionSigns, List.length_append, List.length_cons, List.length_nil] at enough
  obtain ⟨depth, rfl⟩ : ∃ d, depth = d + 1 := ⟨depth - 1, by omega⟩
  rw [List.append_assoc] at here
  obtain ⟨sign, ahead⟩ := here
  have kind : s.current.kind = .keyword .while := congrArg Prod.fst sign
  obtain ⟨c, s₁, test, ahead⟩ := condition_read depth (by omega) ahead
  obtain ⟨body', s', read, alike, left⟩ := h.ahead depth (by omega) ahead closed
  refine ⟨.whileStatement s.current (.identifier c name) body', s', ?_, ?_, left⟩
  · change statement (run depth) s = _
    rw [statement, bind_eq current_eq, kind]
    change whileStatement (run depth) s = _
    rw [whileStatement, bind_eq current_eq, bind_eq test, bind_eq read]
    rfl
  · simp only [Node.Alike, Node.withoutTokens]
    rw [alike]

theorem doWhile_reads : ReadsStatement (.doWhile t body (.identifier u name))
    (Keyword.do.sign :: signs ++ Keyword.while.sign :: (Node.identifier u name).conditionSigns ++
      [Operator.semicolon.sign]) false := by
  intro depth s rest enough here _
  simp only [Node.conditionSigns, List.length_append, List.length_cons, List.length_nil] at enough
  obtain ⟨depth, rfl⟩ : ∃ d, depth = d + 1 := ⟨depth - 1, by omega⟩
  obtain ⟨sign, ahead⟩ := here
  have kind : s.current.kind = .keyword .do := congrArg Prod.fst sign
  have ahead : s.Sees (signs ++ Keyword.while.sign :: ((Node.identifier u name).conditionSigns ++
      (Operator.semicolon.sign :: rest))) := by
    simpa using ahead
  obtain ⟨body', s₁, read, alike, ahead⟩ :=
    h.ahead depth (by omega) ahead fun _ => by rintro ⟨⟩
  have expected : expect (.keyword .while) s₁ = (some (), s₁.advance) := ahead.expect
  obtain ⟨c, s₂, test, ahead⟩ := condition_read depth (by omega) ahead.advance.2
  have skipped : skip (.operator .semicolon) s₂ = (some true, s₂.advance) := ahead.skip
  refine ⟨.doWhile s.current body' (.identifier c name), s₂.advance, ?_, ?_, ahead.advance.2⟩
  · change statement (run depth) s = _
    rw [statement, bind_eq current_eq, kind]
    change doWhile (run depth) s = _
    rw [doWhile, bind_eq current_eq, bind_eq read, bind_eq expected, bind_eq test, bind_eq skipped]
    rfl
  · simp only [Node.Alike, Node.withoutTokens]
    rw [alike]

/-- A choice without an alternative. -/
theorem option_reads : ReadsStatement (.ifStatement t (.identifier u name) body .absent)
    (Keyword.if.sign :: (Node.identifier u name).conditionSigns ++ signs) true := by
  intro depth s rest enough here closed
  simp only [Node.conditionSigns, List.length_append, List.length_cons, List.length_nil] at enough
  obtain ⟨depth, rfl⟩ : ∃ d, depth = d + 1 := ⟨depth - 1, by omega⟩
  rw [List.append_assoc] at here
  obtain ⟨sign, ahead⟩ := here
  have kind : s.current.kind = .keyword .if := congrArg Prod.fst sign
  obtain ⟨c, s₁, test, ahead⟩ := condition_read depth (by omega) ahead
  obtain ⟨body', s', read, alike, left⟩ := h.ahead depth (by omega) ahead fun _ => closed rfl
  refine ⟨.ifStatement s.current (.identifier c name) body' .absent, s', ?_, ?_, left⟩
  · change statement (run depth) s = _
    rw [statement, bind_eq current_eq, kind]
    change ifStatement (run depth) s = _
    rw [ifStatement, bind_eq current_eq, bind_eq test, bind_eq read, bind_eq (left.skip_other (closed rfl))]
    rfl
  · simp only [Node.Alike, Node.withoutTokens]
    rw [alike]

/-- A choice with an alternative behind a consequence that would not take it. -/
theorem choice_reads (closed : isOpen = false) {other : Node} {signs' : List Token.Sign} {isOpen' : Bool}
    (h' : ReadsStatement other signs' isOpen') :
    ReadsStatement (.ifStatement t (.identifier u name) body other)
      (Keyword.if.sign :: (Node.identifier u name).conditionSigns ++ signs ++
        Keyword.else.sign :: signs') isOpen' := by
  subst closed
  intro depth s rest enough here closed
  simp only [Node.conditionSigns, List.length_append, List.length_cons, List.length_nil] at enough
  obtain ⟨depth, rfl⟩ : ∃ d, depth = d + 1 := ⟨depth - 1, by omega⟩
  obtain ⟨sign, ahead⟩ := here
  have kind : s.current.kind = .keyword .if := congrArg Prod.fst sign
  have ahead : s.Sees ((Node.identifier u name).conditionSigns ++ (signs ++ Keyword.else.sign ::
      (signs' ++ rest))) := by
    simpa using ahead
  obtain ⟨c, s₁, test, ahead⟩ := condition_read depth (by omega) ahead
  obtain ⟨body', s₂, read, alike, ahead⟩ := h.ahead depth (by omega) ahead nofun
  have skipped : skip (.keyword .else) s₂ = (some true, s₂.advance) := ahead.skip
  obtain ⟨other', s', read', alike', left⟩ :=
    h'.ahead depth (by omega) ahead.advance.2 closed
  refine ⟨.ifStatement s.current (.identifier c name) body' other', s', ?_, ?_, left⟩
  · change statement (run depth) s = _
    rw [statement, bind_eq current_eq, kind]
    change ifStatement (run depth) s = _
    rw [ifStatement, bind_eq current_eq, bind_eq test, bind_eq read, bind_eq skipped, if_pos rfl,
      bind_eq read']
    rfl
  · simp only [Node.Alike, Node.withoutTokens]
    rw [alike, alike']

end

/-- A control statement starts with no word that belongs to the statement around it. -/
theorem controlSigns_starts {n : Node} (h : n.IsControl) : ∃ k literal signs,
    n.controlSigns = (k, literal) :: signs ∧
      k ≠ .keyword .else ∧ k ≠ .operator .braceClose ∧ k ≠ .eof := by
  cases h <;> exact ⟨_, _, _, rfl, by decide⟩

/-- A control statement is read from its signs with the blocks that are put around consequences. -/
theorem control_reads {n : Node} (h : n.IsControl) :
    ReadsStatement n.guarded n.controlSigns n.endsInOpenIf := by
  induction h with
  | @expression t u name => exact expressionStatement_reads t u name
  | @empty t => exact emptyStatement_reads t
  | @block t body items ih =>
      have all : ReadsStatements (guardedAll body) (controlSignsAll body) := by
        induction body with
        | nil => exact .nil
        | cons s body others =>
            obtain ⟨here, rest⟩ := List.forall_mem_cons.1 items
            obtain ⟨first, later⟩ := List.forall_mem_cons.1 ih
            obtain ⟨k, literal, signs, split, starts⟩ := controlSigns_starts here
            rw [controlSignsAll, split]
            exact .cons (split ▸ first) starts (others rest later)
      exact all.block t
  | @choice t u name a b word yes no ihYes ihNo =>
      cases present : b.isPresent with
      | false =>
          obtain rfl : b = .absent := by
            cases b with
            | absent => rfl
            | _ => cases present
          have read := option_reads t u name ihYes
          simpa [guarded, controlSigns, Node.endsInOpenIf, Node.isPresent] using read
      | true =>
          have other := ihNo present
          cases closed : a.endsInOpenIf with
          | false =>
              have read := choice_reads t u name ihYes closed other
              simpa [guarded, controlSigns, Node.endsInOpenIf, present, closed] using read
          | true =>
              -- The braces close the choice that the consequence ends in.
              obtain ⟨k, literal, signs, split, starts⟩ := controlSigns_starts yes
              have inside : ReadsStatements [a.guarded] a.controlSigns := by
                have single := ReadsStatements.cons (split ▸ ihYes) starts .nil
                rwa [List.append_nil, ← split] at single
              have read := choice_reads t u name (inside.block {}) rfl other
              simpa [guarded, controlSigns, Node.endsInOpenIf, present, closed] using read
  | @whileLoop t u name body word round ih => exact whileStatement_reads t u name ih
  | @doLoop t u name body word round ih => exact doWhile_reads t u name ih
  | @labeled t u name body word marked ih => exact labeled_reads t u name ih

/-- A parser starts before the signs of the script. -/
theorem start_faces {source : Text} {signs : List Token.Sign}
    (scanned : (Token.scan source).map Token.sign = signs ++ [(Token.Kind.eof, [])]) :
    (State.start source).Faces signs := by
  obtain ⟨tokens, ending, split, -, -⟩ := Token.scan_ends source
  obtain ⟨whole, same⟩ := State.start_eq split
  have clean : (State.start source).complaints = [] := by rw [same]
  have signs' : ((State.start source).current :: (State.start source).upcoming).map Token.sign =
      signs ++ [(Token.Kind.eof, [])] := by
    rw [whole, ← split, scanned]
  cases signs with
  | nil => exact ⟨congrArg Prod.fst (List.cons.inj signs').1, clean⟩
  | cons sign signs => exact ⟨(List.cons.inj signs').1, (List.cons.inj signs').2, clean⟩

end CoScript.Parse

namespace CoScript

open Parse

/-- An alternative is never taken by a choice in the consequence in front of it. What is printed for a
control statement is read without complaints as the same statement with a block around exactly those
consequences of a choice with an alternative that end in a choice without one. -/
theorem Node.IsControl.reads_guarded {n : Node} (h : n.IsControl) {indent : Text}
    (blank : ∀ g ∈ indent, Trivia.isBlank g) :
    ∃ text, n.print indent = .ok text ∧ ∃ m,
      Script.parse (.ofText text) = .ok (.program [m]) ∧ m.Alike n.guarded := by
  obtain ⟨text, doc, read⟩ := Print.control_spells blank h blank_nil
  have scanned : (Token.scan text).map Token.sign = n.controlSigns ++ [(Token.Kind.eof, [])] :=
    ReadsAsTokens.scan (read [] [] blank_nil)
  have items : ReadsStatements [n.guarded] n.controlSigns := by
    obtain ⟨k, literal, signs, split, starts⟩ := controlSigns_starts h
    have single := ReadsStatements.cons (split ▸ control_reads h) starts .nil
    rwa [List.append_nil, ← split] at single
  obtain ⟨ns, s, answered, alikes, clean⟩ := items.programItems
    (max (depthBound text) (n.controlSigns.length + 2)) (by omega) (start_faces scanned)
  obtain ⟨m, none, rfl, alike, nothing⟩ := List.map_eq_cons_iff.1 alikes
  obtain rfl := List.map_eq_nil_iff.1 nothing
  refine ⟨text, ?_, m, ?_, alike⟩
  · rw [Node.print, Print.Doc.run, doc]
    rfl
  · rw [run_start (by omega)] at answered
    have outcome : Parse.script text = ⟨.program [m], []⟩ := by
      rw [Parse.script, answered, ← clean]
      rfl
    rw [Script.parse, Script.read, show (Source.ofText text).content = text from rfl, outcome]
    rfl

/-- In `if (a) l: while (b) if (c) x; else y;`, made up so that the alternative is that of the first
choice, the consequence is put in braces. -/
theorem Node.IsControl.reads_guarded_label : ∃ n : Node,
    n = .ifStatement {} (.identifier {} (txt "a"))
      (.labeled {} (.identifier {} (txt "l")) (.whileStatement {} (.identifier {} (txt "b"))
        (.ifStatement {} (.identifier {} (txt "c"))
          (.expressionStatement {} (.identifier {} (txt "x"))) .absent)))
      (.expressionStatement {} (.identifier {} (txt "y"))) ∧
    n.IsControl ∧ (∀ g ∈ Print.defaultIndent, Trivia.isBlank g) ∧
    n.print = .ok (txt "if (a) \x7b\n  l: while (b) if (c) x;\n\x7d else y;") ∧
    ∃ text, n.print = .ok text ∧ ∃ m,
      Script.parse (.ofText text) = .ok (.program [m]) ∧ m.Alike n.guarded := by
  have word (c : Char) (plain : isPlainLetter c) (free : Keyword.ofText? (.ofChars [c]) = none) :
      ReadsAs .identifier (.ofChars [c]) :=
    readsAs_identifier plain nofun free
  have inner : IsControl (.ifStatement {} (.identifier {} (txt "c"))
      (.expressionStatement {} (.identifier {} (txt "x"))) .absent) :=
    .choice (word 'c' rfl rfl) (.expression (word 'x' rfl rfl)) nofun
  have control : IsControl (.ifStatement {} (.identifier {} (txt "a"))
      (.labeled {} (.identifier {} (txt "l")) (.whileStatement {} (.identifier {} (txt "b"))
        (.ifStatement {} (.identifier {} (txt "c"))
          (.expressionStatement {} (.identifier {} (txt "x"))) .absent)))
      (.expressionStatement {} (.identifier {} (txt "y")))) :=
    .choice (word 'a' rfl rfl) (.labeled (word 'l' rfl rfl) (.whileLoop (word 'b' rfl rfl) inner))
      fun _ => .expression (word 'y' rfl rfl)
  have blank : ∀ g ∈ Print.defaultIndent, Trivia.isBlank g := by decide
  exact ⟨_, rfl, control, blank, rfl, control.reads_guarded blank⟩

end CoScript
