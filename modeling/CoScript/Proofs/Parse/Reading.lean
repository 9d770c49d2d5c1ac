import CoScript.Proofs.Parse.Motion
import CoScript.Proofs.Print.OperatorTree
import CoScript.Proofs.Tree.Tokens

/-!
Reading words. For each construct of an expression: if its parts are read from the words that they are
written as, then so is the whole.
-/
namespace CoScript.Parse

open Word

/-! Words ahead of the parser. -/

/-- The tokens ahead are these words, followed by the end of the input. Nothing was wrong so far, `in`
is an operator, and no arrow is ahead. -/
structure State.Ahead (s : State) (ws : List Word) : Prop where
  reads : ∃ (ts : List Token) (e : Token), s.upcoming = ts ++ [e] ∧
    List.Forall₂ Token.Reads ts ws ∧ e.kind = .eof
  noArrow : s.NoArrow
  admitsIn : s.noIn = false
  clean : s.complaints = []

/-- The current token and those ahead are these words. -/
def State.At (s : State) : List Word → Prop
  | [] => s.current.kind = .eof ∧ s.complaints = []
  | w :: ws => s.current.kind = w.kind ∧ s.current.literal = w.text ∧ s.Ahead ws

namespace State

variable {s : State} {w : Word} {ws vs : List Word}

theorem Ahead.peek (h : s.Ahead (w :: ws)) : s.peek.Reads w := by
  obtain ⟨ts, e, upcoming, reads, -⟩ := h.reads
  cases reads with
  | cons first rest =>
      rw [State.peek, upcoming]
      exact first

theorem Ahead.peek_nil (h : s.Ahead []) : s.peek.kind = .eof := by
  obtain ⟨ts, e, upcoming, reads, ended⟩ := h.reads
  cases reads with
  | nil =>
      rw [State.peek, upcoming]
      exact ended

theorem Ahead.advance (h : s.Ahead (w :: ws)) : s.advance.Ahead ws := by
  obtain ⟨ts, e, upcoming, reads, ended⟩ := h.reads
  cases reads with
  | cons first rest =>
      refine ⟨⟨_, e, ?_, rest, ended⟩, ?_, h.admitsIn, h.clean⟩
      · rw [State.advance, upcoming]
        rfl
      · exact (Reaches.of (.advance s)).noArrow h.noArrow

theorem Ahead.at (h : s.Ahead ws) : s.advance.At ws := by
  cases ws with
  | nil => exact ⟨h.peek_nil, h.clean⟩
  | cons w ws => exact ⟨h.peek.kind, h.peek.literal, h.advance⟩

theorem At.spaced {gap : Gap} (h : s.At (spaced gap ws ++ vs)) : s.At (ws ++ vs) := by
  cases ws with
  | nil => exact h
  | cons w ws => exact h

end State

/-! Running parsers. -/

section
variable {α : Type} {p : Parse α} {s s' : State}

theorem allowIn_eq {r : Option α} (h : s.noIn = false) (run : p s = (r, s')) (h' : s'.noIn = false) :
    allowIn p s = (r, s') := by
  have here : { s with noIn := false } = s := by rw [← h]
  have there : { s' with noIn := s.noIn } = s' := by rw [h, ← h']
  rw [allowIn, here, run]
  exact congrArg (Prod.mk r) there

end

section
variable {s : State} {w : Word} {ws : List Word}

theorem skip_sign {o : Operator} {gap : Gap} (h : s.Ahead (sign o gap :: ws)) :
    skip (.operator o) s = (some true, s.advance) := by
  rw [skip, if_pos (by simp [Token.is, h.peek.kind, sign])]

theorem skip_ne {k : Token.Kind} (h : s.Ahead (w :: ws)) (hk : w.kind ≠ k) :
    skip k s = (some false, s) := by
  rw [skip, if_neg (by simp [Token.is, h.peek.kind, hk])]

theorem peekIs_ne {k : Token.Kind} (h : s.Ahead (w :: ws)) (hk : w.kind ≠ k) :
    peekIs k s = (some false, s) := by
  rw [peekIs, Token.is, h.peek.kind, beq_false_of_ne hk]

theorem expect_sign {o : Operator} {gap : Gap} (h : s.Ahead (sign o gap :: ws)) :
    expect (.operator o) s = (some (), s.advance) := by
  rw [expect, if_pos (by simp [Token.is, h.peek.kind, sign])]

end

/-- The binding strength of the word ahead. -/
def nextLevel : List Word → Nat
  | [] => Level.lowest
  | w :: _ => Level.ofKind w.kind

theorem lowest_le_ofKind (k : Token.Kind) : Level.lowest ≤ Level.ofKind k := by
  cases k with
  | operator o => cases o <;> decide
  | keyword k => cases k <;> decide
  | _ => decide

theorem peekLevel_cons {s : State} {w : Word} {ws : List Word} (h : s.Ahead (w :: ws))
    (sameLine : w.gap.breaks = false) : peekLevel s = (some (Level.ofKind w.kind), s) := by
  have newline : s.peek.newlineBefore = false := by
    rw [h.peek.newline, sameLine]
  rw [← h.peek.kind, peekLevel, if_neg]
  split <;> simp [newline, h.admitsIn]

/-- An operator binds no more strongly than its kind says. -/
theorem peekLevel_bound (s : State) :
    ∃ p, peekLevel s = (some p, s) ∧ p ≤ Level.ofKind s.peek.kind := by
  have bound (barred : Bool) :
      (if barred then Level.lowest else Level.ofKind s.peek.kind) ≤ Level.ofKind s.peek.kind := by
    split
    · exact lowest_le_ofKind _
    · exact Nat.le_refl _
  exact ⟨_, rfl, bound _⟩

theorem peekLevel_le {s : State} {rest : List Word} (h : s.Ahead rest) :
    ∃ p, peekLevel s = (some p, s) ∧ p ≤ nextLevel rest := by
  have next : Level.ofKind s.peek.kind = nextLevel rest := by
    cases rest with
    | nil => rw [h.peek_nil, nextLevel]; rfl
    | cons w ws => rw [h.peek.kind, nextLevel]
  rw [← next]
  exact peekLevel_bound s

/-! Reading expressions. -/

/-- Reading words as an expression comes down to going on from a node with what follows the words. The
bound on nesting is used up by one level for a word at most. -/
def Leads (n : Node) (ws : List Word) (level : Nat) (rest : List Word) : Prop :=
  ∀ (depth : Nat) (s : State), 2 * ws.length ≤ depth → s.At (ws ++ rest) →
    ∃ depth' s' n', depth ≤ depth' + ws.length ∧
      run depth (.expression level) s = run depth' (.operators level n') s' ∧
      n'.Alike n ∧ s'.Ahead rest

/-- Words are read as a node, and the parser stops at what follows them. -/
def Completes (n : Node) (ws : List Word) (level : Nat) (rest : List Word) : Prop :=
  ∀ (depth : Nat) (s : State), 2 * ws.length ≤ depth → s.At (ws ++ rest) →
    ∃ n' s', run depth (.expression level) s = (some n', s') ∧ n'.Alike n ∧ s'.Ahead rest

section
variable {n : Node} {ws : List Word} {level : Nat} {rest : List Word}

theorem Leads.completes (h : Leads n ws level rest) (nonempty : ws ≠ [])
    (weak : nextLevel rest ≤ level) : Completes n ws level rest := by
  intro depth s enough here
  have length := List.length_pos_iff.2 nonempty
  obtain ⟨depth', s', n', used, read, alike, ahead⟩ := h depth s enough here
  obtain ⟨depth', rfl⟩ : ∃ d, depth' = d + 1 := ⟨depth' - 1, by omega⟩
  obtain ⟨p, next, bound⟩ := peekLevel_le ahead
  refine ⟨n', s', ?_, alike, ahead⟩
  rw [read]
  change operators (run depth') level n' s' = _
  rw [operators, bind_eq next, if_neg (Nat.not_lt.2 (bound.trans weak))]
  rfl

theorem Completes.spaced (h : Completes n ws level rest) (gap : Gap) :
    Completes n (spaced gap ws) level rest := by
  intro depth s enough here
  rw [length_spaced] at enough
  exact h depth s enough here.spaced

/-- The words may still be ahead. -/
theorem Completes.ahead (h : Completes n ws level rest) (depth : Nat) {s : State}
    (enough : 2 * ws.length ≤ depth) (ahead : s.Ahead (ws ++ rest)) :
    ∃ n' s', run depth (.expression level) s.advance = (some n', s') ∧ n'.Alike n ∧
      s'.Ahead rest :=
  h depth s.advance enough ahead.at

end

/-- An operand that is read as a whole. -/
theorem Leads.of_operand {n : Node} {w : Word} {ws : List Word} {level : Nat} {rest : List Word}
    (h : ∀ (depth : Nat) (s : State), 2 * ws.length ≤ depth → s.At (w :: (ws ++ rest)) →
      ∃ n' s', operand (run depth) s = (some n', s') ∧ n'.Alike n ∧ s'.Ahead rest) :
    Leads n (w :: ws) level rest := by
  intro depth s enough here
  rw [List.length_cons] at enough
  obtain ⟨depth, rfl⟩ : ∃ d, depth = d + 1 := ⟨depth - 1, by omega⟩
  obtain ⟨n', s', read, alike, ahead⟩ := h depth s (by omega) here
  refine ⟨depth, s', n', by rw [List.length_cons]; omega, ?_, alike, ahead⟩
  change expression (run depth) level s = _
  rw [expression, bind_eq read]

/-- An operator after an operand. -/
theorem Leads.of_operator {left n : Node} {ws vs : List Word} {w : Word} {level : Nat}
    {rest : List Word} (h : Leads left ws level (w :: (vs ++ rest)))
    (tight : level < Level.ofKind w.kind) (sameLine : w.gap.breaks = false)
    (more : ∀ (depth : Nat) (s : State) (left' : Node), 2 * vs.length ≤ depth →
      s.At (w :: (vs ++ rest)) → left'.Alike left →
      ∃ n' s', operatorRest (run depth) left' s = (some n', s') ∧ n'.Alike n ∧ s'.Ahead rest) :
    Leads n (ws ++ w :: vs) level rest := by
  intro depth s enough here
  rw [List.length_append, List.length_cons] at enough
  rw [List.append_assoc, List.cons_append] at here
  obtain ⟨depth₁, s₁, left', used, read, alike, ahead⟩ := h depth s (by omega) here
  obtain ⟨depth₂, rfl⟩ : ∃ d, depth₁ = d + 1 := ⟨depth₁ - 1, by omega⟩
  obtain ⟨n', s₂, continued, alike', ahead'⟩ :=
    more depth₂ s₁.advance left' (by omega) ahead.at alike
  refine ⟨depth₂, s₂, n', by rw [List.length_append, List.length_cons]; omega, ?_, alike', ahead'⟩
  rw [read]
  change operators (run depth₂) level left' s₁ = _
  rw [operators, bind_eq (peekLevel_cons ahead sameLine), if_pos tight]
  change (operatorRest (run depth₂) left' >>= fun n => run depth₂ (.operators level n)) s₁.advance = _
  rw [bind_eq continued]

/-! Operands. -/

section
variable {self : Recur} {s : State}

theorem peek_eq : peek s = (some s.peek, s) := rfl

theorem current_eq : current s = (some s.current, s) := rfl

theorem advance_eq : advance s = (some (), s.advance) := rfl

theorem operand_identifier (h : s.current.kind = .identifier) :
    operand self s = nameOperand self s.current s := by
  rw [operand, bind_eq current_eq, h]

theorem operand_number (h : s.current.kind = .number) :
    operand self s = (some (.number s.current s.current.literal), s) := by
  rw [operand, bind_eq current_eq, h]
  rfl

theorem operand_parens (h : s.current.kind = .operator .parenOpen) :
    operand self s = groupOperand self s := by
  rw [operand, bind_eq current_eq, h]

theorem operand_new (h : s.current.kind = .keyword .new) :
    operand self s = newOperand self s.current s := by
  rw [operand, bind_eq current_eq, h]

theorem operand_await (h : s.current.kind = .keyword .await) :
    operand self s = (do
      advance
      return .await s.current (← self (.expression Level.unary)) : Parse Node) s := by
  rw [operand, bind_eq current_eq, h]

theorem operand_unary {operator : String} (known : operator ∈ Node.prefixOperators)
    (h : s.current.kind = (ofText (txt operator)).kind) :
    operand self s = unaryOperand self s.current s := by
  simp only [Node.prefixOperators, List.mem_cons, List.not_mem_nil, or_false] at known
  rcases known with rfl | rfl | rfl | rfl | rfl | rfl | rfl <;>
    rw [operand, bind_eq current_eq, h] <;> rfl

theorem operand_update {operator : String} (known : operator ∈ Node.updateOperators)
    (h : s.current.kind = (ofText (txt operator)).kind) :
    operand self s = updateOperand self s.current s := by
  simp only [Node.updateOperators, List.mem_cons, List.not_mem_nil, or_false] at known
  rcases known with rfl | rfl <;> rw [operand, bind_eq current_eq, h] <;> rfl

end

section
variable {n : Node} {rest : List Word} {level : Nat}

/-- Words in parentheses. -/
theorem leads_parens {ws : List Word}
    (h : Completes n ws Level.lowest (sign .parenClose :: rest)) :
    Leads n (enclosed .parenOpen .parenClose ws) level rest := by
  refine .of_operand fun depth s enough here => ?_
  obtain ⟨kind, -, ahead⟩ := here
  rw [List.length_append] at enough
  rw [List.append_assoc, List.singleton_append] at ahead
  have foreseen : arrowAhead (run depth) s = (some false, s) := arrowAhead_of_noArrow ahead.noArrow
  obtain ⟨n', s', read, alike, left⟩ := h.ahead depth (by omega) ahead
  refine ⟨n', s'.advance, ?_, alike, left.advance⟩
  rw [operand_parens kind, groupOperand, bind_eq foreseen, if_neg Bool.false_ne_true]
  refine allowIn_eq ahead.admitsIn ?_ left.advance.admitsIn
  rw [bind_eq advance_eq, bind_eq read, bind_eq (expect_sign left)]
  rfl

theorem leads_identifier {t : Token} {name : Text} (sync : name ≠ txt "async") :
    Leads (.identifier t name) [⟨.identifier, name, .none⟩] level rest := by
  refine .of_operand fun depth s enough here => ?_
  obtain ⟨kind, literal, ahead⟩ := here
  refine ⟨.identifier s.current name, s, ?_, ?_, ahead⟩
  · have arrow : s.peek.is (.operator .arrow) = false := by
      simpa [Token.is] using ahead.noArrow.peek.1
    have other : (s.current.literal == txt "async") = false := by
      rw [literal]
      exact beq_false_of_ne sync
    rw [operand_identifier kind, nameOperand, bind_eq (peek_eq (s := s))]
    simp only [arrow, other, Bool.false_and, Bool.false_eq_true, if_false]
    rw [literal]
    rfl
  · simp [Node.Alike, Node.withoutTokens]

theorem leads_number {t : Token} {raw : Text} :
    Leads (.number t raw) [⟨.number, raw, .none⟩] level rest := by
  refine .of_operand fun depth s enough here => ?_
  obtain ⟨kind, literal, ahead⟩ := here
  refine ⟨.number s.current raw, s, ?_, ?_, ahead⟩
  · rw [operand_number kind, literal]
  · simp [Node.Alike, Node.withoutTokens]

section
variable {t : Token} {e : Node} {ws : List Word} (h : Completes e ws Level.unary rest)
include h

theorem leads_unary {operator : String} (known : operator ∈ Node.prefixOperators) :
    Leads (.unary t (txt operator) e) (ofText (txt operator) :: ws) level rest := by
  refine .of_operand fun depth s enough here => ?_
  obtain ⟨kind, literal, ahead⟩ := here
  obtain ⟨e', s', read, alike, left⟩ := h.ahead depth enough ahead
  refine ⟨.unary s.current (txt operator) e', s', ?_, ?_, left⟩
  · rw [operand_unary known kind, unaryOperand, bind_eq advance_eq, bind_eq read, literal]
    rfl
  · exact congrArg (Node.unary {} (txt operator)) alike

theorem leads_await : Leads (.await t e) (ofText (txt "await") :: ws) level rest := by
  refine .of_operand fun depth s enough here => ?_
  obtain ⟨kind, -, ahead⟩ := here
  obtain ⟨e', s', read, alike, left⟩ := h.ahead depth enough ahead
  refine ⟨.await s.current e', s', ?_, ?_, left⟩
  · rw [operand_await kind, bind_eq advance_eq, bind_eq read]
    rfl
  · exact congrArg (Node.await {}) alike

theorem leads_increment {operator : String} (known : operator ∈ Node.updateOperators)
    (assignable : e.isAssignable) :
    Leads (.update t (txt operator) e true) (ofText (txt operator) :: ws) level rest := by
  refine .of_operand fun depth s enough here => ?_
  obtain ⟨kind, literal, ahead⟩ := here
  obtain ⟨e', s', read, alike, left⟩ := h.ahead depth enough ahead
  refine ⟨.update s.current (txt operator) e' true, s', ?_, ?_, left⟩
  · rw [operand_update known kind, updateOperand, bind_eq advance_eq, bind_eq read,
      if_neg (by simp [alike.isAssignable, assignable]), literal]
    rfl
  · exact congrArg (Node.update {} (txt operator) · true) alike

end

end

/-! Lists of arguments. -/

open Node (IsOperatorTree elementWords)

/-- An element of a list that is read wherever a comma or a closing bracket follows. -/
structure ReadsElement (n : Node) : Prop where
  tree : IsOperatorTree n
  completes : ∀ rest, nextLevel rest ≤ Level.comma →
    Completes n (grouped (n.level < Level.assignment) n.words) Level.comma rest

theorem ReadsElement.phrase {n : Node} (h : ReadsElement n) :
    Phrase (grouped (n.level < Level.assignment) n.words) :=
  h.tree.phrase.grouped _

section
variable {s : State} {ws rest : List Word} (phrase : Phrase ws)
include phrase

/-- An expression starts here. -/
theorem State.At.opens (here : s.At (ws ++ rest)) : ∃ w : Word, w.opens ∧ s.current.kind = w.kind := by
  obtain ⟨w, hw, opens, -⟩ := phrase.opens
  cases ws with
  | nil => cases hw
  | cons v vs =>
      obtain rfl := Option.some.inj hw
      exact ⟨v, opens, here.1⟩

/-- An expression is ahead. -/
theorem State.Ahead.opens {gap : Gap} (ahead : s.Ahead (spaced gap ws ++ rest)) :
    ∃ w vs, spaced gap ws ++ rest = w :: vs ∧ w.opens := by
  cases ws with
  | nil => exact absurd rfl phrase.ne_nil
  | cons w ws => exact ⟨_, _, rfl, (phrase.first gap rfl).2.1⟩

end

theorem listElement_read {n : Node} (h : ReadsElement n) {rest : List Word}
    (weak : nextLevel rest ≤ Level.comma) (depth : Nat) {s : State}
    (enough : 2 * (grouped (n.level < Level.assignment) n.words).length ≤ depth)
    (here : s.At (grouped (n.level < Level.assignment) n.words ++ rest)) :
    ∃ n' s', listElement (run depth) s = (some n', s') ∧ n'.Alike n ∧ s'.Ahead rest := by
  obtain ⟨n', s', read, alike, left⟩ := h.completes rest weak depth s enough here
  refine ⟨n', s', ?_, alike, left⟩
  obtain ⟨w, opens, kind⟩ := here.opens h.phrase
  have plain : w.kind ≠ .operator .ellipsis := by
    intro same
    simp [Word.opens, same] at opens
  rw [listElement, bind_eq current_eq, if_neg (by simp [Token.is, kind, plain]), read]

theorem arguments_read {n : Node} {ns : List Node} (h : ∀ e ∈ n :: ns, ReadsElement e)
    {rest : List Word} {depth : Nat} {s : State}
    (enough : 2 * (separated (elementWords (n :: ns))).length < depth)
    (here : s.advance.At (separated (elementWords (n :: ns)) ++ sign .parenClose :: rest)) :
    ∃ args s', run depth .arguments s = (some args, s') ∧
      args.map Node.withoutTokens = (n :: ns).map Node.withoutTokens ∧
      s'.Ahead (sign .parenClose :: rest) := by
  induction ns generalizing n depth s with
  | nil =>
      obtain ⟨depth, rfl⟩ : ∃ d, depth = d + 1 := ⟨depth - 1, by omega⟩
      simp only [elementWords, separated, List.flatMap_nil, List.append_nil] at enough here
      have weak : nextLevel (sign .parenClose :: rest) ≤ Level.comma := Nat.le_of_ble_eq_true rfl
      obtain ⟨n', s', read, alike, left⟩ :=
        listElement_read (h n List.mem_cons_self) weak depth (by omega) here
      refine ⟨[n'], s', ?_, congrArg (fun m => [m]) alike, left⟩
      change arguments (run depth) s = _
      rw [arguments, bind_eq advance_eq, bind_eq read, bind_eq (skip_ne left (by decide))]
      rfl
  | cons m ms ih =>
      obtain ⟨depth, rfl⟩ : ∃ d, depth = d + 1 := ⟨depth - 1, by omega⟩
      obtain ⟨first, others⟩ := List.forall_mem_cons.1 h
      simp only [elementWords, separated, List.flatMap_cons, List.cons_append, List.append_assoc,
        List.length_append, List.length_cons] at enough here
      obtain ⟨n', s₁, read, alike, left⟩ :=
        listElement_read first (Nat.le_of_ble_eq_true rfl) depth (by omega) here
      have next := left.advance
      obtain ⟨w, vs, words, opens⟩ := next.opens (others m List.mem_cons_self).phrase
      have open' : w.kind ≠ .operator .parenClose := by
        intro same
        simp [Word.opens, same] at opens
      have here' := next.at
      rw [length_spaced] at enough
      obtain ⟨args, s₂, more, alikes, left'⟩ := ih others (s := s₁.advance)
        (show 2 * (separated (elementWords (m :: ms))).length < depth by
          simp only [elementWords, separated, List.length_append]
          omega)
        (by simpa only [elementWords, separated, List.append_assoc] using here'.spaced)
      refine ⟨n' :: args, s₂, ?_, ?_, left'⟩
      · change arguments (run depth) s = _
        rw [words] at next
        rw [arguments, bind_eq advance_eq, bind_eq read, bind_eq (skip_sign left), if_pos rfl,
          bind_eq (peekIs_ne next open'), if_neg Bool.false_ne_true, bind_eq more]
        rfl
      · rw [List.map_cons, alikes, alike]
        rfl

/-- Arguments in parentheses. -/
theorem argumentList_read {ns : List Node} (h : ∀ e ∈ ns, ReadsElement e) {rest : List Word}
    (depth : Nat) {s : State} (enough : 2 * (separated (elementWords ns)).length < depth)
    (ahead : s.Ahead (separated (elementWords ns) ++ sign .parenClose :: rest)) :
    ∃ args s', argumentList (run depth) s = (some args, s') ∧
      args.map Node.withoutTokens = ns.map Node.withoutTokens ∧ s'.Ahead rest := by
  cases ns with
  | nil =>
      refine ⟨[], s.advance, ?_, rfl, State.Ahead.advance ahead⟩
      refine allowIn_eq ahead.admitsIn ?_ (State.Ahead.advance ahead).admitsIn
      rw [bind_eq (skip_sign ahead)]
      rfl
  | cons n ns =>
      have phrase : Phrase (separated (elementWords (n :: ns))) :=
        (Phrase.separated (Print.elements_phrases fun e he => (h e he).tree)).resolve_left
          (by simp [elementWords, separated, (h n List.mem_cons_self).phrase.ne_nil])
      rw [← phrase.spaced_none] at ahead
      obtain ⟨w, vs, words, opens⟩ := ahead.opens phrase
      have open' : w.kind ≠ .operator .parenClose := by
        intro same
        simp [Word.opens, same] at opens
      have here := ahead.at
      obtain ⟨args, s', read, alikes, left⟩ := arguments_read h enough here.spaced
      refine ⟨args, s'.advance, ?_, alikes, left.advance⟩
      rw [words] at ahead
      refine allowIn_eq ahead.admitsIn ?_ left.advance.admitsIn
      rw [bind_eq (skip_ne ahead open'), if_neg Bool.false_ne_true, bind_eq read,
        bind_eq (expect_sign left)]
      rfl

theorem leads_new {t : Token} {f : Node} {args : List Node} {ws : List Word} {level : Nat}
    {rest : List Word} (phrase : Phrase ws)
    (callee : ∀ rest, nextLevel rest ≤ Level.call → Completes f ws Level.call rest)
    (h : ∀ e ∈ args, ReadsElement e) :
    Leads (.new t f args) (ofText (txt "new") :: (spaced .blank ws ++
      enclosed .parenOpen .parenClose (separated (elementWords args)))) level rest := by
  refine .of_operand fun depth s enough here => ?_
  obtain ⟨kind, -, ahead⟩ := here
  simp only [enclosed, List.length_append, List.length_cons, List.append_assoc,
    List.cons_append, List.length_nil, length_spaced] at enough ahead
  obtain ⟨w, vs, words, opens⟩ := ahead.opens phrase
  have plain : s.peek.is (.operator .dot) = false := by
    rw [words] at ahead
    rw [Token.is, ahead.peek.kind]
    refine beq_false_of_ne fun same => ?_
    simp [Word.opens, same] at opens
  obtain ⟨f', s₁, read, alike, left⟩ := ((callee _ (Nat.le_of_ble_eq_true rfl)).spaced .blank).ahead depth
    (by rw [length_spaced]; omega) ahead
  obtain ⟨args', s₂, reads, alikes, left'⟩ := argumentList_read h depth (by omega) left.advance
  refine ⟨.new s.current f' args', s₂, ?_, ?_, left'⟩
  · rw [operand_new kind, newOperand, bind_eq peek_eq, if_neg (by simp [plain])]
    beta_reduce
    rw [bind_eq advance_eq, bind_eq read, bind_eq (skip_sign left), if_pos rfl, bind_eq reads]
    rfl
  · simp only [Node.Alike, Node.withoutTokens, Node.withoutTokensAll_eq_map, alikes]
    rw [alike]

/-! Operators after an operand. -/

/-- What the right operand of an operator has to exceed in binding strength. -/
def rightLevel (k : Token.Kind) : Nat :=
  if k = .operator .power then Level.power - 1 else Level.ofKind k

section
variable {self : Recur} {left : Node} {s : State}

theorem operatorRest_binary {operator : String} (known : operator ∈ Node.binaryOperators)
    (h : s.current.kind = (ofText (txt operator)).kind) :
    operatorRest self left s = (do
      advance
      return .binary s.current left s.current.literal
        (← self (.expression (rightLevel (ofText (txt operator)).kind))) : Parse Node) s := by
  simp only [Node.binaryOperators, Level.binary?.table, List.flatMap_cons, List.flatMap_nil,
    List.cons_append, List.nil_append, List.mem_cons, List.not_mem_nil, or_false] at known
  rcases known with rfl | rfl | rfl | rfl | rfl | rfl | rfl | rfl | rfl | rfl | rfl | rfl | rfl | rfl |
    rfl | rfl | rfl | rfl | rfl | rfl | rfl | rfl | rfl | rfl | rfl
  all_goals (rw [operatorRest, bind_eq current_eq, h]; rfl)

theorem operatorRest_question (h : s.current.kind = .operator .question) :
    operatorRest self left s = conditionalRest self s.current left s := by
  rw [operatorRest, bind_eq current_eq, h]

theorem operatorRest_comma (h : s.current.kind = .operator .comma) :
    operatorRest self left s = sequenceRest self s.current left s := by
  rw [operatorRest, bind_eq current_eq, h]

theorem operatorRest_call (h : s.current.kind = .operator .parenOpen) :
    operatorRest self left s = (do
      return .call s.current left (← argumentList self) false : Parse Node) s := by
  rw [operatorRest, bind_eq current_eq, h]

theorem operatorRest_index (h : s.current.kind = .operator .bracketOpen) :
    operatorRest self left s = indexRest self s.current left false s := by
  rw [operatorRest, bind_eq current_eq, h]

theorem operatorRest_dot (h : s.current.kind = .operator .dot) :
    operatorRest self left s = (do
      return .member s.current left (← propertyName s.current) false false : Parse Node) s := by
  rw [operatorRest, bind_eq current_eq, h]

theorem operatorRest_assignment {operator : String} (known : operator ∈ Node.assignOperators)
    (h : s.current.kind = (ofText (txt operator)).kind) :
    operatorRest self left s = assignmentRest self s.current left s := by
  simp only [Node.assignOperators, List.mem_cons, List.not_mem_nil, or_false] at known
  rcases known with rfl | rfl | rfl | rfl | rfl | rfl | rfl | rfl | rfl | rfl | rfl | rfl | rfl | rfl |
    rfl | rfl
  all_goals (rw [operatorRest, bind_eq current_eq, h]; rfl)

theorem operatorRest_update {operator : String} (known : operator ∈ Node.updateOperators)
    (h : s.current.kind = (ofText (txt operator)).kind) (assignable : left.isAssignable) :
    operatorRest self left s = (some (.update s.current s.current.literal left false), s) := by
  simp only [Node.updateOperators, List.mem_cons, List.not_mem_nil, or_false] at known
  rcases known with rfl | rfl
  all_goals (rw [operatorRest, bind_eq current_eq, h]; simp [assignable]; rfl)

end

theorem isSequence_of_alike {m n : Node} (h : m.Alike n) : m.isSequence = n.isSequence := by
  have plain (n : Node) : n.withoutTokens.isSequence = n.isSequence := by cases n <;> rfl
  rw [← plain m, h, plain n]

theorem eq_sequence {n : Node} (h : n.isSequence = true) : ∃ t es, n = .sequence t es := by
  cases n with
  | sequence t es => exact ⟨t, es, rfl⟩
  | _ => cases h

section
variable {t : Token} {left : Node} {ws vs rest : List Word} {level : Nat}

theorem Leads.binary {operator : String} {right : Node} (known : operator ∈ Node.binaryOperators)
    (h : Leads left ws level (ofText (txt operator) .blank :: (vs ++ rest)))
    (tight : level < Level.ofKind (ofText (txt operator)).kind)
    (hr : Completes right vs (rightLevel (ofText (txt operator)).kind) rest) :
    Leads (.binary t left (txt operator) right) (ws ++ ofText (txt operator) .blank :: vs) level
      rest := by
  refine h.of_operator tight rfl fun depth s left' enough here alike => ?_
  obtain ⟨kind, literal, ahead⟩ := here
  obtain ⟨right', s', read, alike', after⟩ := hr.ahead depth enough ahead
  refine ⟨.binary s.current left' (txt operator) right', s', ?_, ?_, after⟩
  · rw [operatorRest_binary known kind, bind_eq advance_eq, bind_eq read, literal]
    rfl
  · simp only [Node.Alike, Node.withoutTokens]
    rw [alike, alike']

theorem Leads.assignment {operator : String} {value : Node}
    (known : operator ∈ Node.assignOperators) (assignable : left.isAssignable)
    (h : Leads left ws level (ofText (txt operator) .blank :: (vs ++ rest)))
    (tight : level < Level.assignment) (hv : Completes value vs (Level.assignment - 1) rest) :
    Leads (.assignment t (txt operator) left value) (ws ++ ofText (txt operator) .blank :: vs) level
      rest := by
  have kinds : ∀ s ∈ Node.assignOperators,
      Level.ofKind (ofText (txt s)).kind = Level.assignment := by decide
  refine h.of_operator ((kinds operator known).symm ▸ tight) rfl
    fun depth s left' enough here alike => ?_
  obtain ⟨kind, literal, ahead⟩ := here
  obtain ⟨value', s', read, alike', after⟩ := hv.ahead depth enough ahead
  refine ⟨.assignment s.current (txt operator) left' value', s', ?_, ?_, after⟩
  · rw [operatorRest_assignment known kind, assignmentRest,
      if_neg (by simp [alike.isAssignable, assignable])]
    beta_reduce
    rw [bind_eq advance_eq, bind_eq read, literal]
    rfl
  · simp only [Node.Alike, Node.withoutTokens]
    rw [alike, alike']

theorem Leads.increment {operator : String} (known : operator ∈ Node.updateOperators)
    (assignable : left.isAssignable) (h : Leads left ws level (ofText (txt operator) :: rest))
    (tight : level < Level.suffix) :
    Leads (.update t (txt operator) left false) (ws ++ [ofText (txt operator)]) level rest := by
  have kinds : ∀ s ∈ Node.updateOperators,
      Level.ofKind (ofText (txt s)).kind = Level.suffix := by decide
  refine Leads.of_operator h ((kinds operator known).symm ▸ tight) rfl
    fun depth s left' enough here alike => ?_
  obtain ⟨kind, literal, ahead⟩ := here
  refine ⟨.update s.current (txt operator) left' false, s, ?_, ?_, ahead⟩
  · rw [operatorRest_update known kind (alike.isAssignable.trans assignable), literal]
    rfl
  · simp only [Node.Alike, Node.withoutTokens]
    rw [alike]

theorem Leads.conditional {a b : Node} {us : List Word}
    (h : Leads left ws level (sign .question .blank :: (us ++ (sign .colon .blank :: vs) ++ rest)))
    (tight : level < Level.conditional)
    (ha : Completes a us Level.comma (sign .colon .blank :: (vs ++ rest)))
    (hb : Completes b vs Level.comma rest) :
    Leads (.conditional t left a b) ((ws ++ sign .question .blank :: us) ++ sign .colon .blank :: vs)
      level rest := by
  rw [List.append_assoc, List.cons_append]
  refine h.of_operator tight rfl fun depth s left' enough here alike => ?_
  obtain ⟨kind, -, ahead⟩ := here
  rw [List.length_append, List.length_cons] at enough
  rw [List.append_assoc, List.cons_append] at ahead
  obtain ⟨a', s₁, read, yes, middle⟩ := ha.ahead depth (by omega) ahead
  obtain ⟨b', s₂, read', no, after⟩ := hb.ahead depth (by omega) middle.advance
  refine ⟨.conditional s.current left' a' b', s₂, ?_, ?_, after⟩
  · have consequence : allowIn (do advance; run depth (.expression Level.comma)) s = (some a', s₁) := by
      refine allowIn_eq ahead.admitsIn ?_ middle.admitsIn
      rw [bind_eq advance_eq, read]
    rw [operatorRest_question kind, conditionalRest, bind_eq consequence, bind_eq (expect_sign middle),
      bind_eq advance_eq, bind_eq read']
    rfl
  · simp only [Node.Alike, Node.withoutTokens]
    rw [alike, yes, no]

/-- One more element after the first one. -/
theorem Leads.pair {e : Node} (flat : left.isSequence = false)
    (h : Leads left ws level (sign .comma :: (vs ++ rest))) (tight : level < Level.comma)
    (he : Completes e vs Level.comma rest) :
    Leads (.sequence t [left, e]) (ws ++ sign .comma :: vs) level rest := by
  refine h.of_operator tight rfl fun depth s left' enough here alike => ?_
  obtain ⟨kind, -, ahead⟩ := here
  obtain ⟨e', s', read, alike', after⟩ := he.ahead depth enough ahead
  refine ⟨.sequence s.current [left', e'], s', ?_, ?_, after⟩
  · have flat' := (isSequence_of_alike alike).trans flat
    rw [operatorRest_comma kind, sequenceRest, bind_eq advance_eq, bind_eq read]
    split
    · cases flat'
    · rfl
  · simp only [Node.Alike, Node.withoutTokens, Node.withoutTokensAll]
    rw [alike, alike']

/-- One more element of a sequence. -/
theorem Leads.extend {e : Node} {es : List Node}
    (h : Leads (.sequence t es) ws level (sign .comma :: (vs ++ rest))) (tight : level < Level.comma)
    (he : Completes e vs Level.comma rest) :
    Leads (.sequence t (es ++ [e])) (ws ++ sign .comma :: vs) level rest := by
  refine h.of_operator tight rfl fun depth s left' enough here alike => ?_
  obtain ⟨kind, -, ahead⟩ := here
  obtain ⟨e', s', read, alike', after⟩ := he.ahead depth enough ahead
  obtain ⟨t', es', rfl⟩ := eq_sequence (isSequence_of_alike alike)
  refine ⟨.sequence t' (es' ++ [e']), s', ?_, ?_, after⟩
  · rw [operatorRest_comma kind, sequenceRest, bind_eq advance_eq, bind_eq read]
    rfl
  · simp only [Node.Alike, Node.withoutTokens, Node.withoutTokensAll_eq_map, Node.sequence.injEq,
      true_and, List.map_append, List.map_cons, List.map_nil] at alike ⊢
    rw [alike, alike']

theorem Leads.call {args : List Node} (ha : ∀ e ∈ args, ReadsElement e)
    (h : Leads left ws level
      (enclosed .parenOpen .parenClose (separated (elementWords args)) ++ rest))
    (tight : level < Level.call) :
    Leads (.call t left args false)
      (ws ++ enclosed .parenOpen .parenClose (separated (elementWords args))) level rest := by
  refine Leads.of_operator h tight rfl fun depth s left' enough here alike => ?_
  obtain ⟨kind, -, ahead⟩ := here
  rw [List.length_append, List.length_singleton] at enough
  rw [List.append_assoc, List.singleton_append] at ahead
  obtain ⟨args', s', read, alikes, after⟩ := argumentList_read ha depth (by omega) ahead
  refine ⟨.call s.current left' args' false, s', ?_, ?_, after⟩
  · rw [operatorRest_call kind, bind_eq read]
    rfl
  · simp only [Node.Alike, Node.withoutTokens, Node.withoutTokensAll_eq_map, alikes]
    rw [alike]

theorem Leads.index {key : Node} (hk : Completes key vs Level.lowest (sign .bracketClose :: rest))
    (h : Leads left ws level (enclosed .bracketOpen .bracketClose vs ++ rest))
    (tight : level < Level.member) :
    Leads (.member t left key true false) (ws ++ enclosed .bracketOpen .bracketClose vs) level rest := by
  refine Leads.of_operator h tight rfl fun depth s left' enough here alike => ?_
  obtain ⟨kind, -, ahead⟩ := here
  rw [List.length_append, List.length_singleton] at enough
  rw [List.append_assoc, List.singleton_append] at ahead
  obtain ⟨key', s', read, alike', after⟩ := hk.ahead depth (by omega) ahead
  refine ⟨.member s.current left' key' true false, s'.advance, ?_, ?_, after.advance⟩
  · have property : allowIn (do advance; run depth (.expression Level.lowest)) s = (some key', s') := by
      refine allowIn_eq ahead.admitsIn ?_ after.admitsIn
      rw [bind_eq advance_eq, read]
    rw [operatorRest_index kind, indexRest, bind_eq property, bind_eq (expect_sign after)]
    rfl
  · simp only [Node.Alike, Node.withoutTokens]
    rw [alike, alike']

theorem Leads.property {u : Token} {name : Text}
    (h : Leads left ws level (sign .dot :: ⟨.identifier, name, .none⟩ :: rest))
    (tight : level < Level.member) :
    Leads (.member t left (.identifier u name) false false)
      (ws ++ [sign .dot, ⟨.identifier, name, .none⟩]) level rest := by
  refine Leads.of_operator h tight rfl fun depth s left' enough here alike => ?_
  obtain ⟨kind, -, ahead⟩ := here
  have next := State.Ahead.peek ahead
  refine ⟨.member s.current left' (.identifier s.peek name) false false, s.advance, ?_, ?_,
    State.Ahead.advance ahead⟩
  · have name : propertyName s.current s = (some (.identifier s.peek name), s.advance) := by
      rw [propertyName, bind_eq peek_eq, if_neg (by simp [Token.is, next.kind]),
        if_pos (by simp [Token.namesProperty, next.kind]), bind_eq advance_eq, next.literal]
      rfl
    rw [operatorRest_dot kind, bind_eq name]
    rfl
  · simp only [Node.Alike, Node.withoutTokens]
    rw [alike]

end

end CoScript.Parse
