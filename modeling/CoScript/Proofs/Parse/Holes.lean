import CoScript.Proofs.Parse.Control
import CoScript.Proofs.Print.Holes

/-!
Arrays of names and holes are read from their signs. The elements of an array and those of a pattern are
read alike as long as nothing takes the rest, and in both places each hole is in front of a comma.
-/
namespace CoScript.Parse

open Node (IsSlot slotSigns slotListSigns arraySigns initialSigns)

/-! Elements in brackets. -/

/-- Elements up to a closing bracket. A comma without an element before it leaves a hole. -/
def bracketed (element : Parse Node) (others : Parse (List Node)) : Parse (List Node) := do
  if ← skip (.operator .bracketClose) then return []
  if ← skip (.operator .comma) then return .absent :: (← others)
  advance
  let first ← element
  if ← skip (.operator .comma) then return first :: (← others)
  expect (.operator .bracketClose)
  return [first]

theorem elements_eq (self : Recur) : elements self = bracketed (listElement self) (self .elements) :=
  rfl

theorem skip_eq (k : Token.Kind) (s : State) :
    skip k s = (some (s.peek.is k), if s.peek.is k then s.advance else s) := by
  rw [skip]
  split <;> simp_all

/-- Without an element that takes the rest, a pattern is read like an array. -/
theorem patternElements_eq {self : Recur} {s : State} (h : s.peek.is (.operator .ellipsis) = false) :
    patternElements self s = bracketed (bindingElement self) (self .patternElements) s := by
  rw [patternElements, bracketed, bind_eq (skip_eq _ s), bind_eq (skip_eq _ s)]
  cases closed : s.peek.is (.operator .bracketClose) with
  | true => rfl
  | false =>
      rw [if_neg Bool.false_ne_true, if_neg Bool.false_ne_true, if_neg Bool.false_ne_true,
        bind_eq (skip_eq _ s), bind_eq (skip_eq _ s)]
      cases comma : s.peek.is (.operator .comma) with
      | true => rfl
      | false =>
          have single : s.advance.current.is (.operator .ellipsis) = false := h
          rw [if_neg Bool.false_ne_true, if_neg Bool.false_ne_true, if_neg Bool.false_ne_true,
            bind_eq advance_eq, bind_eq advance_eq, bind_eq current_eq, single]
          rfl

section
variable {element : Parse Node} {others : Parse (List Node)} {s s' : State} {rest : List Token.Sign}

theorem bracketed_close (ahead : s.Sees (Operator.bracketClose.sign :: rest)) :
    bracketed element others s = (some [], s.advance) := by
  have closed : skip (.operator .bracketClose) s = (some true, s.advance) := ahead.skip
  rw [bracketed, bind_eq closed]
  rfl

theorem bracketed_hole {ns : List Node} (ahead : s.Sees (Operator.comma.sign :: rest))
    (read : others s.advance = (some ns, s')) :
    bracketed element others s = (some (.absent :: ns), s') := by
  have more : skip (.operator .bracketClose) s = (some false, s) := ahead.skip_other (by rintro ⟨⟩)
  have comma : skip (.operator .comma) s = (some true, s.advance) := ahead.skip
  rw [bracketed, bind_eq more, if_neg Bool.false_ne_true, bind_eq comma, if_pos rfl, bind_eq read]
  rfl

/-- An element is read when it is neither a hole nor the end. -/
theorem bracketed_element {n : Node} {name : Text} (ahead : s.Sees ((.identifier, name) :: rest))
    (read : element s.advance = (some n, s')) : bracketed element others s = (do
      if ← skip (.operator .comma) then return n :: (← others)
      expect (.operator .bracketClose)
      return [n] : Parse (List Node)) s' := by
  have more : skip (.operator .bracketClose) s = (some false, s) := ahead.skip_other (by rintro ⟨⟩)
  have filled : skip (.operator .comma) s = (some false, s) := ahead.skip_other (by rintro ⟨⟩)
  rw [bracketed, bind_eq more, if_neg Bool.false_ne_true, bind_eq filled, if_neg Bool.false_ne_true,
    bind_eq advance_eq, bind_eq read]

theorem bracketed_last {n : Node} {name : Text}
    (ahead : s.Sees ((.identifier, name) :: Operator.bracketClose.sign :: rest))
    (read : element s.advance = (some n, s.advance)) :
    bracketed element others s = (some [n], s.advance.advance) := by
  have behind := ahead.advance.2
  have last : skip (.operator .comma) s.advance = (some false, s.advance) :=
    behind.skip_other (by rintro ⟨⟩)
  have closed : expect (.operator .bracketClose) s.advance = (some (), s.advance.advance) := behind.expect
  rw [bracketed_element ahead read, bind_eq last, if_neg Bool.false_ne_true, bind_eq closed]
  rfl

theorem bracketed_next {n : Node} {ns : List Node} {name : Text}
    (ahead : s.Sees ((.identifier, name) :: Operator.comma.sign :: rest))
    (read : element s.advance = (some n, s.advance))
    (more : others s.advance.advance = (some ns, s')) :
    bracketed element others s = (some (n :: ns), s') := by
  have comma : skip (.operator .comma) s.advance = (some true, s.advance.advance) :=
    ahead.advance.2.skip
  rw [bracketed_element ahead read, bind_eq comma, if_pos rfl, bind_eq more]
  rfl

end

/-- A parser reads a name as an element of a list in brackets. -/
def ReadsName (element : Parse Node) : Prop :=
  ∀ {s : State} {name : Text} {o : Operator} {rest : List Token.Sign},
    s.Faces ((.identifier, name) :: o.sign :: rest) → o = .comma ∨ o = .bracketClose →
    element s = (some (.identifier s.current name), s)

theorem listElement_reads {depth : Nat} (enough : 2 ≤ depth) : ReadsName (listElement (run depth)) := by
  intro s name o rest here known
  have ends : .operator o ∈ endsName ∧ Level.ofKind (.operator o) ≤ Level.comma := by
    obtain rfl | rfl := known <;> decide
  have single : s.current.is (.operator .ellipsis) = false := here.current_is _
  rw [listElement, bind_eq current_eq, single]
  exact name_read Level.comma depth enough here ends.1 ends.2

theorem binding_name (depth : Nat) {s : State} {name : Text} {rest : List Token.Sign}
    (here : s.Faces ((.identifier, name) :: rest)) :
    run (depth + 1) .binding s = (some (.identifier s.current name), s) := by
  obtain ⟨kind, literal⟩ := Prod.mk.inj here.1
  change binding (run depth) s = _
  rw [binding, bind_eq current_eq, kind, literal]
  rfl

theorem bindingElement_reads {depth : Nat} (enough : 2 ≤ depth) :
    ReadsName (bindingElement (run depth)) := by
  intro s name o rest here known
  obtain ⟨depth, rfl⟩ : ∃ d, depth = d + 1 := ⟨depth - 1, by omega⟩
  have plain : skip (.operator .assign) s = (some false, s) := by
    apply here.2.skip_other
    obtain rfl | rfl := known <;> rintro ⟨⟩
  rw [bindingElement, bind_eq (binding_name depth here), bind_eq plain]
  rfl

/-- Names and holes are read from their signs by whatever reads elements in brackets. -/
theorem slots_read (element : Nat → Parse Node) (items : Nat → Parse (List Node))
    (unrolls : ∀ depth s, s.peek.is (.operator .ellipsis) = false →
      items (depth + 1) s = bracketed (element depth) (items depth) s)
    (reads : ∀ depth, 2 ≤ depth → ReadsName (element depth)) {ns : List Node}
    (h : ∀ n ∈ ns, n.IsSlot) {depth : Nat} (enough : ns.length + 2 ≤ depth) {s : State}
    {rest : List Token.Sign} (ahead : s.Sees (slotListSigns ns ++ Operator.bracketClose.sign :: rest)) :
    ∃ ns' s', items depth s = (some ns', s') ∧
      ns'.map Node.withoutTokens = ns.map Node.withoutTokens ∧ s'.Sees rest := by
  induction ns using Node.slotListSigns.induct generalizing depth s with
  | case1 =>
      obtain ⟨depth, rfl⟩ : ∃ d, depth = d + 1 := ⟨depth - 1, by omega⟩
      refine ⟨[], s.advance, ?_, rfl, ahead.advance.2⟩
      rw [unrolls depth s (ahead.peek_is _)]
      exact bracketed_close ahead
  | case2 n =>
      rw [List.length_singleton] at enough
      obtain ⟨depth, rfl⟩ : ∃ d, depth = d + 2 := ⟨depth - 2, by omega⟩
      obtain ⟨slot, -⟩ := List.forall_mem_cons.1 h
      cases slot with
      | hole =>
          -- The comma belongs to the hole, so nothing is left in front of the bracket.
          have ahead : s.Sees (Operator.comma.sign :: Operator.bracketClose.sign :: rest) := ahead
          have behind := ahead.advance.2
          have none : items (depth + 1) s.advance = (some [], s.advance.advance) := by
            rw [unrolls depth s.advance (behind.peek_is _)]
            exact bracketed_close behind
          refine ⟨[.absent], s.advance.advance, ?_, rfl, behind.advance.2⟩
          rw [unrolls (depth + 1) s (ahead.peek_is _)]
          exact bracketed_hole ahead none
      | @name t name word =>
          have ahead : s.Sees ((.identifier, name) :: Operator.bracketClose.sign :: rest) := ahead
          have read := reads (depth + 1) (by omega) ahead.advance (.inr rfl)
          refine ⟨[.identifier s.advance.current name], s.advance.advance, ?_, rfl,
            ahead.advance.2.advance.2⟩
          rw [unrolls (depth + 1) s (ahead.peek_is _)]
          exact bracketed_last ahead read
  | case3 n m ns ih =>
      rw [List.length_cons] at enough
      obtain ⟨depth, rfl⟩ : ∃ d, depth = d + 1 := ⟨depth - 1, by omega⟩
      have room : (m :: ns).length + 2 ≤ depth := by omega
      obtain ⟨slot, others⟩ := List.forall_mem_cons.1 h
      cases slot with
      | hole =>
          have ahead : s.Sees (Operator.comma.sign ::
            (slotListSigns (m :: ns) ++ Operator.bracketClose.sign :: rest)) := ahead
          obtain ⟨ns', s', read, alike, left⟩ := ih others room ahead.advance.2
          refine ⟨.absent :: ns', s', ?_, congrArg (List.cons _) alike, left⟩
          rw [unrolls depth s (ahead.peek_is _)]
          exact bracketed_hole ahead read
      | @name t name word =>
          have ahead : s.Sees ((.identifier, name) :: Operator.comma.sign ::
            (slotListSigns (m :: ns) ++ Operator.bracketClose.sign :: rest)) := ahead
          have first := reads depth (by omega) ahead.advance (.inl rfl)
          obtain ⟨ns', s', read, alike, left⟩ := ih others room ahead.advance.2.advance.2
          refine ⟨.identifier s.advance.current name :: ns', s', ?_, congrArg (List.cons _) alike, left⟩
          rw [unrolls depth s (ahead.peek_is _)]
          exact bracketed_next ahead first read

/-! Statements. -/

section
variable {ns : List Node} (h : ∀ n ∈ ns, n.IsSlot)
include h

/-- An array is read where nothing goes on with it. -/
theorem array_read (t : Token) (level : Nat) {depth : Nat} (enough : ns.length + 4 ≤ depth) {s : State}
    {rest : List Token.Sign} (here : s.Faces (arraySigns ns ++ rest))
    (weak : Level.ofKind (nextKind rest) ≤ level) :
    ∃ n s', run depth (.expression level) s = (some n, s') ∧ n.Alike (.array t ns) ∧ s'.Sees rest := by
  obtain ⟨depth, rfl⟩ : ∃ d, depth = d + 2 := ⟨depth - 2, by omega⟩
  rw [arraySigns, List.append_assoc, List.cons_append] at here
  obtain ⟨sign, ahead⟩ := here
  have kind : s.current.kind = .operator .bracketOpen := congrArg Prod.fst sign
  have inside : State.Sees { s with noIn := false }
      (slotListSigns ns ++ Operator.bracketClose.sign :: rest) := ⟨ahead.upcoming, ahead.clean⟩
  have room : ns.length + 2 ≤ depth + 1 := by omega
  obtain ⟨ns', s', read, alike, left⟩ := slots_read (fun depth => listElement (run depth))
    (fun depth => run depth .elements) (fun _ _ _ => rfl) (fun _ => listElement_reads) h room inside
  have operand : operand (run (depth + 1)) s =
      (some (.array s.current ns'), { s' with noIn := s.noIn }) := by
    have elements : allowIn (run (depth + 1) .elements) s = (some ns', { s' with noIn := s.noIn }) := by
      rw [allowIn, read]
    rw [Parse.operand, bind_eq current_eq, kind]
    change (allowIn (run (depth + 1) .elements) >>= fun es => pure (Node.array s.current es)) s = _
    rw [bind_eq elements]
    rfl
  have left : State.Sees { s' with noIn := s.noIn } rest := ⟨left.upcoming, left.clean⟩
  obtain ⟨l, peeked, least⟩ := peekLevel_bound { s' with noIn := s.noIn }
  rw [left.peek] at least
  refine ⟨.array s.current ns', { s' with noIn := s.noIn }, ?_, ?_, left⟩
  · change expression (run (depth + 1)) level s = _
    rw [expression, bind_eq operand]
    change operators (run depth) level _ _ = _
    rw [operators, bind_eq peeked, if_neg (Nat.not_lt.2 (Nat.le_trans least weak))]
    rfl
  · simp only [Node.Alike, Node.withoutTokens, Node.withoutTokensAll_eq_map, alike]

/-- An array at the end of the input is a statement. -/
theorem arrayStatement_read (t u : Token) {depth : Nat} (enough : ns.length + 5 ≤ depth) {s : State}
    (here : s.Faces (arraySigns ns)) : ∃ n s', run depth .statement s = (some n, s') ∧
      n.Alike (.expressionStatement t (.array u ns)) ∧ s'.Sees [] := by
  obtain ⟨depth, rfl⟩ : ∃ d, depth = d + 1 := ⟨depth - 1, by omega⟩
  have kind : s.current.kind = .operator .bracketOpen := congrArg Prod.fst here.1
  have room : ns.length + 4 ≤ depth := by omega
  have whole : s.Faces (arraySigns ns ++ []) := by rwa [List.append_nil]
  obtain ⟨n, s', read, alike, left⟩ := array_read h u Level.lowest room whole (Nat.le_refl _)
  have finished : finishStatement s' = (some (), s') := by
    have open' : skip (.operator .semicolon) s' = (some false, s') := left.skip_other (by rintro ⟨⟩)
    have ended : s'.peek.is .eof = true := left.peek_is _
    have ends : statementEnds s' = (some true, s') := by
      rw [statementEnds, bind_eq peek_eq, ended, Bool.or_true, Bool.true_or]
      rfl
    rw [finishStatement, bind_eq open', if_neg Bool.false_ne_true, bind_eq ends]
    rfl
  refine ⟨.expressionStatement s.current n, s', ?_, ?_, left⟩
  · change statement (run depth) s = _
    rw [statement, bind_eq current_eq, kind]
    change expressionStatement (run depth) s = _
    rw [expressionStatement, bind_eq current_eq, bind_eq read, bind_eq finished]
    rfl
  · simp only [Node.Alike, Node.withoutTokens]
    rw [alike]
    rfl

/-- An array pattern is read wherever a binding is. -/
theorem arrayPattern_read (t : Token) {depth : Nat} (enough : ns.length + 3 ≤ depth) {s : State}
    {rest : List Token.Sign} (here : s.Faces (arraySigns ns ++ rest)) :
    ∃ n s', run depth .binding s = (some n, s') ∧ n.Alike (.arrayPattern t ns) ∧ s'.Sees rest := by
  obtain ⟨depth, rfl⟩ : ∃ d, depth = d + 1 := ⟨depth - 1, by omega⟩
  rw [arraySigns, List.append_assoc, List.cons_append] at here
  obtain ⟨sign, ahead⟩ := here
  have kind : s.current.kind = .operator .bracketOpen := congrArg Prod.fst sign
  have room : ns.length + 2 ≤ depth := by omega
  obtain ⟨ns', s', read, alike, left⟩ := slots_read (fun depth => bindingElement (run depth))
    (fun depth => run depth .patternElements) (fun _ _ => patternElements_eq)
    (fun _ => bindingElement_reads) h room ahead
  refine ⟨.arrayPattern s.current ns', s', ?_, ?_, left⟩
  · change binding (run depth) s = _
    rw [binding, bind_eq current_eq, kind]
    change (run depth .patternElements >>= fun es => pure (Node.arrayPattern s.current es)) s = _
    rw [bind_eq read]
    rfl
  · simp only [Node.Alike, Node.withoutTokens, Node.withoutTokensAll_eq_map, alike]

end

/-- An initial value that is a name is read if it is there. -/
theorem initializer_read {value : Node} (slot : value.IsSlot) {depth : Nat} (enough : 2 ≤ depth)
    {s : State} {rest : List Token.Sign}
    (ahead : s.Sees (initialSigns value ++ Operator.semicolon.sign :: rest)) :
    ∃ n s', initializer (run depth) s = (some n, s') ∧ n.Alike value ∧
      s'.Sees (Operator.semicolon.sign :: rest) := by
  cases slot with
  | hole =>
      have ahead : s.Sees (Operator.semicolon.sign :: rest) := ahead
      have nothing : skip (.operator .assign) s = (some false, s) := ahead.skip_other (by rintro ⟨⟩)
      refine ⟨.absent, s, ?_, rfl, ahead⟩
      rw [initializer, bind_eq nothing]
      rfl
  | @name t name word =>
      have ahead : s.Sees (Operator.assign.sign :: (.identifier, name) ::
        Operator.semicolon.sign :: rest) := ahead
      have assign : skip (.operator .assign) s = (some true, s.advance) := ahead.skip
      have here := ahead.advance.2.advance
      have ends : Token.Kind.operator .semicolon ∈ endsName ∧
          Level.ofKind (.operator .semicolon) ≤ Level.comma := by decide
      have read := name_read Level.comma depth enough here ends.1 ends.2
      refine ⟨.identifier s.advance.advance.current name, s.advance.advance, ?_, rfl, here.2⟩
      rw [initializer, bind_eq assign, if_pos rfl, bind_eq advance_eq, read]

section
variable {ns : List Node} (h : ∀ n ∈ ns, n.IsSlot) {value : Node} (slot : value.IsSlot)
include h slot

/-- An array pattern with its initial value. -/
theorem declarator_read (u v : Token) {depth : Nat} (enough : ns.length + 3 ≤ depth) {s : State}
    {rest : List Token.Sign}
    (here : s.Faces (arraySigns ns ++ (initialSigns value ++ Operator.semicolon.sign :: rest))) :
    ∃ d s', declarator (run depth) s = (some d, s') ∧
      d.Alike (.declarator u (.arrayPattern v ns) false .absent value) ∧
      s'.Sees (Operator.semicolon.sign :: rest) := by
  have deep : 2 ≤ depth := by omega
  obtain ⟨p, s₁, pattern, alike, behind⟩ := arrayPattern_read h v enough here
  obtain ⟨n, s₂, initial, alike', left⟩ := initializer_read slot deep behind
  have other (k : Token.Kind) (no : k ≠ .operator .assign ∧ k ≠ .operator .semicolon) :
      nextKind (initialSigns value ++ Operator.semicolon.sign :: rest) ≠ k := by
    cases slot with
    | hole => exact no.2.symm
    | name => exact no.1.symm
  have plain : s₁.peek.is (.operator .bang) = false := by
    rw [behind.peek_is]
    exact beq_false_of_ne (other _ (by decide))
  have untyped : annotation (run depth) s₁ = (some .absent, s₁) := by
    rw [ annotation, bind_eq (behind.skip_other (other _ (by decide)))]
    rfl
  refine ⟨.declarator s.current p false .absent n, s₂, ?_, ?_, left⟩
  · rw [declarator, bind_eq current_eq, bind_eq pattern, bind_eq peek_eq, plain, Bool.false_and]
    change ( annotation (run depth) >>= fun type => initializer (run depth) >>= fun value =>
      pure (Node.declarator s.current p false type value)) s₁ = _
    rw [bind_eq untyped, bind_eq initial]
    rfl
  · simp only [Node.Alike, Node.withoutTokens]
    rw [alike, alike']
    rfl

/-- A declaration with an array pattern. -/
theorem declaration_read {k : Keyword} (known : k ∈ [Keyword.let, .const, .var]) (t u v : Token)
    {depth : Nat} (enough : ns.length + 5 ≤ depth) {s : State}
    (here : s.Faces (k.sign :: (arraySigns ns ++ (initialSigns value ++ [Operator.semicolon.sign])))) :
    ∃ n s', run depth .statement s = (some n, s') ∧
      n.Alike (.declaration t (txt k.spelling) [.declarator u (.arrayPattern v ns) false .absent value]) ∧
      s'.Sees [] := by
  obtain ⟨depth, rfl⟩ : ∃ d, depth = d + 2 := ⟨depth - 2, by omega⟩
  obtain ⟨sign, ahead⟩ := here
  obtain ⟨kind, literal⟩ := Prod.mk.inj sign
  have room : ns.length + 3 ≤ depth := by omega
  obtain ⟨d, s', read, alike, left⟩ := declarator_read h slot u v room ahead.advance
  have single : skip (.operator .comma) s' = (some false, s') := left.skip_other (by rintro ⟨⟩)
  have declarators : run (depth + 1) .declarators s = (some [d], s') := by
    change declarators (run depth) s = _
    rw [Parse.declarators, bind_eq advance_eq, bind_eq read, bind_eq single]
    rfl
  have declaration : declaration (run (depth + 1)) s =
      (some (.declaration s.current s.current.literal [d]), s') := by
    rw [Parse.declaration, bind_eq current_eq, bind_eq declarators]
    rfl
  have finished : finishStatement s' = (some (), s'.advance) := by
    have skipped : skip (.operator .semicolon) s' = (some true, s'.advance) := left.skip
    rw [finishStatement, bind_eq skipped]
    rfl
  refine ⟨.declaration s.current s.current.literal [d], s'.advance, ?_, ?_, left.advance.2⟩
  · have statement : statement (run (depth + 1)) s =
        (Parse.declaration (run (depth + 1)) >>= fun d => finishStatement >>= fun _ => pure d) s := by
      rw [Parse.statement, bind_eq current_eq, kind]
      simp only [List.mem_cons, List.not_mem_nil, or_false] at known
      obtain rfl | rfl | rfl := known <;> rfl
    change Parse.statement (run (depth + 1)) s = _
    rw [statement, bind_eq declaration, bind_eq finished]
    rfl
  · simp only [Node.Alike, Node.withoutTokens, Node.withoutTokensAll, literal]
    rw [alike]
    rfl

end

/-- A text that is read as the signs of a single statement is a script of this statement. -/
theorem script_single {text : Text} {signs : List Token.Sign} {n : Node}
    (scanned : (Token.scan text).map Token.sign = signs ++ [(Token.Kind.eof, [])]) (more : nextKind signs ≠ .eof)
    (bound : Nat) (reads : ∀ {depth}, bound ≤ depth → ∀ {s : State}, s.Faces signs →
      ∃ n' s', run depth .statement s = (some n', s') ∧ n'.Alike n ∧ s'.Sees []) :
    ∃ m, Script.parse (.ofText text) = .ok (.program [m]) ∧ m.Alike n := by
  obtain ⟨depth, enough⟩ : ∃ d, d + 2 = max (depthBound text) (bound + 2) :=
    ⟨max (depthBound text) (bound + 2) - 2, by omega⟩
  have here := start_faces scanned
  have room : bound ≤ depth + 1 := by omega
  obtain ⟨m, s', read, alike, left⟩ := reads room here
  have ended := left.advance
  have nothing : run (depth + 1) .programItems s'.advance = (some [], s'.advance) := by
    change programItems (run depth) s'.advance = _
    rw [programItems, bind_eq (ended.currentIs _)]
    rfl
  have answered : run (depth + 2) .programItems (.start text) = (some [m], s'.advance) := by
    change programItems (run (depth + 1)) (.start text) = _
    rw [programItems, bind_eq (here.currentIs _), if_neg (by simpa using more),
      bind_eq (item_read read here.clean left.clean), bind_eq nothing]
    rfl
  refine ⟨m, ?_, alike⟩
  rw [run_start (by omega)] at answered
  have outcome : Parse.script text = ⟨.program [m], []⟩ := by
    rw [Parse.script, answered, ← ended.clean]
    rfl
  rw [Script.parse, Script.read, show (Source.ofText text).content = text from rfl, outcome]
  rfl

end CoScript.Parse

namespace CoScript

open Parse

/-- Holes are kept. Elements that are names or holes, in whatever order and number, are read back from what
is printed for them: as an array, and as the pattern of a declaration with or without an initial value. -/
theorem Node.slots_print_parse {es : List Node} (h : ∀ e ∈ es, e.IsSlot) (indent : Text)
    (t u v : Token) :
    (∃ text, (Node.array t es).print indent = .ok text ∧ ∃ m,
      Script.parse (.ofText text) = .ok (.program [m]) ∧
        m.Alike (.expressionStatement u (.array t es))) ∧
    ∀ k ∈ [Keyword.let, .const, .var], ∀ value : Node, value.IsSlot → ∃ text,
      (Node.declaration t (txt k.spelling) [.declarator u (.arrayPattern v es) false .absent value]).print
          indent = .ok text ∧ ∃ m, Script.parse (.ofText text) = .ok (.program [m]) ∧
        m.Alike (.declaration t (txt k.spelling)
          [.declarator u (.arrayPattern v es) false .absent value]) := by
  constructor
  · refine ⟨Node.arrayText es, ?_, ?_⟩
    · rw [Node.print, Print.Doc.run, Print.array_doc indent [] .usual t h]
      rfl
    · have read : ReadsAsTokens (Node.arrayText es) (Node.arraySigns es) [] :=
        ReadsAsTokens.array h blank_nil
      exact script_single read.scan (by rintro ⟨⟩) _ fun enough _ here => arrayStatement_read h u t enough here
  · intro k known value slot
    refine ⟨txt k.spelling ++ (txt " " ++ (Node.arrayText es ++ (value.initialText ++ txt ";"))), ?_, ?_⟩
    · rw [Node.print, Print.Doc.run, Print.declaration_doc indent [] t u v _ h slot]
      rfl
    · exact script_single (ReadsAsTokens.declaration k h slot []).scan (by rintro ⟨⟩) _
        fun enough _ here => declaration_read h slot known t u v enough here

/-- Holes in front, in a row and at the end, in an array and in the pattern of a declaration. -/
theorem Node.slots_print_parse_mixed : ∃ es : List Node, ∃ value : Node,
    es = [.absent, .identifier {} (txt "a"), .absent, .absent, .identifier {} (txt "b"), .absent] ∧
    value = .identifier {} (txt "c") ∧ (∀ e ∈ es, e.IsSlot) ∧ value.IsSlot ∧
    (Node.array {} es).print = .ok (txt "[, a, , , b, ,]") ∧
    (Node.declaration {} (txt "let") [.declarator {} (.arrayPattern {} es) false .absent value]).print =
      .ok (txt "let [, a, , , b, ,] = c;") ∧
    (∃ text, (Node.array {} es).print = .ok text ∧ ∃ m,
      Script.parse (.ofText text) = .ok (.program [m]) ∧
        m.Alike (.expressionStatement {} (.array {} es))) ∧
    ∃ text, (Node.declaration {} (txt Keyword.let.spelling)
        [.declarator {} (.arrayPattern {} es) false .absent value]).print = .ok text ∧
      ∃ m, Script.parse (.ofText text) = .ok (.program [m]) ∧
        m.Alike (.declaration {} (txt Keyword.let.spelling)
          [.declarator {} (.arrayPattern {} es) false .absent value]) := by
  have word (c : Char) (plain : isPlainLetter c) (free : Keyword.ofText? (.ofChars [c]) = none) :
      IsSlot (.identifier {} (.ofChars [c])) :=
    .name (readsAs_identifier plain nofun free)
  have slots : ∀ e ∈ [.absent, .identifier {} (txt "a"), .absent, .absent, .identifier {} (txt "b"),
      .absent], IsSlot e := by
    simp only [List.forall_mem_cons, List.not_mem_nil, false_implies, implies_true, and_true]
    exact ⟨.hole, word 'a' rfl rfl, .hole, .hole, word 'b' rfl rfl, .hole⟩
  have initial : IsSlot (.identifier {} (txt "c")) := word 'c' rfl rfl
  have whole := Node.slots_print_parse slots Print.defaultIndent {} {} {}
  exact ⟨_, _, rfl, rfl, slots, initial, rfl, rfl, whole.1, whole.2 .let (by decide) _ initial⟩

end CoScript
