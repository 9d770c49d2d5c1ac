import CoScript.Proofs.Parse.OperatorTree
import CoScript.Proofs.Print.TypeTree

/-!
Type trees are read back. The tokens ahead are words that fall apart into the words of a type; closing
angle brackets are split off one at a time, and no parenthesis opens parameters, because there is no arrow.
-/
namespace CoScript.Parse

open Word

/-! Words ahead, among which closing angle brackets may be taken together. -/

/-- The tokens ahead fall apart into these words, followed by the end of the input. -/
def State.Offers (s : State) (ws : List Word) : Prop :=
  ∃ vs, s.Ahead vs ∧ vs.flatMap apart = ws

/-- The current token is the first of these words, and the tokens ahead fall apart into the others. -/
def State.Stands (s : State) : List Word → Prop
  | [] => False
  | w :: ws => s.current.kind = w.kind ∧ s.current.literal = w.text ∧ s.Offers ws

/-- The kind of the first word, if the input does not end there. -/
def leading : List Word → Token.Kind
  | [] => .eof
  | w :: _ => w.kind

namespace State.Offers

variable {s : State} {w : Word} {ws : List Word}

/-- What is ahead is the first word, or it starts with a closing angle bracket. -/
theorem cases (h : s.Offers (w :: ws)) :
    (∃ vs, s.Ahead (w :: vs) ∧ vs.flatMap apart = ws) ∨
    ∃ v vs, s.Ahead (v :: vs) ∧ v.kind ∈ angles ∧ w.kind = .operator .greater ∧
      v.apart ++ vs.flatMap apart = w :: ws := by
  obtain ⟨_ | ⟨v, vs⟩, ahead, falls⟩ := h
  · cases falls
  rw [List.flatMap_cons] at falls
  obtain ⟨rfl, rfl⟩ | ⟨kind, greater⟩ := apart_cons falls
  · exact .inl ⟨vs, ahead, rfl⟩
  · exact .inr ⟨v, vs, ahead, kind, greater, falls⟩

theorem nil (h : s.Offers []) : s.Ahead [] := by
  obtain ⟨vs, ahead, falls⟩ := h
  cases vs with
  | nil => exact ahead
  | cons v vs => exact absurd (List.append_eq_nil_iff.1 falls).1 v.apart_ne_nil

/-- Only closing angle brackets may be of another kind than the first word. -/
theorem peek (h : s.Offers ws) : s.peek.kind = leading ws ∨
    s.peek.kind ∈ angles ∧ leading ws = .operator .greater := by
  cases ws with
  | nil => exact .inl h.nil.peek_nil
  | cons w ws =>
      obtain ⟨vs, ahead, -⟩ | ⟨v, vs, ahead, kind, greater, -⟩ := h.cases
      · exact .inl ahead.peek.kind
      · exact .inr ⟨ahead.peek.kind ▸ kind, greater⟩

theorem peek_is (h : s.Offers ws) {k : Token.Kind} (free : k ∉ .operator .greater :: angles) :
    s.peek.is k = (leading ws == k) := by
  obtain ⟨angle, other⟩ := not_or.1 (List.mem_cons.not.1 free)
  obtain same | ⟨kind, greater⟩ := h.peek
  · rw [Token.is, same]
  · rw [Token.is, beq_false_of_ne (fun same : s.peek.kind = k => other (same ▸ kind)), greater,
      beq_false_of_ne (Ne.symm angle)]

theorem typeKind (h : s.Offers ws) : Level.ofTypeKind s.peek.kind = Level.ofTypeKind (leading ws) := by
  obtain same | ⟨kind, greater⟩ := h.peek
  · rw [same]
  · rw [greater]
    simp only [angles, List.mem_cons, List.not_mem_nil, or_false] at kind
    rcases kind with kind | kind <;> (rw [kind]; rfl)

theorem noArrow (h : s.Offers ws) : s.NoArrow := by
  obtain ⟨vs, ahead, -⟩ := h
  exact ahead.noArrow

theorem admitsIn (h : s.Offers ws) : s.noIn = false := by
  obtain ⟨vs, ahead, -⟩ := h
  exact ahead.admitsIn

theorem clean (h : s.Offers ws) : s.complaints = [] := by
  obtain ⟨vs, ahead, -⟩ := h
  exact ahead.clean

section
variable (h : s.Offers (w :: ws)) (plain : w.kind ≠ .operator .greater)
include h plain

/-- Another word is taken as a whole. -/
theorem whole : ∃ vs, s.Ahead (w :: vs) ∧ vs.flatMap apart = ws := by
  obtain whole | ⟨-, -, -, -, greater, -⟩ := h.cases
  · exact whole
  · exact absurd greater plain

theorem advance : s.advance.Stands (w :: ws) := by
  obtain ⟨vs, ahead, falls⟩ := h.whole plain
  exact ⟨ahead.peek.kind, ahead.peek.literal, vs, ahead.advance, falls⟩

theorem newline : s.peek.newlineBefore = w.gap.breaks := by
  obtain ⟨vs, ahead, -⟩ := h.whole plain
  exact ahead.peek.newline

end

theorem skip {o : Operator} {gap : Gap} (h : s.Offers (sign o gap :: ws)) (plain : o ≠ .greater) :
    Parse.skip (.operator o) s = (some true, s.advance) := by
  obtain ⟨vs, ahead, -⟩ := h.whole (by simpa [sign] using plain)
  exact skip_sign ahead

theorem expect {o : Operator} {gap : Gap} (h : s.Offers (sign o gap :: ws)) (plain : o ≠ .greater) :
    Parse.expect (.operator o) s = (some (), s.advance) := by
  obtain ⟨vs, ahead, -⟩ := h.whole (by simpa [sign] using plain)
  exact expect_sign ahead

theorem tail {o : Operator} {gap : Gap} (h : s.Offers (sign o gap :: ws)) (plain : o ≠ .greater) :
    s.advance.Offers ws :=
  (h.advance (by simpa [sign] using plain)).2.2

theorem skip_other (h : s.Offers ws) {k : Token.Kind} (other : leading ws ≠ k)
    (free : k ∉ .operator .greater :: angles) : Parse.skip k s = (some false, s) := by
  rw [Parse.skip, if_neg (by simpa [h.peek_is free] using other)]

/-- Of closing angle brackets taken together one is split off, and the others are left. -/
theorem splitAngle {v : Word} {vs : List Word} (ahead : s.Ahead (v :: vs)) {o left : Operator}
    (kind : v.kind = .operator o) (known : (o, left) ∈ [(.shiftRight, .greater), (.shiftRightZero, .shiftRight)]) :
    expectAngleClose s = (some (), s.splitAngle) ∧ s.splitAngle.Ahead (sign left :: vs) := by
  have peeked : s.peek.kind = .operator o := ahead.peek.kind.trans kind
  have literal : s.peek.literal = txt o.spelling := ahead.noArrow.peek.2 o peeked
  have split : expectAngleClose s = (some (), s.splitAngle) ∧
      (afterAngle s.peek).Reads (sign left) := by
    simp only [List.mem_cons, List.not_mem_nil, or_false, Prod.mk.injEq] at known
    rcases known with ⟨rfl, rfl⟩ | ⟨rfl, rfl⟩ <;>
      (refine ⟨by simp only [expectAngleClose, peeked]; rfl, ?_, ?_, rfl⟩ <;>
        (simp only [afterAngle, literal]; rfl))
  obtain ⟨taken, first⟩ := split
  obtain ⟨ts, e, upcoming, reads, ended⟩ := ahead.reads
  refine ⟨taken, ?_, ?_, ahead.admitsIn, ahead.clean⟩
  · cases reads with
    | @cons t _ ts _ _ rest =>
        refine ⟨afterAngle s.peek :: ts, e, ?_, .cons first rest, ended⟩
        rw [State.splitAngle, upcoming]
        rfl
  · have moved : Reaches s s.splitAngle := by
      have step := Reaches.of (.angle s)
      rwa [taken] at step
    exact moved.noArrow ahead.noArrow

/-- A closing angle bracket is taken as it is or split off. -/
theorem angleClose {gap : Gap} (h : s.Offers (sign .greater gap :: ws)) :
    ∃ s', expectAngleClose s = (some (), s') ∧ s'.Offers ws := by
  obtain ⟨vs, ahead, falls⟩ | ⟨v, vs, ahead, kind, -, falls⟩ := h.cases
  · have kind : s.peek.kind = .operator .greater := ahead.peek.kind
    exact ⟨s.advance, by simp only [expectAngleClose, kind], vs, ahead.advance, falls⟩
  · simp only [angles, List.mem_cons, List.not_mem_nil, or_false] at kind
    rcases kind with kind | kind
    · obtain ⟨taken, left⟩ := splitAngle ahead kind List.mem_cons_self
      rw [apart, kind] at falls
      exact ⟨_, taken, _, left, (List.cons.inj falls).2⟩
    · obtain ⟨taken, left⟩ := splitAngle ahead kind (List.mem_cons_of_mem _ List.mem_cons_self)
      rw [apart, kind] at falls
      exact ⟨_, taken, _, left, (List.cons.inj falls).2⟩

end State.Offers

/-! Reading types. -/

open Node (IsTypeName IsTypeTree typeWordsAll)

/-- Words that do not go on with what is in front of them as the name of a type. -/
def Follows (rest : List Word) : Prop :=
  leading rest ≠ .operator .dot ∧ leading rest ≠ .operator .less

/-- Reading the words of a type comes down to going on from the type with what follows the words. The
bound on nesting is used up by one level for a word at most. -/
def LeadsType (n : Node) (level : Nat) (rest : List Word) : Prop :=
  ∀ (depth : Nat) (s : State), 2 * n.typeWords.length ≤ depth → s.Stands (n.typeWords ++ rest) →
    ∃ depth' s' n', depth ≤ depth' + n.typeWords.length ∧
      run depth (.type level) s = run depth' (.typeOperators level n') s' ∧
      n'.Alike n ∧ s'.Offers rest

/-- A type that is read from its words where no stronger operator follows. -/
structure ReadsType (n : Node) : Prop where
  row : TypeRow n.typeWords
  leads : ∀ level rest, level < n.typeLevel → Level.ofTypeKind (leading rest) ≤ n.typeLevel →
    Follows rest → LeadsType n level rest

/-- A type starts with no other sign than an opening bracket. -/
theorem leading_ne {ws : List Word} (h : TypeRow ws) (gap : Gap) (vs : List Word) {o : Operator}
    (other : o ∉ [.parenOpen, .bracketOpen]) : leading (spaced gap ws ++ vs) ≠ .operator o := by
  obtain ⟨w, ws, rfl, -, starts, -⟩ := h.first
  intro same
  have kind : w.kind = .operator o := same
  rw [startsType, kind] at starts
  exact other (by simpa using starts)

namespace ReadsType

variable {n : Node} {level : Nat} {rest : List Word}

/-- The parser stops at what follows if that binds no more tightly than what is asked for. -/
theorem completes (h : ReadsType n) (strong : level < n.typeLevel)
    (weak : Level.ofTypeKind (leading rest) ≤ level) (follows : Follows rest) (depth : Nat) {s : State}
    (enough : 2 * n.typeWords.length ≤ depth) (here : s.Stands (n.typeWords ++ rest)) :
    ∃ n' s', run depth (.type level) s = (some n', s') ∧ n'.Alike n ∧ s'.Offers rest := by
  have length := List.length_pos_iff.2 h.row.ne_nil
  obtain ⟨depth', s', n', used, read, alike, left⟩ :=
    h.leads level rest strong (weak.trans strong.le) follows depth s enough here
  obtain ⟨depth', rfl⟩ : ∃ d, depth' = d + 1 := ⟨depth' - 1, by omega⟩
  refine ⟨n', s', ?_, alike, left⟩
  rw [read]
  change typeOperators (run depth') level n' s' = _
  rw [typeOperators, bind_eq peek_eq, if_pos (by simpa [left.typeKind] using weak)]
  rfl

/-- The words may still be ahead. -/
theorem ahead (h : ReadsType n) (strong : level < n.typeLevel)
    (weak : Level.ofTypeKind (leading rest) ≤ level) (follows : Follows rest) (depth : Nat) {s : State}
    {gap : Gap} (enough : 2 * n.typeWords.length ≤ depth)
    (offers : s.Offers (spaced gap n.typeWords ++ rest)) :
    ∃ n' s', run depth (.type level) s.advance = (some n', s') ∧ n'.Alike n ∧ s'.Offers rest := by
  refine h.completes strong weak follows depth enough ?_
  obtain ⟨w, ws, split, -⟩ := h.row.first
  have plain := leading_ne h.row gap rest (o := .greater) (by decide)
  rw [split] at offers plain ⊢
  exact offers.advance plain

end ReadsType

theorem typeLevel_of_alike {m n : Node} (h : m.Alike n) : m.typeLevel = n.typeLevel := by
  have same (n : Node) : n.withoutTokens.typeLevel = n.typeLevel := by
    cases n <;> rfl
  rw [← same m, h, same n]

theorem lowest_lt_typeLevel (n : Node) : Level.lowest < n.typeLevel := by
  unfold Node.typeLevel
  split <;> decide

/-! Lists of types. -/

/-- Words that follow an element of a list. -/
def Closes (rest : List Word) : Prop :=
  leading rest = .operator .comma ∨ leading rest = .operator .bracketClose ∨
    leading rest = .operator .greater ∨ leading rest = .operator .parenClose

theorem Closes.weak {rest : List Word} (h : Closes rest) :
    Level.ofTypeKind (leading rest) ≤ Level.lowest ∧ Follows rest := by
  rcases h with h | h | h | h <;> (rw [Follows, h]; decide)

/-- An element of a list. -/
theorem ReadsType.element {n : Node} (h : ReadsType n) {rest : List Word} (closes : Closes rest)
    (depth : Nat) {s : State} {gap : Gap} (enough : 2 * n.typeWords.length ≤ depth)
    (offers : s.Offers (spaced gap n.typeWords ++ rest)) :
    ∃ n' s', run depth (.type Level.lowest) s.advance = (some n', s') ∧ n'.Alike n ∧ s'.Offers rest :=
  h.ahead (lowest_lt_typeLevel n) closes.weak.1 closes.weak.2 depth enough offers

/-- An element of a tuple. -/
theorem tupleElement_read {n : Node} (h : ReadsType n) {rest : List Word} (closes : Closes rest)
    (depth : Nat) {s : State} {gap : Gap} (enough : 2 * n.typeWords.length ≤ depth)
    (offers : s.Offers (spaced gap n.typeWords ++ rest)) :
    ∃ n' s', n'.Alike n ∧ s'.Offers rest ∧ run (depth + 1) .tupleElements s = (do
      if !(← peekIs (.operator .bracketClose)) then expect (.operator .comma)
      return n' :: (← run depth .tupleElements) : Parse (List Node)) s' := by
  obtain ⟨n', s', read, alike, left⟩ := h.element closes depth enough offers
  refine ⟨n', s', alike, left, ?_⟩
  have more := offers.skip_other (leading_ne h.row gap rest (o := .bracketClose) (by decide)) (by decide)
  change tupleElements (run depth) s = _
  rw [tupleElements, bind_eq more, if_neg Bool.false_ne_true, bind_eq advance_eq, bind_eq read]

/-- The elements of a tuple up to its closing bracket. -/
theorem tupleElements_read {ns : List Node} (h : ∀ e ∈ ns, ReadsType e) {rest : List Word} (depth : Nat)
    {s : State} {gap : Gap} (enough : 2 * (joined (sign .comma) (typeWordsAll ns)).length < depth)
    (offers : s.Offers (spaced gap (joined (sign .comma) (typeWordsAll ns)) ++
      sign .bracketClose :: rest)) :
    ∃ ns' s', run depth .tupleElements s = (some ns', s') ∧
      ns'.map Node.withoutTokens = ns.map Node.withoutTokens ∧ s'.Offers rest := by
  have finished (depth : Nat) {s : State} (offers : s.Offers (sign .bracketClose :: rest)) :
      run (depth + 1) .tupleElements s = (some [], s.advance) := by
    change tupleElements (run depth) s = _
    rw [tupleElements, bind_eq (offers.skip (by rintro ⟨⟩))]
    rfl
  induction ns generalizing depth s gap with
  | nil =>
      obtain ⟨depth, rfl⟩ : ∃ d, depth = d + 1 := ⟨depth - 1, by omega⟩
      exact ⟨[], s.advance, finished depth offers, rfl, offers.tail (by rintro ⟨⟩)⟩
  | cons n ns ih =>
      obtain ⟨depth, rfl⟩ : ∃ d, depth = d + 1 := ⟨depth - 1, by omega⟩
      obtain ⟨first, others⟩ := List.forall_mem_cons.1 h
      have length := List.length_pos_iff.2 first.row.ne_nil
      cases ns with
      | nil =>
          simp only [typeWordsAll, joined, List.flatMap_nil, List.append_nil] at enough offers
          obtain ⟨n', s', alike, left, read⟩ :=
            tupleElement_read first (.inr (.inl rfl)) depth (by omega) offers
          obtain ⟨depth, rfl⟩ : ∃ d, depth = d + 1 := ⟨depth - 1, by omega⟩
          refine ⟨[n'], s'.advance, ?_, congrArg (fun m => [m]) alike, left.tail (by rintro ⟨⟩)⟩
          have closed : peekIs (.operator .bracketClose) s' = (some true, s') := by
            rw [peekIs, left.peek_is (by decide)]
            rfl
          rw [read, bind_eq closed]
          change (run (depth + 1) .tupleElements >>= _) s' = _
          rw [bind_eq (finished depth left)]
          rfl
      | cons m ms =>
          have second := (others m List.mem_cons_self).row
          rw [typeWordsAll, typeWordsAll, joined_cons _ _ second.ne_nil] at enough offers
          rw [spaced_append first.row.ne_nil, List.append_assoc] at offers
          simp only [List.length_append, List.length_cons, length_spaced] at enough
          obtain ⟨n', s', alike, left, read⟩ :=
            tupleElement_read first (.inl rfl) depth (by omega) offers
          obtain ⟨ns', s'', reads, alikes, left'⟩ := ih others depth (by rw [typeWordsAll]; omega)
            (left.tail (by rintro ⟨⟩))
          refine ⟨n' :: ns', s'', ?_, congrArg₂ List.cons alike alikes, left'⟩
          have comma : peekIs (.operator .bracketClose) s' = (some false, s') := by
            rw [peekIs, left.peek_is (by decide)]
            rfl
          rw [read, bind_eq comma]
          change (expect (.operator .comma) >>= fun _ => run depth .tupleElements >>= _) s' = _
          rw [bind_eq (left.expect (by rintro ⟨⟩)), bind_eq reads]
          rfl

/-- Type arguments up to the closing angle bracket. -/
theorem typeArguments_read {n : Node} {ns : List Node} (h : ∀ e ∈ n :: ns, ReadsType e)
    {rest : List Word} (depth : Nat) {s : State} {gap : Gap}
    (enough : 2 * (joined (sign .comma) (typeWordsAll (n :: ns))).length < depth)
    (offers : s.Offers (spaced gap (joined (sign .comma) (typeWordsAll (n :: ns))) ++
      sign .greater :: rest)) :
    ∃ ns' s', run depth .typeArguments s = (some ns', s') ∧
      ns'.map Node.withoutTokens = (n :: ns).map Node.withoutTokens ∧
      s'.Offers (sign .greater :: rest) := by
  induction ns generalizing n depth s gap with
  | nil =>
      obtain ⟨depth, rfl⟩ : ∃ d, depth = d + 1 := ⟨depth - 1, by omega⟩
      simp only [typeWordsAll, joined, List.flatMap_nil, List.append_nil] at enough offers
      obtain ⟨n', s', read, alike, left⟩ :=
        (h n List.mem_cons_self).element (.inr (.inr (.inl rfl))) depth (by omega) offers
      refine ⟨[n'], s', ?_, congrArg (fun m => [m]) alike, left⟩
      have last : Parse.skip (.operator .comma) s' = (some false, s') := left.skip_other (by rintro ⟨⟩) (by decide)
      change typeArguments (run depth) s = _
      rw [typeArguments, bind_eq advance_eq, bind_eq read, bind_eq last]
      rfl
  | cons m ms ih =>
      obtain ⟨depth, rfl⟩ : ∃ d, depth = d + 1 := ⟨depth - 1, by omega⟩
      obtain ⟨first, others⟩ := List.forall_mem_cons.1 h
      have second := (others m List.mem_cons_self).row
      rw [typeWordsAll, typeWordsAll, joined_cons _ _ second.ne_nil] at enough offers
      rw [spaced_append first.row.ne_nil, List.append_assoc] at offers
      simp only [List.length_append, List.length_cons, length_spaced] at enough
      obtain ⟨n', s', read, alike, left⟩ := first.element (.inl rfl) depth (by omega) offers
      obtain ⟨ns', s'', reads, alikes, left'⟩ := ih others depth (by rw [typeWordsAll]; omega)
            (left.tail (by rintro ⟨⟩))
      refine ⟨n' :: ns', s'', ?_, congrArg₂ List.cons alike alikes, left'⟩
      change typeArguments (run depth) s = _
      rw [typeArguments, bind_eq advance_eq, bind_eq read, bind_eq (left.skip (by rintro ⟨⟩)), if_pos rfl,
        bind_eq reads]
      rfl

/-! Operands. -/

/-- An operand that is read as a whole. -/
theorem LeadsType.of_operand {n : Node} {level : Nat} {rest : List Word} (nonempty : n.typeWords ≠ [])
    (h : ∀ (depth : Nat) (s : State), 2 * n.typeWords.length ≤ depth + 1 →
      s.Stands (n.typeWords ++ rest) →
      ∃ n' s', typeOperand (run depth) s = (some n', s') ∧ n'.Alike n ∧ s'.Offers rest) :
    LeadsType n level rest := by
  intro depth s enough here
  have length := List.length_pos_iff.2 nonempty
  obtain ⟨depth, rfl⟩ : ∃ d, depth = d + 1 := ⟨depth - 1, by omega⟩
  obtain ⟨n', s', read, alike, left⟩ := h depth s enough here
  refine ⟨depth, s', n', by omega, ?_, alike, left⟩
  change typeExpression (run depth) level s = _
  rw [typeExpression, bind_eq read]

/-- No parenthesis opens the parameters of a function if there is no arrow. -/
theorem noFunctionAhead (self : Recur) [∀ g, (self g).Moves] {s : State} (h : s.NoArrow) :
    foresee (do
      let _ ← parameterList self
      peekIs (.operator .arrow)) s = (some false, s) := by
  have moved := Moves.reaches (p := parameterList self) s
  rw [foresee]
  cases outcome : parameterList self s with
  | mk items s' =>
      rw [outcome] at moved
      cases items with
      | none =>
          rw [bind_eq_none outcome]
          rfl
      | some items =>
          have free : s'.peek.is (.operator .arrow) = false := by
            simpa [Token.is] using (moved.noArrow h).peek.1
          rw [bind_eq outcome, peekIs, free]
          rfl

/-- A name goes on from its first identifier. -/
theorem typeName_leads {n : Node} (h : n.IsTypeName) {rest : List Word} (depth : Nat) {s : State}
    (enough : n.typeWords.length ≤ depth) (here : s.Stands (n.typeWords ++ rest)) :
    s.current.kind = .identifier ∧ ∃ depth' s' n', depth < depth' + n.typeWords.length ∧
      run depth (.typeName (.identifier s.current s.current.literal)) s =
        run depth' (.typeName n') s' ∧ n'.Alike n ∧ s'.Offers rest := by
  induction h generalizing rest with
  | @identifier t name word =>
      obtain ⟨kind, literal, left⟩ := here
      refine ⟨kind, depth, s, _, Nat.lt_succ_self _, rfl, ?_, left⟩
      exact congrArg (Node.identifier {}) literal
  | @qualified t u left name whole word ih =>
      rw [Node.typeWords, List.append_assoc, List.cons_append] at here
      simp only [Node.typeWords, List.length_cons, List.length_nil, List.length_append] at enough ⊢
      obtain ⟨kind, depth₁, s₁, left', used, read, alike, offers⟩ := ih (by omega) here
      obtain ⟨depth', rfl⟩ : ∃ d, depth₁ = d + 1 := ⟨depth₁ - 1, by omega⟩
      obtain ⟨kind', literal, after⟩ := (offers.tail (by rintro ⟨⟩)).advance (by rintro ⟨⟩)
      have expected : Parse.expect .identifier s₁.advance = (some (), s₁.advance.advance) := by
        rw [Parse.expect, if_pos]
        rw [(offers.tail (by rintro ⟨⟩)).peek_is (by decide)]
        rfl
      refine ⟨kind, depth', s₁.advance.advance, .qualifiedName s₁.advance.current left'
        (.identifier s₁.advance.advance.current s₁.advance.advance.current.literal), by omega, ?_, ?_, after⟩
      · rw [read]
        change typeName (run depth') left' s₁ = _
        rw [typeName, bind_eq (offers.skip (by rintro ⟨⟩)), if_pos rfl, bind_eq current_eq, bind_eq expected,
          bind_eq current_eq]
      · rw [literal]
        exact congrArg (Node.qualifiedName {} · (.identifier {} name)) alike

/-- A name is read up to what follows it. -/
theorem typeName_read {n : Node} (h : n.IsTypeName) {rest : List Word} (depth : Nat) {s : State}
    (enough : n.typeWords.length ≤ depth) (here : s.Stands (n.typeWords ++ rest))
    (last : leading rest ≠ .operator .dot) :
    ∃ n' s', run depth (.typeName (.identifier s.current s.current.literal)) s = (some n', s') ∧
      n'.Alike n ∧ s'.Offers rest := by
  obtain ⟨-, depth₁, s₁, n', used, read, alike, left⟩ := typeName_leads h depth enough here
  obtain ⟨depth', rfl⟩ : ∃ d, depth₁ = d + 1 := ⟨depth₁ - 1, by omega⟩
  refine ⟨n', s₁, ?_, alike, left⟩
  rw [read]
  change typeName (run depth') n' s₁ = _
  rw [typeName, bind_eq (left.skip_other last (by decide)), if_neg Bool.false_ne_true]
  rfl

/-- A name is no built-in type if it is not the name of one or a point follows its first identifier. -/
theorem typeName_free {n : Node} (h : n.IsTypeName) (free : n.isBuiltinType = false) {rest : List Word}
    {s : State} (here : s.Stands (n.typeWords ++ rest)) :
    (builtinTypes.any (txt · == s.current.literal) && !s.peek.is (.operator .dot)) = false := by
  have dotted {left : Node} (whole : left.IsTypeName) {ws : List Word}
      (here : s.Stands (left.typeWords ++ sign .dot :: ws)) : s.peek.is (.operator .dot) := by
    induction whole generalizing ws with
    | identifier word =>
        obtain ⟨-, -, left⟩ := here
        rw [left.peek_is (by decide)]
        rfl
    | qualified whole word ih =>
        rw [Node.typeWords, List.append_assoc, List.cons_append] at here
        exact ih here
  cases h with
  | @identifier t name word =>
      obtain ⟨-, literal, -⟩ := here
      rw [literal]
      exact Bool.and_eq_false_imp.2 fun builtin => absurd (free.symm.trans builtin) Bool.false_ne_true
  | @qualified t u left name whole word =>
      rw [Node.typeWords, List.append_assoc, List.cons_append] at here
      rw [dotted whole here, Bool.not_true, Bool.and_false]

section
variable {self : Recur} {s : State}

theorem typeOperand_identifier (h : s.current.kind = .identifier) :
    typeOperand self s = typeReference self s := by
  rw [typeOperand, bind_eq current_eq, h]

theorem typeOperand_parens (h : s.current.kind = .operator .parenOpen) :
    typeOperand self s = parenthesizedType self s := by
  rw [typeOperand, bind_eq current_eq, h]

theorem typeOperand_brackets (h : s.current.kind = .operator .bracketOpen) :
    typeOperand self s = (do return .tupleType s.current (← self .tupleElements) : Parse Node) s := by
  rw [typeOperand, bind_eq current_eq, h]

end

/-- The types that are known by themselves are built-in ones and two reserved words. -/
theorem keywordType_kind {name : String} (known : name ∈ Node.keywordTypes) :
    (name ∈ builtinTypes ∧ Token.Kind.ofWord (txt name) = .identifier) ∨
      Token.Kind.ofWord (txt name) = .keyword .void ∨ Token.Kind.ofWord (txt name) = .keyword .null := by
  have each : ∀ name ∈ builtinTypes, Token.Kind.ofWord (txt name) = .identifier := by decide
  obtain builtin | other := List.mem_append.1 known
  · exact .inl ⟨builtin, each name builtin⟩
  · simp only [List.mem_cons, List.not_mem_nil, or_false] at other
    rcases other with rfl | rfl <;> decide

namespace ReadsType

/-- A type that is known by itself. -/
theorem keyword {t : Token} {name : String} (known : name ∈ Node.keywordTypes) :
    ReadsType (.keywordType t (txt name)) where
  row := Node.keywordType_row known
  leads level rest _ _ follows := by
    refine .of_operand (by simp [Node.typeWords]) fun depth s _ here => ?_
    obtain ⟨kind, literal, left⟩ := here
    refine ⟨.keywordType s.current s.current.literal, s, ?_, congrArg (Node.keywordType {}) literal, left⟩
    obtain ⟨builtin, word⟩ | word | word := keywordType_kind known
    · have dot : s.peek.is (.operator .dot) = false := by
        rw [left.peek_is (by decide)]
        exact beq_false_of_ne follows.1
      have named : builtinTypes.any (txt · == s.current.literal) = true :=
        List.any_eq_true.2 ⟨name, builtin, by rw [literal]; exact beq_self_eq_true _⟩
      rw [typeOperand_identifier (kind.trans word), typeReference, bind_eq current_eq, bind_eq peek_eq,
        named, dot]
      rfl
    · rw [typeOperand, bind_eq current_eq, kind.trans word]
      rfl
    · rw [typeOperand, bind_eq current_eq, kind.trans word]
      rfl

/-- A reference to a type. -/
theorem reference {t : Token} {name : Node} {args : List Node} (word : name.IsTypeName)
    (free : name.isBuiltinType = false) (h : ∀ a ∈ args, ReadsType a)
    (row : TypeRow (Node.typeReference t name args).typeWords) : ReadsType (.typeReference t name args) where
  row := row
  leads level rest _ _ follows := by
    refine .of_operand row.ne_nil fun depth s enough here => ?_
    have rows : ∀ ws ∈ typeWordsAll args, TypeRow ws := by
      rw [Node.typeWordsAll_eq_map]
      exact List.forall_mem_map.2 fun a ha => (h a ha).row
    rw [Node.typeWords, List.append_assoc] at here
    have other := typeName_free word free here
    have identifier := (typeName_leads word _ (Nat.le_refl _) here).1
    cases args with
    | nil =>
        obtain ⟨n', s', read, alike, left⟩ := typeName_read word depth
          (by simp [Node.typeWords] at enough; omega) here follows.1
        refine ⟨.typeReference s.current n' [], s', ?_, ?_, left⟩
        · rw [typeOperand_identifier identifier, typeReference, bind_eq current_eq, bind_eq peek_eq,
            other, if_neg Bool.false_ne_true, bind_eq read, bind_eq (left.skip_other follows.2 (by decide))]
          rfl
        · exact congrArg (Node.typeReference {} · []) alike
    | cons a args =>
        rw [show (a :: args).isEmpty = false from rfl, if_neg Bool.false_ne_true, enclosed,
          List.cons_append, List.append_assoc] at here
        simp only [Node.typeWords, List.isEmpty_cons, Bool.false_eq_true, if_false, enclosed,
          List.length_append, List.length_cons] at enough
        obtain ⟨n', s₁, read, alike, left⟩ := typeName_read word depth (by omega) here (by rintro ⟨⟩)
        have inside := left.tail (by rintro ⟨⟩)
        rw [← TypeRow.spaced_joined rows] at inside
        obtain ⟨args', s₂, reads, alikes, left'⟩ :=
          typeArguments_read h depth (by omega) inside
        obtain ⟨s₃, closed, after⟩ := left'.angleClose
        refine ⟨.typeReference s.current n' args', s₃, ?_, ?_, after⟩
        · rw [typeOperand_identifier identifier, typeReference, bind_eq current_eq, bind_eq peek_eq,
            other, if_neg Bool.false_ne_true, bind_eq read, bind_eq (left.skip (by rintro ⟨⟩)), if_pos rfl,
            bind_eq reads, bind_eq closed]
          rfl
        · simp only [Node.Alike, Node.withoutTokens, Node.withoutTokensAll_eq_map, alikes]
          rw [alike]

/-- A type in parentheses. -/
theorem parenthesized {t : Token} {e : Node} (h : ReadsType e)
    (row : TypeRow (Node.parenthesizedType t e).typeWords) : ReadsType (.parenthesizedType t e) where
  row := row
  leads level rest _ _ _ := by
    refine .of_operand row.ne_nil fun depth s enough here => ?_
    simp only [Node.typeWords, enclosed, List.length_append, List.length_cons, List.length_nil] at enough
    rw [Node.typeWords, enclosed, List.cons_append, List.append_assoc, List.singleton_append] at here
    obtain ⟨kind, -, ahead⟩ := here
    have foreseen := noFunctionAhead (run depth) ahead.noArrow
    rw [← h.row.spaced_none] at ahead
    obtain ⟨e', s', read, alike, left⟩ :=
      h.element (.inr (.inr (.inr rfl))) depth (by omega) ahead
    refine ⟨.parenthesizedType s.current e', s'.advance, ?_, ?_, left.tail (by rintro ⟨⟩)⟩
    · rw [typeOperand_parens kind, parenthesizedType, bind_eq current_eq, bind_eq foreseen,
        if_neg Bool.false_ne_true, bind_eq advance_eq, bind_eq read, bind_eq (left.expect (by rintro ⟨⟩))]
      rfl
    · exact congrArg (Node.parenthesizedType {}) alike

/-- A tuple. -/
theorem tuple {t : Token} {es : List Node} (h : ∀ e ∈ es, ReadsType e)
    (row : TypeRow (Node.tupleType t es).typeWords) : ReadsType (.tupleType t es) where
  row := row
  leads level rest _ _ _ := by
    refine .of_operand row.ne_nil fun depth s enough here => ?_
    have rows : ∀ ws ∈ typeWordsAll es, TypeRow ws := by
      rw [Node.typeWordsAll_eq_map]
      exact List.forall_mem_map.2 fun e he => (h e he).row
    simp only [Node.typeWords, enclosed, List.length_append, List.length_cons, List.length_nil] at enough
    rw [Node.typeWords, enclosed, List.cons_append, List.append_assoc, List.singleton_append] at here
    obtain ⟨kind, -, ahead⟩ := here
    rw [← TypeRow.spaced_joined rows] at ahead
    obtain ⟨es', s', reads, alikes, left⟩ := tupleElements_read h depth (by omega) ahead
    refine ⟨.tupleType s.current es', s', ?_, ?_, left⟩
    · rw [typeOperand_brackets kind, bind_eq reads]
      rfl
    · simp only [Node.Alike, Node.withoutTokens, Node.withoutTokensAll_eq_map, alikes]

/-- An array. -/
theorem array {t : Token} {e : Node} (h : ReadsType e) (tight : Level.intersection < e.typeLevel)
    (row : TypeRow (Node.arrayType t e).typeWords) : ReadsType (.arrayType t e) where
  row := row
  leads level rest weak _ _ := by
    intro depth s enough here
    simp only [Node.typeWords, enclosed, List.length_append, List.length_cons, List.length_nil,
      List.nil_append] at enough ⊢
    rw [Node.typeWords, List.append_assoc] at here
    obtain ⟨depth₁, s₁, e', used, read, alike, left⟩ :=
      h.leads level (sign .bracketOpen :: sign .bracketClose :: rest)
        (Nat.lt_of_lt_of_le weak tight) tight ⟨by rintro ⟨⟩, by rintro ⟨⟩⟩ depth s (by omega) here
    obtain ⟨depth', rfl⟩ : ∃ d, depth₁ = d + 1 := ⟨depth₁ - 1, by omega⟩
    refine ⟨depth', s₁.advance.advance, .arrayType s₁.peek e', by omega, ?_,
      congrArg (Node.arrayType {}) alike, (left.tail (by rintro ⟨⟩)).tail (by rintro ⟨⟩)⟩
    have kind : s₁.peek.kind = .operator .bracketOpen := by
      obtain ⟨vs, ahead, -⟩ := left.whole (by rintro ⟨⟩)
      exact ahead.peek.kind
    have sameLine : s₁.peek.newlineBefore = false := left.newline (by rintro ⟨⟩)
    rw [read]
    change typeOperators (run depth') level e' s₁ = _
    have binds : level < Level.ofTypeKind (.operator .bracketOpen) := weak
    rw [typeOperators, bind_eq peek_eq, kind, if_neg (by simp [binds])]
    simp only [sameLine, Bool.false_eq_true, if_false]
    rw [bind_eq advance_eq, bind_eq ((left.tail (by rintro ⟨⟩)).skip (by rintro ⟨⟩)), if_pos rfl]

end ReadsType

/-! Unions and intersections. -/

/-- What joins types to one type. -/
inductive Connective where
  | union | intersection

namespace Connective

/-- The operator between two types. -/
def operator : Connective → Operator
  | union => .pipe
  | intersection => .ampersand

/-- How tightly the operator binds. -/
def level : Connective → Nat
  | union => Level.union
  | intersection => Level.intersection

/-- The type that several types are joined to. -/
def node : Connective → Token → List Node → Node
  | union => .unionType
  | intersection => .intersectionType

/-- A type with one more member. -/
def extend : Connective → Token → Node → Node → Node
  | union => unite
  | intersection => intersect

variable (c : Connective)

/-- A member is read, and then what goes on from the type with it. -/
theorem typeOperators_eq {self : Recur} {level : Nat} {left : Node} {s : State}
    (kind : s.peek.kind = .operator c.operator) (strong : level < c.level) :
    typeOperators self level left s = (do
      advance
      advance
      let right ← self (.type c.level)
      self (.typeOperators level (c.extend s.peek left right)) : Parse Node) s := by
  cases c with
  | union =>
      have binds : level < Level.ofTypeKind (.operator .pipe) := strong
      have kind : s.peek.kind = .operator .pipe := kind
      rw [typeOperators, bind_eq peek_eq, kind, if_neg (by simp [binds])]
      rfl
  | intersection =>
      have binds : level < Level.ofTypeKind (.operator .ampersand) := strong
      have kind : s.peek.kind = .operator .ampersand := kind
      rw [typeOperators, bind_eq peek_eq, kind, if_neg (by simp [binds])]
      rfl

theorem withoutTokens_node (t : Token) (ns : List Node) :
    (c.node t ns).withoutTokens = c.node {} (ns.map Node.withoutTokens) := by
  cases c <;> simp [node, Node.withoutTokens]

/-- What is alike a joined type is one. -/
theorem eq_node {left : Node} {ns : List Node} (h : left.Alike (c.node {} ns)) :
    ∃ t ms, left = c.node t ms ∧ ms.map Node.withoutTokens = ns.map Node.withoutTokens := by
  rw [Node.Alike, withoutTokens_node] at h
  cases c with
  | union =>
      cases left with
      | unionType t ms => exact ⟨t, ms, rfl, by simpa [node, Node.withoutTokens] using h⟩
      | _ => simp [node, Node.withoutTokens] at h
  | intersection =>
      cases left with
      | intersectionType t ms => exact ⟨t, ms, rfl, by simpa [node, Node.withoutTokens] using h⟩
      | _ => simp [node, Node.withoutTokens] at h

/-- A type that is not joined itself becomes the first member. -/
theorem extend_other {left : Node} (h : c.level < left.typeLevel) (t : Token) (right : Node) :
    c.extend t left right = c.node t [left, right] := by
  cases c with
  | union =>
      change unite t left right = .unionType t [left, right]
      unfold unite
      split
      · exact absurd h (Nat.lt_irrefl _)
      · rfl
  | intersection =>
      change intersect t left right = .intersectionType t [left, right]
      unfold intersect
      split
      · exact absurd h (Nat.lt_irrefl _)
      · rfl

theorem extend_node (t u : Token) (ms : List Node) (right : Node) :
    c.extend t (c.node u ms) right = c.node u (ms ++ [right]) := by
  cases c <;> rfl

/-- A node that stands for members read so far: a single one, or the type that they are joined to. -/
def Holds (left : Node) (members : List Node) : Prop :=
  (∃ n, members = [n] ∧ left.Alike n ∧ c.level < left.typeLevel) ∨ left.Alike (c.node {} members)

variable {c}

theorem Holds.extend {left right n : Node} {members : List Node} (h : c.Holds left members)
    (alike : right.Alike n) (t : Token) : c.Holds (c.extend t left right) (members ++ [n]) := by
  refine .inr ?_
  have alike : right.withoutTokens = n.withoutTokens := alike
  obtain ⟨m, rfl, alike', strong⟩ | joined := h
  · have alike' : left.withoutTokens = m.withoutTokens := alike'
    rw [c.extend_other strong, Node.Alike, withoutTokens_node, withoutTokens_node]
    simp [alike, alike']
  · obtain ⟨u, ms, rfl, same⟩ := c.eq_node joined
    rw [extend_node, Node.Alike, withoutTokens_node, withoutTokens_node]
    simp [alike, same]

variable (c)

/-- The words of further members, each behind the operator. -/
def further (ns : List Node) : List Word :=
  (typeWordsAll ns).flatMap fun ws => sign c.operator .blank :: spaced .blank ws

theorem leading_further (ns : List Node) (rest : List Word) :
    leading (c.further ns ++ rest) = leading rest ∨
      leading (c.further ns ++ rest) = .operator c.operator := by
  cases ns with
  | nil => exact .inl rfl
  | cons n ns => exact .inr rfl

/-- What follows a member binds no more tightly than the operator. -/
theorem further_weak (ns : List Node) {rest : List Word}
    (weak : Level.ofTypeKind (leading rest) ≤ c.level) (follows : Follows rest) :
    Level.ofTypeKind (leading (c.further ns ++ rest)) ≤ c.level ∧ Follows (c.further ns ++ rest) := by
  obtain same | same := c.leading_further ns rest
  · rw [Follows, same]
    exact ⟨weak, follows⟩
  · rw [Follows, same]
    cases c <;> decide

/-- Further members are read one after the other. -/
theorem members_lead {ns : List Node} (h : ∀ n ∈ ns, ReadsType n) (tight : ∀ n ∈ ns, c.level < n.typeLevel)
    {level : Nat} (strong : level < c.level) {rest : List Word}
    (weak : Level.ofTypeKind (leading rest) ≤ c.level) (follows : Follows rest) (depth : Nat) {s : State}
    {left : Node} {members : List Node} (enough : 2 * (c.further ns).length ≤ depth)
    (holds : c.Holds left members) (offers : s.Offers (c.further ns ++ rest)) :
    ∃ depth' s' left', depth ≤ depth' + (c.further ns).length ∧
      run depth (.typeOperators level left) s = run depth' (.typeOperators level left') s' ∧
      c.Holds left' (members ++ ns) ∧ s'.Offers rest := by
  induction ns generalizing depth s left members with
  | nil => exact ⟨depth, s, left, Nat.le_refl _, rfl, by rwa [List.append_nil], offers⟩
  | cons n ns ih =>
      obtain ⟨first, others⟩ := List.forall_mem_cons.1 h
      obtain ⟨tight, tights⟩ := List.forall_mem_cons.1 tight
      have split : c.further (n :: ns) =
          sign c.operator .blank :: (spaced .blank n.typeWords ++ c.further ns) := rfl
      rw [split] at enough offers ⊢
      simp only [List.length_cons, List.length_append, length_spaced] at enough ⊢
      rw [List.cons_append, List.append_assoc] at offers
      obtain ⟨depth, rfl⟩ : ∃ d, depth = d + 1 := ⟨depth - 1, by omega⟩
      have plain : c.operator ≠ .greater := by cases c <;> decide
      obtain ⟨weak', follows'⟩ := c.further_weak ns weak follows
      obtain ⟨right, s₁, read, alike, ahead⟩ :=
        first.ahead tight weak' follows' depth (by omega) (offers.tail plain)
      obtain ⟨depth', s', left', used, continued, holds', last⟩ :=
        ih others tights depth (by omega) (holds.extend alike s.peek) ahead
      refine ⟨depth', s', left', by omega, ?_, by rwa [← List.append_cons] at holds', last⟩
      have kind : s.peek.kind = .operator c.operator := by
        obtain ⟨vs, ahead, -⟩ := offers.whole (by simpa [sign] using plain)
        exact ahead.peek.kind
      change typeOperators (run depth) level left s = _
      rw [c.typeOperators_eq kind strong, bind_eq advance_eq, bind_eq advance_eq, bind_eq read, continued]

/-- Types are joined that bind more tightly than the operator between them. -/
theorem reads {t : Token} {first second : Node} {others : List Node}
    (h : ∀ n ∈ first :: second :: others, ReadsType n)
    (tight : ∀ n ∈ first :: second :: others, c.level < n.typeLevel)
    (row : TypeRow (c.node t (first :: second :: others)).typeWords) :
    ReadsType (c.node t (first :: second :: others)) where
  row := row
  leads level rest strong weak follows := by
    have same : (c.node t (first :: second :: others)).typeLevel = c.level ∧
        (c.node t (first :: second :: others)).typeWords =
          first.typeWords ++ c.further (second :: others) := by
      cases c <;> exact ⟨rfl, rfl⟩
    rw [same.1] at strong weak
    intro depth s enough here
    rw [same.2, List.append_assoc] at here
    rw [same.2, List.length_append] at enough ⊢
    obtain ⟨here', others'⟩ := List.forall_mem_cons.1 h
    obtain ⟨strongFirst, tights⟩ := List.forall_mem_cons.1 tight
    obtain ⟨weak', follows'⟩ := c.further_weak (second :: others) weak follows
    obtain ⟨depth₁, s₁, left, used, read, alike, ahead⟩ := here'.leads level _
      (strong.trans strongFirst) (weak'.trans strongFirst.le) follows' depth s (by omega) here
    have strongLeft : c.level < left.typeLevel := typeLevel_of_alike alike ▸ strongFirst
    obtain ⟨depth', s', left', used', continued, holds, last⟩ :=
      c.members_lead others' tights strong weak follows depth₁ (by omega)
        (.inl ⟨first, rfl, alike, strongLeft⟩) ahead
    refine ⟨depth', s', left', by omega, read.trans continued, ?_, last⟩
    obtain ⟨n, single, -⟩ | joined := holds
    · cases List.cons.inj single |>.2
    · rw [Node.Alike, withoutTokens_node] at joined ⊢
      exact joined

end Connective

/-- A type tree is read from its words. -/
theorem types_readable {n : Node} (h : n.IsTypeTree) : ReadsType n := by
  induction h with
  | keyword known => exact .keyword known
  | reference word free elements ih => exact .reference word free ih (IsTypeTree.reference word free elements).row
  | array tight element ih => exact ih.array tight (IsTypeTree.array tight element).row
  | union tight elements ih => exact Connective.union.reads ih tight (IsTypeTree.union tight elements).row
  | intersection tight elements ih =>
      exact Connective.intersection.reads ih tight (IsTypeTree.intersection tight elements).row
  | parenthesized inner ih => exact ih.parenthesized (IsTypeTree.parenthesized inner).row
  | tuple elements ih => exact .tuple ih (IsTypeTree.tuple elements).row

/-- A text made up of words in a row is read from its first one on. -/
theorem start_stands {ws : List Word} (h : TypeRow ws) : (State.start (spell ws)).Stands ws := by
  obtain ⟨vs, gathers⟩ := h.gather
  obtain ⟨w, us, rfl, sound, starts, -⟩ := h.first
  have first : ∀ v ∈ vs.head?, v.divides = false := by
    intro v hv
    obtain ⟨u, hu, -, same⟩ := gathers.front v hv
    obtain rfl := Option.some.inj hu
    exact same.trans (divides_of_startsType starts)
  have here := start_at gathers.run first .none
  rw [Gap.text, List.append_nil, gathers.spelled] at here
  cases vs with
  | nil => cases gathers.falls
  | cons v vs =>
      obtain ⟨kind, literal, ahead⟩ := here
      have falls := gathers.falls
      rw [List.flatMap_cons] at falls
      obtain ⟨rfl, rfl⟩ | ⟨-, greater⟩ := apart_cons falls
      · exact ⟨kind, literal, vs, ahead, rfl⟩
      · rw [startsType, greater] at starts
        exact absurd starts (by decide)

end CoScript.Parse

namespace CoScript.Node

open Word

/-- Types are read back as they are printed. The text of a type tree is read whole and without complaints
as the same type, up to tokens, however many lists of type arguments end at the same place. -/
theorem IsTypeTree.type_read_back {n : Node} (h : n.IsTypeTree) (indent : Text) :
    ∃ text, n.print indent = .ok text ∧ ∀ depth ≥ Parse.depthBound text, ∃ t s,
      Parse.run depth (.type Level.lowest) (.start text) = (some t, s) ∧
      s.peek.is .eof ∧ s.complaints = [] ∧ t.Alike n := by
  refine ⟨_, h.print indent, fun depth enough => ?_⟩
  have long := length_le_spell h.row.sound
  rw [Parse.depthBound] at enough
  have here := Parse.start_stands h.row
  rw [← List.append_nil n.typeWords] at here
  obtain ⟨t, s, read, alike, left⟩ := (Parse.types_readable h).completes (Parse.lowest_lt_typeLevel n)
    (Nat.le_refl _) ⟨by rintro ⟨⟩, by rintro ⟨⟩⟩ depth (by omega) here
  rw [List.append_nil] at read
  exact ⟨t, s, read, by simp [Token.is, left.nil.peek_nil], left.clean, alike⟩

/-- Three lists of type arguments end at once in `Map<string, Set<a.b<c>>>[] | [void]`. -/
theorem IsTypeTree.type_read_back_angles :
    ∃ n : Node, n = .unionType {} [
        .arrayType {} (.typeReference {} (.identifier {} (txt "Map")) [
          .keywordType {} (txt "string"),
          .typeReference {} (.identifier {} (txt "Set")) [
            .typeReference {} (.qualifiedName {} (.identifier {} (txt "a")) (.identifier {} (txt "b")))
              [.typeReference {} (.identifier {} (txt "c")) []]]]),
        .tupleType {} [.keywordType {} (txt "void")]] ∧
      n.IsTypeTree ∧ n.print = .ok (txt "Map<string, Set<a.b<c>>>[] | [void]") ∧
      ∃ t s, Parse.run (Parse.depthBound (txt "Map<string, Set<a.b<c>>>[] | [void]"))
          (.type Level.lowest) (.start (txt "Map<string, Set<a.b<c>>>[] | [void]")) = (some t, s) ∧
        s.peek.is .eof ∧ s.complaints = [] ∧ t.Alike n := by
  have word (c : Char) (cs : List Char) (start : isPlainLetter c)
      (parts : ∀ d ∈ cs, isPlainLetter d ∨ d.isDigit)
      (free : Keyword.ofText? (.ofChars (c :: cs)) = none) : ReadsAs .identifier (.ofChars (c :: cs)) :=
    readsAs_identifier start parts free
  have b : IsTypeName (.qualifiedName {} (.identifier {} (txt "a")) (.identifier {} (txt "b"))) :=
    .qualified (.identifier (word 'a' [] rfl nofun rfl)) (word 'b' [] rfl nofun rfl)
  have set : IsTypeName (.identifier {} (txt "Set")) :=
    .identifier (word 'S' ['e', 't'] rfl (forall_mem_of_all (by decide)) rfl)
  have map : IsTypeName (.identifier {} (txt "Map")) :=
    .identifier (word 'M' ['a', 'p'] rfl (forall_mem_of_all (by decide)) rfl)
  have c : IsTypeTree (.typeReference {} (.identifier {} (txt "c")) []) :=
    .reference (.identifier (word 'c' [] rfl nofun rfl)) rfl nofun
  have sets := IsTypeTree.reference (t := {}) set rfl
    (List.forall_mem_singleton.2 (IsTypeTree.reference (t := {}) b rfl (List.forall_mem_singleton.2 c)))
  have maps := IsTypeTree.reference (t := {}) map rfl (List.forall_mem_cons.2
    ⟨IsTypeTree.keyword (t := {}) (show "string" ∈ keywordTypes by decide), List.forall_mem_singleton.2 sets⟩)
  have array := IsTypeTree.array (t := {}) (by decide) maps
  have tuple := IsTypeTree.tuple (t := {})
    (List.forall_mem_singleton.2 (IsTypeTree.keyword (t := {}) (show "void" ∈ keywordTypes by decide)))
  have tree := IsTypeTree.union (t := {}) (List.forall_mem_cons.2 ⟨by decide,
    List.forall_mem_singleton.2 (by decide)⟩) (List.forall_mem_cons.2 ⟨array, List.forall_mem_singleton.2 tuple⟩)
  obtain ⟨text, printed, read⟩ := tree.type_read_back Print.defaultIndent
  have shown : text = txt "Map<string, Set<a.b<c>>>[] | [void]" := (Except.ok.inj printed).symm
  subst shown
  exact ⟨_, rfl, tree, printed, read _ (Nat.le_refl _)⟩

end CoScript.Node
