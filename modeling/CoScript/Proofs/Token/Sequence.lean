import CoScript.Proofs.Token.Quoting
import CoScript.Proofs.Token.Tiling

/-!
Texts that are read as several tokens. What is known of a token here is its kind and its meaning, so
strings may be among them, and the space between tokens may be any.
-/
namespace CoScript

/-- The kind of a token and what it means. -/
abbrev Token.Sign := Kind × Text

/-- The kind and the meaning of a token. -/
def Token.sign (t : Token) : Sign :=
  (t.kind, t.literal)

namespace Scanner

/-- A scanner gives tokens, none of them the end token, and goes on as another scanner. -/
inductive Yields : Scanner → List Token.Sign → Scanner → Prop
  | nil (s : Scanner) : Yields s [] s
  | cons {s s' : Scanner} {signs : List Token.Sign} (more : s.next.1.kind ≠ .eof)
      (others : Yields s.next.2 signs s') : Yields s (s.next.1.sign :: signs) s'

theorem Yields.append {s s' s'' : Scanner} {signs signs' : List Token.Sign} (h : s.Yields signs s')
    (h' : s'.Yields signs' s'') : s.Yields (signs ++ signs') s'' := by
  induction h with
  | nil => exact h'
  | cons more _ ih => exact .cons more (ih h')

theorem Yields.collect {s s' : Scanner} {signs : List Token.Sign} (h : s.Yields signs s')
    (empty : s'.rest = []) {limit : Nat} (enough : s.rest.length < limit) :
    (collect limit s).map Token.sign = signs ++ [(Token.Kind.eof, [])] := by
  induction h generalizing limit with
  | nil s =>
      obtain ⟨limit, rfl⟩ := Nat.exists_eq_succ_of_ne_zero (Nat.ne_zero_of_lt enough)
      have ended : s.next.1.sign = (.eof, []) := by
        rw [next, empty]
        rfl
      have kind : s.next.1.kind = .eof := congrArg Prod.fst ended
      simp [Scanner.collect, kind, ended]
  | @cons s s' signs more _ ih =>
      obtain ⟨limit, rfl⟩ := Nat.exists_eq_succ_of_ne_zero (Nat.ne_zero_of_lt enough)
      have shorter := rest_lt_of_next more
      simp [Scanner.collect, more, ih empty (show _ < limit by omega)]

end Scanner

/-- A text is read as tokens where another text follows, whatever came before. -/
def ReadsAsTokens (t : Text) (signs : List Token.Sign) (rest : Text) : Prop :=
  ∀ s : Scanner, s.rest = t ++ rest → ∃ s' : Scanner, s.Yields signs s' ∧ s'.rest = rest

namespace ReadsAsTokens

theorem nil (rest : Text) : ReadsAsTokens [] [] rest :=
  fun s h => ⟨s, .nil s, h⟩

theorem append {t u rest : Text} {signs signs' : List Token.Sign}
    (h : ReadsAsTokens t signs (u ++ rest)) (h' : ReadsAsTokens u signs' rest) :
    ReadsAsTokens (t ++ u) (signs ++ signs') rest := by
  intro s ahead
  obtain ⟨s', first, left⟩ := h s (by rw [ahead, List.append_assoc])
  obtain ⟨s'', second, left'⟩ := h' s' left
  exact ⟨s'', first.append second, left'⟩

/-- Texts in a row are read one after the other, if what each needs to be followed by is what the others
begin with. -/
theorem flatMap {α : Type} {f : α → Text} {signs : α → List Token.Sign} (follows : Text → Prop)
    {xs : List α} {rest : Text} (last : follows rest) (first : ∀ x ∈ xs, ∀ u, follows (f x ++ u))
    (h : ∀ x ∈ xs, ∀ u, follows u → ReadsAsTokens (f x) (signs x) u) :
    ReadsAsTokens (xs.flatMap f) (xs.flatMap signs) rest := by
  induction xs with
  | nil => exact nil rest
  | cons x xs ih =>
      obtain ⟨-, firsts⟩ := List.forall_mem_cons.1 first
      obtain ⟨here, others⟩ := List.forall_mem_cons.1 h
      have next : follows (xs.flatMap f ++ rest) := by
        cases xs with
        | nil => exact last
        | cons y ys =>
            rw [List.flatMap_cons, List.append_assoc]
            exact firsts y List.mem_cons_self _
      exact (here _ next).append (ih firsts others)

/-- The whole text is read as the tokens. -/
theorem scan {t : Text} {signs : List Token.Sign} (h : ReadsAsTokens t signs []) :
    (Token.scan t).map Token.sign = signs ++ [(Token.Kind.eof, [])] := by
  obtain ⟨s', yields, empty⟩ := h { rest := t } (List.append_nil t).symm
  exact yields.collect empty (Nat.lt_succ_self _)

/-- Space is passed over. -/
theorem skip_space {space : Text} (blank : ∀ g ∈ space, Trivia.isBlank g) (newline : Bool) (m : Mark)
    (t : Text) : ∃ newline' m', Trivia.skip .space newline m (space ++ t) =
      Trivia.skip .space newline' m' t := by
  induction space generalizing newline m with
  | nil => exact ⟨newline, m, rfl⟩
  | cons g space ih =>
      obtain ⟨here, others⟩ := List.forall_mem_cons.1 blank
      simp only [Trivia.isBlank, Bool.or_eq_true, or_assoc] at here
      rw [List.cons_append, Trivia.skip]
      split
      · exact ih others _ _
      split
      · exact ih others _ _
      split
      · exact ih others _ _
      · simp_all

/-- A token with space in front. -/
theorem token {space w rest : Text} {k : Token.Kind} {literal : Text} (g : Glyph)
    (blank : ∀ g ∈ space, Trivia.isBlank g) (legal : k ≠ .eof)
    (starts : Trivia.starts g (w ++ rest).head? = false)
    (reads : ∀ divides m, ∃ stop,
      Scanner.lexeme divides m g (w ++ rest) = ⟨k, literal, (g :: w).length, stop⟩) :
    ReadsAsTokens (space ++ g :: w) [(k, literal)] rest := by
  intro s ahead
  obtain ⟨newline, m, skipped⟩ := skip_space blank false s.mark (g :: (w ++ rest))
  rw [Trivia.skip_of_not_starts newline m starts, ← List.cons_append, ← List.append_assoc,
    ← ahead] at skipped
  obtain ⟨stop, read⟩ := reads (s.previous.any Scanner.endsOperand) m
  have next : s.next.1.sign = (k, literal) ∧ s.next.2.rest = rest := by
    simp only [Scanner.next, skipped, List.cons_append, read, Bool.false_eq_true, if_false]
    exact ⟨rfl, by rw [← List.cons_append, List.drop_left]⟩
  have more : s.next.1.kind ≠ .eof := fun ended => legal ((congrArg Prod.fst next.1).symm.trans ended)
  exact ⟨s.next.2, next.1 ▸ .cons more (.nil _), next.2⟩

theorem of_lexes {space w rest : Text} {k : Token.Kind} (blank : ∀ g ∈ space, Trivia.isBlank g)
    (legal : k ≠ .eof) (h : ∀ divides, Lexes divides k w rest) :
    ReadsAsTokens (space ++ w) [(k, w)] rest := by
  obtain ⟨g, w', rfl, starts, -⟩ := h false
  refine token g blank legal starts fun divides m => ?_
  obtain ⟨g', w'', same, -, reads⟩ := h divides
  cases same
  exact reads m

/-- A name or a reserved word ends where no name goes on. -/
theorem word {name rest : Text} {k : Token.Kind} (space : Text) (blank : ∀ g ∈ space, Trivia.isBlank g)
    (hk : k = .identifier ∨ ∃ word, k = .keyword word) (h : ReadsAs k name)
    (ends : ∀ g ∈ rest.head?, g.holds isNamePart = false) :
    ReadsAsTokens (space ++ name) [(k, name)] rest := by
  refine of_lexes blank ?_ (h.lexes_name hk ends)
  obtain rfl | ⟨word, rfl⟩ := hk <;> rintro ⟨⟩

theorem identifier {name rest : Text} (space : Text) (blank : ∀ g ∈ space, Trivia.isBlank g)
    (h : ReadsAs .identifier name) (ends : ∀ g ∈ rest.head?, g.holds isNamePart = false) :
    ReadsAsTokens (space ++ name) [(.identifier, name)] rest :=
  word space blank (.inl rfl) h ends

theorem keyword {rest : Text} (k : Keyword) (space : Text) (blank : ∀ g ∈ space, Trivia.isBlank g)
    (ends : ∀ g ∈ rest.head?, g.holds isNamePart = false) :
    ReadsAsTokens (space ++ txt k.spelling) [(.keyword k, txt k.spelling)] rest :=
  word space blank (.inr ⟨k, rfl⟩) (readsAs_keyword k) ends

/-- Punctuation ends where nothing makes it longer. -/
theorem operator {o : Operator} {rest : Text} (space : Text) (blank : ∀ g ∈ space, Trivia.isBlank g)
    (other : o ∉ [.optionalDot, .slash, .slashAssign]) (ends : ∀ g ∈ rest.head?, o.endsBefore g) :
    ReadsAsTokens (space ++ txt o.spelling) [(.operator o, txt o.spelling)] rest := by
  simp only [List.mem_cons, List.not_mem_nil, or_false, not_or] at other
  exact of_lexes blank (by rintro ⟨⟩) fun divides =>
    lexes_operator other.1 ends fun slash => absurd slash (by simp [other.2])

/-- A quoted text ends at its quote. -/
theorem quoted (space : Text) (blank : ∀ g ∈ space, Trivia.isBlank g) (t rest : Text) :
    ReadsAsTokens (space ++ StringLiteral.quote t) [(.string, t.replaced)] rest := by
  refine token (w := t.flatMap StringLiteral.escape ++ [Glyph.char '"']) (k := .string) (.char '"') blank
    (by decide) rfl fun divides m => ?_
  rw [List.append_assoc]
  exact Scanner.lexeme_quote divides m t rest

end ReadsAsTokens

end CoScript
