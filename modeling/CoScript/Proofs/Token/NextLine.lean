import CoScript.Proofs.Parse.Layout
import CoScript.Proofs.Token.Lexeme
import CoScript.Proofs.Token.Splitting

/-!
Scripts on the lines after another one. A line break ends every token that can stand alone, so a script
falls into the same tokens before a line break as at the end of the input, and what follows falls into the
tokens that it falls into by itself.
-/
namespace CoScript

/-- A text on the next line. -/
def Text.nextLine (t : Text) : Text :=
  .char '\n' :: t

open Text (nextLine)

/-! What a line break ends. -/

/-- A string that is over is the same whatever follows it. -/
theorem Quotation.run_extend {quote : Char} {mode : Mode} {pieces ps : List Piece} {length : Nat}
    {m : Mark} {t : Text} (h : (run quote mode pieces length m t).pieces? = some ps) (u : Text) :
    run quote mode pieces length m (t ++ u) = run quote mode pieces length m t := by
  induction t generalizing mode pieces length m with
  | nil => contradiction
  | cons g t ih =>
      rw [List.cons_append, run, run]
      rw [run] at h
      cases move : step quote mode g t.head? with
      | fail past =>
          rw [move] at h
          contradiction
      | finish => rw [step_finish move]
      | go mode' piece whole =>
          rw [move] at h
          cases t with
          | nil => contradiction
          | cons g' t =>
              rw [List.cons_append, List.head?_cons, show step quote mode g (some g') = _ from move]
              exact ih h

/-- What a string denotes does not depend on where it stands. -/
theorem Quotation.run_mark (quote : Char) (mode : Mode) (pieces : List Piece) (length : Nat)
    (m m' : Mark) (t : Text) :
    (run quote mode pieces length m t).pieces? = (run quote mode pieces length m' t).pieces? ∧
      (run quote mode pieces length m t).length = (run quote mode pieces length m' t).length := by
  induction t generalizing mode pieces length m m' with
  | nil => exact ⟨rfl, rfl⟩
  | cons g t ih =>
      rw [run, run]
      split
      · exact ⟨rfl, rfl⟩
      · exact ⟨rfl, rfl⟩
      · exact ih ..

/-- A template that is over is the same whatever follows it. -/
theorem Template.run_extend {frames : List Frame} {length : Nat} {m : Mark} {t : Text}
    (h : (run frames length m t).ok) (u : Text) :
    run frames length m (t ++ u) = run frames length m t := by
  induction t generalizing frames length m with
  | nil =>
      cases frames with
      | nil => cases u <;> rfl
      | cons => contradiction
  | cons g t ih =>
      cases frames with
      | nil => rfl
      | cons frame outer =>
          rw [List.cons_append, run, run]
          rw [run] at h
          cases move : step frame outer g t.head? with
          | fail past =>
              rw [move] at h
              contradiction
          | go frames whole =>
              rw [move] at h
              cases t with
              | nil =>
                  cases frames with
                  | nil =>
                      rw [step_leaving move]
                      cases u <;> rfl
                  | cons => contradiction
              | cons g' t =>
                  rw [List.cons_append, List.head?_cons, show step frame outer g (some g') = _ from move]
                  exact ih h

/-- How far a template reaches does not depend on where it stands. -/
theorem Template.run_mark (frames : List Frame) (length : Nat) (m m' : Mark) (t : Text) :
    (run frames length m t).ok = (run frames length m' t).ok ∧
      (run frames length m t).length = (run frames length m' t).length := by
  induction t generalizing frames length m m' with
  | nil => cases frames <;> exact ⟨rfl, rfl⟩
  | cons g t ih =>
      cases frames with
      | nil => exact ⟨rfl, rfl⟩
      | cons frame outer =>
          rw [run, run]
          split
          · exact ⟨rfl, rfl⟩
          · exact ih ..

namespace RegexLiteral

theorem flags_nextLine {seen : List Char} {length : Nat} {t : Text} (u : Text) :
    flags seen length (t ++ nextLine u) = flags seen length t := by
  fun_induction flags seen length t with
  | case1 seen length c rest letter unknown =>
      rw [List.cons_append, flags, if_pos letter, if_pos unknown]
  | case2 seen length c rest letter known ih =>
      rw [List.cons_append, flags, if_pos letter, if_neg known, ih]
  | case3 seen length c rest other => rw [List.cons_append, flags, if_neg other]
  | case4 t seen length other =>
      cases t with
      | nil => rfl
      | cons g t =>
          cases g with
          | char c => exact absurd rfl (other c t)
          | stray b => rfl

/-- A regular expression that is over is the same before a line break. -/
theorem body_nextLine {inBrackets : Bool} {length : Nat} {t : Text}
    (h : (body inBrackets length t).outcome = .ok) (u : Text) :
    body inBrackets length (t ++ nextLine u) = body inBrackets length t := by
  induction inBrackets, length, t using body.induct with
  | case1 => contradiction
  | case2 inBrackets length g rest newline =>
      rw [body_cons, if_pos newline] at h
      contradiction
  | case3 inBrackets length g same escape =>
      simp only [body_cons, if_neg same, if_pos escape] at h
      contradiction
  | case4 inBrackets length g same escape next rest newline =>
      simp only [body_cons, if_neg same, if_pos escape, if_pos newline] at h
      contradiction
  | case5 inBrackets length g same escape next rest more ih =>
      simp only [List.cons_append, body_cons, if_neg same, if_pos escape, if_neg more] at h ⊢
      exact ih h
  | case6 inBrackets length g rest same plain opens ih =>
      simp only [List.cons_append, body_cons, if_neg same, if_neg plain, if_pos opens] at h ⊢
      exact ih h
  | case7 inBrackets length g rest same plain inside closes ih =>
      simp only [List.cons_append, body_cons, if_neg same, if_neg plain, if_neg inside,
        if_pos closes] at h ⊢
      exact ih h
  | case8 inBrackets length g rest same plain inside outside slash =>
      simp only [List.cons_append, body_cons, if_neg same, if_neg plain, if_neg inside,
        if_neg outside, if_pos slash]
      exact flags_nextLine u
  | case9 inBrackets length g rest same plain inside outside other ih =>
      simp only [List.cons_append, body_cons, if_neg same, if_neg plain, if_neg inside,
        if_neg outside, if_neg other] at h ⊢
      exact ih h

end RegexLiteral

theorem closes_nextLine (u : Text) : Closes (nextLine u) := by
  rintro g ⟨⟩
  exact ⟨'\n', by decide, rfl⟩

theorem head?_nextLine (t u : Text) {p : Char → Bool} (h : p '\n' = false) :
    (t ++ nextLine u).head?.any (·.holds p) = t.head?.any (·.holds p) := by
  cases t with
  | nil => exact h
  | cons g t => rfl

theorem nameAt_nextLine (t u : Text) : Scanner.nameAt (t ++ nextLine u) = Scanner.nameAt t := by
  induction t with
  | nil => rfl
  | cons g t ih =>
      simp only [Scanner.nameAt, List.cons_append, List.takeWhile_cons] at ih ⊢
      rw [ih]

/-- No operator goes past a line break. -/
theorem Text.after?_nextLine {start : Text} (h : Glyph.char '\n' ∉ start) (t u : Text) :
    after? start (t ++ nextLine u) = (after? start t).map (· ++ nextLine u) := by
  induction start generalizing t with
  | nil => simp [after?]
  | cons a start ih =>
      rw [List.mem_cons, not_or] at h
      obtain ⟨other, later⟩ := h
      cases t with
      | nil => simp [after?, nextLine, Ne.symm other]
      | cons b t =>
          simp only [List.cons_append, after?]
          split
          · exact ih later t
          · rfl

theorem Operator.leading?_nextLine (t u : Text) :
    leading? (t ++ nextLine u) = (leading? t).map fun (o, rest) => (o, rest ++ nextLine u) := by
  have plain (o : Operator) : Glyph.char '\n' ∉ txt o.spelling := by
    have known : ∀ o ∈ all, Glyph.char '\n' ∉ txt o.spelling := by decide
    exact known o (mem_all o)
  rw [leading?, leading?]
  induction all with
  | nil => rfl
  | cons o os ih =>
      rw [List.findSome?_cons, List.findSome?_cons, Text.after?_nextLine (plain o), ih]
      cases Text.after? (txt o.spelling) t with
      | none => rfl
      | some rest =>
          cases rest with
          | nil => cases decide (o = optionalDot) <;> rfl
          | cons g rest =>
              dsimp only [Option.map_some, List.cons_append]
              split_ifs <;> rfl

namespace Scanner

variable {divides : Bool} {m : Mark} {g : Glyph} {rest : Text}

theorem operatorLexeme_nextLine (m : Mark) (g : Glyph) (rest u : Text) :
    operatorLexeme m g (rest ++ nextLine u) = operatorLexeme m g rest := by
  have leads := Operator.leading?_nextLine (g :: rest) u
  rw [List.cons_append] at leads
  rw [operatorLexeme, operatorLexeme, leads]
  cases Operator.leading? (g :: rest) <;> rfl

/-- A legal token is the same before a line break. -/
theorem lexeme_nextLine (legal : (lexeme divides m g rest).kind ≠ .illegal) (u : Text) :
    lexeme divides m g (rest ++ nextLine u) = lexeme divides m g rest := by
  have starts := Numeral.starts_append (closes_nextLine u) (g :: rest) (List.cons_ne_nil g rest)
  have length := Numeral.length_append (closes_nextLine u) (u := {}) (List.cons_ne_nil g rest) (.inl nofun)
  have name := nameAt_nextLine (g :: rest) u
  rw [List.cons_append] at starts length name
  have digits : (g :: (rest ++ nextLine u)).take (Numeral.length (g :: rest)) =
      (g :: rest).take (Numeral.length (g :: rest)) := by
    rw [← List.cons_append, List.take_append_of_le_length (Numeral.length_le _)]
  simp only [lexeme, starts, length, name, digits, nameAt_nextLine,
    head?_nextLine rest u (p := isNameStart) rfl] at legal ⊢
  split_ifs at legal ⊢
  · rw [stringLexeme] at legal ⊢
    cases closed : (Quotation.run g.toChar .plain [] 1 (m.past (.char g.toChar)) rest).pieces? with
    | none =>
        rw [closed] at legal
        exact absurd rfl legal
    | some pieces =>
        rw [stringLexeme, Quotation.run_extend closed]
  · rw [templateLexeme] at legal ⊢
    split_ifs at legal with ok
    · obtain ⟨n, long, fits, -⟩ := Template.run_reaches [.chunk] 1 (m.past (.char '`')) rest
      rw [templateLexeme, Template.run_extend ok, if_pos ok, if_pos ok, long,
        List.take_append_of_le_length (by omega)]
    · exact absurd rfl legal
  · rfl
  · rfl
  · rfl
  · have fits := (RegexLiteral.body_length false 1 rest).2
    rw [regexLexeme] at legal ⊢
    cases outcome : (RegexLiteral.body false 1 rest).outcome with
    | ok =>
        rw [regexLexeme, RegexLiteral.body_nextLine outcome, ← List.cons_append,
          List.take_append_of_le_length (by rw [List.length_cons]; omega)]
    | unterminated | badFlags =>
        rw [outcome] at legal
        exact absurd rfl legal
  · exact operatorLexeme_nextLine m g rest u

/-- A token does not depend on where it stands. -/
theorem lexeme_mark (divides : Bool) (m m' : Mark) (g : Glyph) (rest : Text) :
    (lexeme divides m g rest).kind = (lexeme divides m' g rest).kind ∧
      (lexeme divides m g rest).literal = (lexeme divides m' g rest).literal ∧
      (lexeme divides m g rest).length = (lexeme divides m' g rest).length := by
  simp only [lexeme]
  split_ifs
  · obtain ⟨pieces, length⟩ :=
      Quotation.run_mark g.toChar .plain [] 1 (m.past (.char g.toChar)) (m'.past (.char g.toChar)) rest
    rw [stringLexeme, stringLexeme, pieces, length]
    split <;> exact ⟨rfl, rfl, rfl⟩
  · obtain ⟨ok, length⟩ := Template.run_mark [.chunk] 1 (m.past (.char '`')) (m'.past (.char '`')) rest
    rw [templateLexeme, templateLexeme, ok, length]
    split_ifs <;> exact ⟨rfl, rfl, rfl⟩
  · exact ⟨rfl, rfl, rfl⟩
  · exact ⟨rfl, rfl, rfl⟩
  · exact ⟨rfl, rfl, rfl⟩
  · rw [regexLexeme, regexLexeme]
    split <;> exact ⟨rfl, rfl, rfl⟩
  · rw [operatorLexeme, operatorLexeme]
    split <;> exact ⟨rfl, rfl, rfl⟩

end Scanner

/-! Trivia before a line break. -/

namespace Trivia

theorem pair_nextLine (g : Glyph) (first second : Char) (t u : Text) (h : second ≠ '\n') :
    pair g (t ++ nextLine u).head? first second = pair g t.head? first second := by
  cases t with
  | nil => simp [pair, nextLine, Glyph.is, Glyph.holds, h.symm]
  | cons => rfl

/-- Trivia that stops at something stops there if there is more behind. -/
theorem skip_nextLine {inside : Inside} {newline : Bool} {m : Mark} {t : Text}
    (h : (skip inside newline m t).rest ≠ []) (u : Text) :
    skip inside newline m (t ++ nextLine u) =
      { skip inside newline m t with rest := (skip inside newline m t).rest ++ nextLine u } := by
  induction t generalizing inside newline m with
  | nil =>
      rw [skip] at h
      exact absurd rfl h
  | cons g t ih =>
      have opens := pair_nextLine g '/' '/' t u (by decide)
      have opens' := pair_nextLine g '/' '*' t u (by decide)
      have closes := pair_nextLine g '*' '/' t u (by decide)
      cases inside with
      | space =>
          simp only [List.cons_append, skip, opens, opens'] at h ⊢
          split_ifs at h ⊢
          · exact ih h
          · exact ih h
          · exact ih h
          · exact ih h
          · exact ih h
          · rfl
      | lineComment =>
          simp only [List.cons_append, skip] at h ⊢
          split_ifs at h ⊢
          · exact ih h
          · rfl
          · exact ih h
      | blockComment =>
          simp only [List.cons_append, skip, closes] at h ⊢
          split_ifs at h ⊢
          · exact ih h
          · rfl
          · exact ih h
      | blockOpening | blockClosing => exact ih h

/-- Trivia that is all there is goes on behind the line break. -/
theorem skip_nextLine_over {inside : Inside} {newline : Bool} {m : Mark} {t : Text}
    (h : (skip inside newline m t).rest = []) (closed : (skip inside newline m t).unterminated = false)
    (opened : t ≠ [] ∨ inside = .space ∨ inside = .lineComment) (u : Text) :
    ∃ m', skip inside newline m (t ++ nextLine u) = skip .space true m' u := by
  induction t generalizing inside newline m with
  | nil =>
      obtain more | rfl | rfl := opened
      · exact absurd rfl more
      · exact ⟨_, rfl⟩
      · exact ⟨_, rfl⟩
  | cons g t ih =>
      have opens := pair_nextLine g '/' '/' t u (by decide)
      have opens' := pair_nextLine g '/' '*' t u (by decide)
      have closes := pair_nextLine g '*' '/' t u (by decide)
      -- What is opened or closed by two glyphs is not over between them.
      have second {first second : Char} (both : pair g t.head? first second) : t ≠ [] := by
        rintro rfl
        simp [pair] at both
      cases inside with
      | space =>
          simp only [List.cons_append, skip, opens, opens'] at h closed ⊢
          split_ifs at h closed ⊢
          · exact ih h closed (.inr (.inl rfl))
          · exact ih h closed (.inr (.inl rfl))
          · exact ih h closed (.inr (.inl rfl))
          · exact ih h closed (.inr (.inr rfl))
          · exact ih h closed (.inl (second ‹_›))
      | lineComment =>
          simp only [List.cons_append, skip] at h closed ⊢
          split_ifs at h closed ⊢
          · exact ih h closed (.inr (.inl rfl))
          · exact ih h closed (.inr (.inr rfl))
      | blockComment =>
          simp only [List.cons_append, skip, closes] at h closed ⊢
          split_ifs at h closed ⊢
          · exact ih h closed (.inl (second ‹_›))
          · cases t with
            | nil => simp [skip] at closed
            | cons => exact ih h closed (.inl (List.cons_ne_nil _ _))
      | blockOpening =>
          cases t with
          | nil => simp [skip] at closed
          | cons => exact ih h closed (.inl (List.cons_ne_nil _ _))
      | blockClosing => exact ih h closed (.inr (.inl rfl))

/-- Where trivia ends does not depend on where it stands, nor on a line break before it. -/
theorem skip_mark (inside : Inside) (newline newline' : Bool) (m m' : Mark) (t : Text) :
    (skip inside newline m t).rest = (skip inside newline' m' t).rest ∧
      (skip inside newline m t).unterminated = (skip inside newline' m' t).unterminated ∧
      (newline = newline' → (skip inside newline m t).newline = (skip inside newline' m' t).newline) := by
  induction t generalizing inside newline newline' m m' with
  | nil => exact ⟨rfl, rfl, fun same => same⟩
  | cons g t ih =>
      have later {inside : Inside} {b b' : Bool} (same : newline = newline' → b = b') (m m' : Mark) :
          (skip inside b m t).rest = (skip inside b' m' t).rest ∧
            (skip inside b m t).unterminated = (skip inside b' m' t).unterminated ∧
            (newline = newline' → (skip inside b m t).newline = (skip inside b' m' t).newline) := by
        obtain ⟨rest, closed, line⟩ := ih inside b b' m m'
        exact ⟨rest, closed, line ∘ same⟩
      cases inside with
      | space | lineComment | blockComment =>
          simp only [skip]
          split_ifs <;> first | exact ⟨rfl, rfl, id⟩ | exact later (by rintro rfl; rfl) _ _
      | blockOpening | blockClosing => exact later id _ _

theorem skip_newline (inside : Inside) (m : Mark) (t : Text) : (skip inside true m t).newline := by
  induction t generalizing inside m with
  | nil => rfl
  | cons g t ih =>
      cases inside with
      | space | lineComment | blockComment =>
          simp only [skip, Bool.true_or]
          split_ifs <;> first | rfl | exact ih _ _
      | blockOpening | blockClosing => exact ih _ _

end Trivia

/-! Tokens before and behind a line break. -/

namespace Scanner

/-- The scanner with another text behind a line break. -/
def nextLine (s : Scanner) (u : Text) : Scanner :=
  { s with rest := s.rest ++ Text.nextLine u }

/-- A token before a line break is the one that stands there at the end of the input. -/
theorem next_nextLine {s : Scanner} (legal : s.next.1.kind ≠ .illegal) (more : s.next.1.kind ≠ .eof)
    (u : Text) : (s.nextLine u).next = (s.next.1, s.next.2.nextLine u) := by
  rw [next] at legal more
  rw [next, next, nextLine]
  cases broken : (Trivia.skip .space false s.mark s.rest).unterminated with
  | true =>
      simp only [broken, if_true] at legal
      exact absurd rfl legal
  | false =>
      simp only [broken, Bool.false_eq_true, if_false] at legal more
      cases ahead : (Trivia.skip .space false s.mark s.rest).rest with
      | nil =>
          rw [ahead] at more
          exact absurd rfl more
      | cons g rest =>
          rw [ahead] at legal
          have same := Trivia.skip_nextLine (ahead ▸ List.cons_ne_nil g rest) u
          rw [ahead] at same
          have fits := (lexeme_reaches (s.previous.any endsOperand)
            (Trivia.skip .space false s.mark s.rest).mark g rest).2.1
          simp only [same, broken, List.cons_append, lexeme_nextLine legal, Bool.false_eq_true,
            if_false, nextLine]
          rw [← List.cons_append, List.take_append_of_le_length fits, List.drop_append_of_le_length fits]

/-- Scanners before the same text, after the same token. -/
structure Same (s s' : Scanner) : Prop where
  rest : s.rest = s'.rest
  previous : s.previous = s'.previous

/-- Only a slash is read differently after an operand. -/
theorem lexeme_divides {divides divides' : Bool} {m : Mark} {g : Glyph} {rest : Text}
    (h : divides = divides' ∨ g.is '/' = false) :
    lexeme divides m g rest = lexeme divides' m g rest := by
  obtain rfl | slash := h
  · rfl
  · simp only [lexeme, slash, Bool.false_and, Bool.false_eq_true, if_false]

/-- After no operand a slash opens a regular expression. -/
theorem lexeme_slash {m : Mark} {g : Glyph} {rest : Text} (slash : g.is '/') :
    (lexeme false m g rest).kind = .regex ∨ (lexeme false m g rest).kind = .illegal := by
  obtain rfl := Trivia.eq_char_of_is slash
  have same : lexeme false m (.char '/') rest = regexLexeme m (.char '/' :: rest) rest := rfl
  rw [same, regexLexeme]
  split
  · exact .inl rfl
  · exact .inr rfl
  · exact .inr rfl

theorem previous_next (s : Scanner) :
    s.next.2.previous = if s.next.1.kind = .illegal then s.previous else some s.next.1.kind := by
  rw [next]
  dsimp only
  split
  · rfl
  · split <;> rfl

/-- Tokens behind the same trivia are written alike, unless it matters what is in front of them. -/
theorem next_alike (s s' : Scanner)
    (left : (Trivia.skip .space false s.mark s.rest).rest = (Trivia.skip .space false s'.mark s'.rest).rest)
    (broken : (Trivia.skip .space false s.mark s.rest).unterminated =
      (Trivia.skip .space false s'.mark s'.rest).unterminated)
    (operand : s.previous.any endsOperand = s'.previous.any endsOperand ∨
      ∀ g ∈ (Trivia.skip .space false s.mark s.rest).rest.head?, g.is '/' = false) :
    (s.next.1.kind = s'.next.1.kind ∧ s.next.1.literal = s'.next.1.literal ∧
        s.next.1.raw = s'.next.1.raw) ∧
      s.next.2.rest = s'.next.2.rest ∧
      s.next.1.newlineBefore = (Trivia.skip .space false s.mark s.rest).newline ∧
      s'.next.1.newlineBefore = (Trivia.skip .space false s'.mark s'.rest).newline := by
  rw [next, next]
  dsimp only
  rw [← left, ← broken]
  split
  · exact ⟨⟨rfl, rfl, rfl⟩, rfl, rfl, rfl⟩
  · split
    · exact ⟨⟨rfl, rfl, rfl⟩, rfl, rfl, rfl⟩
    · rename_i g rest ahead
      rw [ahead] at operand
      rw [lexeme_divides (operand.imp_right fun slash => slash g rfl)]
      obtain ⟨kind, literal, length⟩ := lexeme_mark (s'.previous.any endsOperand)
        (Trivia.skip .space false s.mark s.rest).mark (Trivia.skip .space false s'.mark s'.rest).mark g rest
      exact ⟨⟨kind, literal, by dsimp only; rw [length]⟩, by dsimp only; rw [length], rfl, rfl⟩

theorem Same.next {s s' : Scanner} (h : s.Same s') :
    Parse.Echo s.next.1 s'.next.1 ∧ s.next.2.Same s'.next.2 := by
  obtain ⟨rest, mark, previous⟩ := s
  obtain ⟨rest', mark', previous'⟩ := s'
  obtain ⟨rfl, rfl⟩ := h
  obtain ⟨left, broken, line⟩ := Trivia.skip_mark .space false false mark mark' rest
  obtain ⟨⟨kind, literal, raw⟩, onward, before, before'⟩ :=
    next_alike ⟨rest, mark, previous⟩ ⟨rest, mark', previous⟩ left broken (.inl rfl)
  refine ⟨⟨kind, literal, raw, before.trans ((line rfl).trans before'.symm)⟩, onward, ?_⟩
  rw [previous_next, previous_next, kind]

/-- Where one script is over, the next one begins. -/
theorem next_over {s : Scanner} (ended : s.next.1.kind = .eof) {u : Text}
    (legal : (next { rest := u }).1.kind ≠ .illegal) (apart : (next { rest := u }).1.kind ≠ .regex) :
    Parse.Echo { (next { rest := u }).1 with newlineBefore := true } (s.nextLine u).next.1 ∧
      (next { rest := u }).2.Same (s.nextLine u).next.2 := by
  have finished : (Trivia.skip .space false s.mark s.rest).rest = [] ∧
      (Trivia.skip .space false s.mark s.rest).unterminated = false := by
    rw [next] at ended
    dsimp only at ended
    split at ended
    · contradiction
    · rename_i closed
      split at ended
      · exact ⟨‹_›, Bool.eq_false_iff.2 closed⟩
      · exact absurd ended (lexeme_ne_eof _ _ _ _)
  obtain ⟨m, skipped⟩ := Trivia.skip_nextLine_over finished.1 finished.2 (.inr (.inl rfl)) u
  obtain ⟨left, broken, -⟩ := Trivia.skip_mark .space false true {} m u
  have line := Trivia.skip_newline .space m u
  rw [← skipped] at left broken line
  have slash : ∀ g ∈ (Trivia.skip .space false {} u).rest.head?, g.is '/' = false := by
    intro g hg
    refine Bool.eq_false_iff.2 fun slash => ?_
    obtain ⟨rest, ahead⟩ := List.head?_eq_some_iff.1 hg
    rw [next] at legal apart
    dsimp only at legal apart
    split at legal
    · exact legal rfl
    · rename_i closed
      simp only [closed, Bool.false_eq_true, if_false, ahead, Option.any_none] at legal apart
      exact (lexeme_slash slash).elim apart legal
  obtain ⟨⟨kind, literal, raw⟩, rest, -, line'⟩ :=
    next_alike { rest := u } (s.nextLine u) left broken (.inr slash)
  refine ⟨⟨kind, literal, raw, (line'.trans line).symm⟩, rest, ?_⟩
  rw [previous_next, previous_next, ← kind, if_neg legal, if_neg legal]

theorem Same.collect {limit limit' : Nat} {s s' : Scanner} (h : s.Same s') (long : s.rest.length < limit)
    (long' : s.rest.length < limit') :
    List.Forall₂ Parse.Echo (collect limit s) (collect limit' s') := by
  induction limit generalizing limit' s s' with
  | zero => exact absurd long (Nat.not_lt_zero _)
  | succ limit ih =>
      obtain ⟨limit', rfl⟩ := Nat.exists_eq_succ_of_ne_zero (Nat.ne_zero_of_lt long')
      obtain ⟨first, same⟩ := h.next
      rw [Scanner.collect, Scanner.collect]
      dsimp only
      rw [← first.kind]
      split_ifs with finished
      · exact .cons first .nil
      · have shorter := s.rest_lt_of_next finished
        exact .cons first (ih same (by omega) (by omega))

/-- A script that is followed by another one falls into its tokens, and then those of the other one, the first
of which stands on a line of its own. -/
theorem collect_nextLine {limit limit' : Nat} {s : Scanner} {u : Text} (long : s.rest.length < limit)
    (long' : (s.nextLine u).rest.length < limit') (legal : ∀ t ∈ collect limit s, t.kind ≠ .illegal)
    (sound : (next { rest := u }).1.kind ≠ .illegal) (apart : (next { rest := u }).1.kind ≠ .regex) :
    ∃ tokens ending first later, collect limit s = tokens ++ [ending] ∧
      collect limit' (s.nextLine u) = tokens ++ first :: later ∧
      List.Forall₂ Parse.Echo
        ({ (next { rest := u }).1 with newlineBefore := true } :: (Token.scan u).tail) (first :: later) := by
  induction limit generalizing limit' s with
  | zero => exact absurd long (Nat.not_lt_zero _)
  | succ limit ih =>
      obtain ⟨limit', rfl⟩ := Nat.exists_eq_succ_of_ne_zero (Nat.ne_zero_of_lt long')
      rw [collect] at legal ⊢
      rw [collect]
      dsimp only at legal ⊢
      split at legal
      · rename_i ended
        obtain ⟨first, same⟩ := next_over ended sound apart
        have finished : (next { rest := u }).1.kind = (s.nextLine u).next.1.kind := first.kind
        have scanned : Token.scan u = if (next { rest := u }).1.kind = .eof then [(next { rest := u }).1]
            else (next { rest := u }).1 :: collect u.length (next { rest := u }).2 := rfl
        rw [if_pos ended, scanned, ← finished]
        split_ifs with none
        · exact ⟨[], s.next.1, _, [], rfl, rfl, .cons first .nil⟩
        · have shorter := rest_lt_of_next none
          have fits : u.length < limit' := by
            rw [nextLine, List.length_append, Text.nextLine, List.length_cons] at long'
            omega
          exact ⟨[], s.next.1, _, _, rfl, rfl,
            .cons first (same.collect shorter (Nat.lt_trans shorter fits))⟩
      · rename_i more
        obtain ⟨legal, others⟩ := List.forall_mem_cons.1 legal
        have shorter := s.rest_lt_of_next more
        rw [next_nextLine legal more, if_neg more]
        dsimp only
        rw [if_neg more]
        have fits : (s.next.2.nextLine u).rest.length < limit' := by
          rw [nextLine, List.length_append] at long' ⊢
          omega
        obtain ⟨tokens, ending, first, later, before, whole, echoes⟩ := ih (by omega) fits others
        exact ⟨s.next.1 :: tokens, ending, first, later, congrArg _ before, congrArg _ whole, echoes⟩

end Scanner

end CoScript
