import CoScript.Proofs.Token.Meaning

/-!
Line ends. A carriage return in front of every line feed changes nothing about the tokens of a script but
their offsets, as long as there are no templates, of whose text line ends are part. Two scanners run side
by side. They stand at the same line and column, unless one of them has passed a carriage return that the
other does not have; that can only be in front of a line feed, which sets both right again.
-/
namespace CoScript

namespace Text

/-- A text with a carriage return in front of every line feed. -/
def windowsLineEnds (t : Text) : Text :=
  t.flatMap fun g => if g.is '\n' then [.char '\r', g] else [g]

/-- A text without carriage returns and backticks. -/
def Portable (t : Text) : Prop :=
  ∀ g ∈ t, g.is '\r' = false ∧ g.is '`' = false

theorem Portable.of_suffix {t u : Text} (h : t.Portable) (suffix : u <:+ t) : u.Portable :=
  fun g hg => h g (suffix.subset hg)

theorem windowsLineEnds_feed (t : Text) : windowsLineEnds (.char '\n' :: t) =
    .char '\r' :: .char '\n' :: windowsLineEnds t := rfl

theorem windowsLineEnds_cons {g : Glyph} (other : g.is '\n' = false) (t : Text) :
    windowsLineEnds (g :: t) = g :: windowsLineEnds t := by
  simp [windowsLineEnds, other]

theorem windowsLineEnds_append (t u : Text) :
    windowsLineEnds (t ++ u) = windowsLineEnds t ++ windowsLineEnds u :=
  List.flatMap_append

theorem is_newline_of_not_mem {g : Glyph} {t : Text} (h : .char '\n' ∉ t) (hg : g ∈ t) :
    g.is '\n' = false :=
  Bool.eq_false_iff.2 fun feed => h (Trivia.eq_char_of_is feed ▸ hg)

theorem not_mem_cons_newline {g : Glyph} {t : Text} (other : g.is '\n' = false) (h : .char '\n' ∉ t) :
    .char '\n' ∉ g :: t := by
  rw [List.mem_cons, not_or]
  refine ⟨?_, h⟩
  rintro rfl
  cases other

theorem windowsLineEnds_of_not_mem {t : Text} (h : .char '\n' ∉ t) : t.windowsLineEnds = t := by
  induction t with
  | nil => rfl
  | cons g t ih =>
      rw [windowsLineEnds_cons (is_newline_of_not_mem h List.mem_cons_self),
        ih fun feed => h (List.mem_cons_of_mem g feed)]

/-- What comes first is the same to every test that does not tell the two line ends apart. -/
theorem head_windowsLineEnds {p : Char → Bool} (same : p '\r' = p '\n') (t : Text) :
    t.windowsLineEnds.head?.any (·.holds p) = t.head?.any (·.holds p) := by
  cases t with
  | nil => rfl
  | cons g t =>
      cases feed : g.is '\n' with
      | true =>
          obtain rfl := Trivia.eq_char_of_is feed
          exact same
      | false => rw [windowsLineEnds_cons feed, List.head?_cons, List.head?_cons]

/-- Before the first line feed nothing is put in. -/
theorem cut_windowsLineEnds {t : Text} {n : Nat} (within : .char '\n' ∉ t.take n) :
    t.windowsLineEnds.take n = t.take n ∧ t.windowsLineEnds.drop n = windowsLineEnds (t.drop n) := by
  induction t generalizing n with
  | nil => simp [windowsLineEnds]
  | cons g t ih =>
      cases n with
      | zero => exact ⟨rfl, rfl⟩
      | succ n =>
          rw [List.take_succ_cons] at within ⊢
          rw [windowsLineEnds_cons (is_newline_of_not_mem within List.mem_cons_self)]
          have rest := ih fun feed => within (List.mem_cons_of_mem g feed)
          exact ⟨congrArg (g :: ·) rest.1, rest.2⟩

end Text

open Text

/-! Places. -/

namespace Mark

/-- Places on the same line and in the same column. -/
structure Level (m m' : Mark) : Prop where
  line : m'.line = m.line
  column : m'.column = m.column

namespace Level

variable {m m' : Mark}

theorem past (h : m.Level m') (g : Glyph) : (m.past g).Level (m'.past g) := by
  unfold Mark.past
  split
  · exact ⟨congrArg (· + 1) h.line, rfl⟩
  · exact ⟨h.line, congrArg (· + g.size) h.column⟩

theorem pastWhole (h : m.Level m') (g : Glyph) : (m.pastWhole g).Level (m'.pastWhole g) := by
  unfold Mark.pastWhole
  split
  · exact ⟨congrArg (· + 1) h.line, rfl⟩
  · exact ⟨h.line, congrArg (· + 1) h.column⟩

theorem advance (h : m.Level m') (whole : Bool) (g : Glyph) :
    (Quotation.advance whole m g).Level (Quotation.advance whole m' g) := by
  cases whole with
  | true => exact h.pastWhole g
  | false => exact h.past g

theorem pastAll (h : m.Level m') (t : Text) : (m.pastAll t).Level (m'.pastAll t) := by
  induction t generalizing m m' with
  | nil => exact h
  | cons g t ih => exact ih (h.past g)

theorem pastAllWhole (h : m.Level m') (t : Text) : (m.pastAllWhole t).Level (m'.pastAllWhole t) := by
  induction t generalizing m m' with
  | nil => exact h
  | cons g t ih => exact ih (h.pastWhole g)

/-- A line feed leads to the start of the next line, from wherever on the line. -/
theorem feed (h : m'.line = m.line) : (m.past (.char '\n')).Level (m'.past (.char '\n')) :=
  ⟨congrArg (· + 1) h, rfl⟩

theorem returned (h : m.Level m') :
    (m.past (.char '\n')).Level ((m'.past (.char '\r')).past (.char '\n')) :=
  have same : (m'.past (.char '\r')).line = m.line := h.line
  feed same

end Level

/-- A place in a text, and the place that belongs to it in the text with carriage returns, each with
what is ahead. There a carriage return may have been passed already. -/
def Abreast (m : Mark) (t : Text) (m' : Mark) (t' : Text) : Prop :=
  m.Level m' ∧ t' = t.windowsLineEnds ∨
    m'.line = m.line ∧ ∃ rest, t = .char '\n' :: rest ∧ t' = .char '\n' :: windowsLineEnds rest

end Mark

/-! Trivia. -/

namespace Trivia

/-- Trivia end in both texts at places that belong together. -/
structure Extent.Beside (e e' : Extent) : Prop where
  newline : e'.newline = e.newline
  unterminated : e'.unterminated = e.unterminated
  level : e.mark.Level e'.mark
  rest : e'.rest = e.rest.windowsLineEnds

theorem pair_windowsLineEnds (g : Glyph) (t : Text) (a : Char) {b : Char} (other : b ≠ '\n' ∧ b ≠ '\r') :
    pair g t.windowsLineEnds.head? a b = pair g t.head? a b :=
  congrArg (g.is a && ·) <|
    head_windowsLineEnds (p := (· == b)) (by simp [other.1.symm, other.2.symm]) t

theorem skip_windowsLineEnds (inside : Inside) (newline : Bool) {m m' : Mark} {t : Text}
    (returns : ∀ g ∈ t, g.is '\r' = false) (level : m.Level m')
    (second : inside = .blockOpening ∨ inside = .blockClosing → ∀ g ∈ t.head?, g.is '\n' = false) :
    (skip inside newline m t).Beside (skip inside newline m' t.windowsLineEnds) := by
  induction t generalizing inside newline m m' with
  | nil => cases inside <;> exact ⟨rfl, rfl, level, rfl⟩
  | cons g rest ih =>
      have others := (List.forall_mem_cons.1 returns).2
      cases feed : g.is '\n' with
      | true =>
          obtain rfl := eq_char_of_is feed
          rw [windowsLineEnds_feed]
          cases inside with
          | space | lineComment => exact ih .space true others level.returned (by simp)
          | blockComment =>
              have next := ih .blockComment (newline || true) others level.returned (by simp)
              simpa [skip, pair, Glyph.is, Glyph.holds] using next
          | blockOpening | blockClosing => cases second (by simp) _ rfl
      | false =>
          have onward {inside : Inside} {newline : Bool}
              (inner : inside ≠ .blockOpening ∧ inside ≠ .blockClosing) {n n' : Mark}
              (level : n.Level n') :=
            ih inside newline others level fun opens => absurd opens (by simp [inner])
          have paired {inside : Inside} {newline : Bool} {a b : Char} (other : b ≠ '\n')
              (h : pair g rest.head? a b) {n n' : Mark} (level : n.Level n') :=
            ih inside newline others level fun _ => by
              obtain ⟨more, -, rfl⟩ := eq_of_pair h
              rintro _ ⟨⟩
              exact beq_false_of_ne other
          have stops (newline unterminated : Bool) :
              (⟨newline, unterminated, m, g :: rest⟩ : Extent).Beside
                ⟨newline, unterminated, m', g :: windowsLineEnds rest⟩ :=
            ⟨rfl, rfl, level, (windowsLineEnds_cons feed rest).symm⟩
          have slash := pair_windowsLineEnds g rest '/' (b := '/') (by decide)
          have star := pair_windowsLineEnds g rest '/' (b := '*') (by decide)
          have close := pair_windowsLineEnds g rest '*' (b := '/') (by decide)
          rw [windowsLineEnds_cons feed]
          cases inside with
          | space =>
              simp only [skip, slash, star]
              split_ifs with line blank wide comment block
              · exact onward (by simp) (level.past g)
              · exact onward (by simp) (level.past g)
              · exact onward (by simp) (level.pastWhole g)
              · exact onward (by simp) (level.past g)
              · exact paired (by decide) block (level.past g)
              · exact stops newline false
          | lineComment =>
              simp only [skip, feed, Bool.false_eq_true, if_false]
              split_ifs
              · exact stops newline false
              · exact onward (by simp) (level.past g)
          | blockOpening =>
              exact onward (by simp) (level.past g)
          | blockComment =>
              simp only [skip, close]
              split_ifs with closes
              · exact paired (by decide) closes (level.past g)
              · exact stops newline true
              · exact onward (by simp) (level.past g)
          | blockClosing => exact onward (by simp) (level.past g)

/-- A line feed is never left to what follows. -/
theorem is_newline_of_skip {inside : Inside} {newline : Bool} {m : Mark} {t rest : Text} {g : Glyph}
    (h : (skip inside newline m t).rest = g :: rest) : g.is '\n' = false := by
  fun_induction skip inside newline m t with
  | case1 => cases h
  | case7 newline m first rest line =>
      cases h
      exact (Bool.or_eq_false_iff.1 (Bool.eq_false_iff.2 line)).1
  | case9 | case13 =>
      rename_i nul
      cases h
      exact eq_char_of_is nul ▸ rfl
  | _ =>
      rename_i ih
      exact ih h

/-- Blank space and comments before a token end alike, wherever they start. -/
theorem skip_abreast {m m' : Mark} {t t' : Text} (plain : t.Portable) (h : m.Abreast t m' t') :
    (skip .space false m t).Beside (skip .space false m' t') := by
  obtain ⟨level, rfl⟩ | ⟨line, rest, rfl, rfl⟩ := h
  · exact skip_windowsLineEnds .space false (fun g hg => (plain g hg).1) level (by simp)
  · exact skip_windowsLineEnds .space true
      (fun g hg => (plain g (List.mem_cons_of_mem _ hg)).1) (.feed line) (by simp)

end Trivia

/-! Strings. -/

namespace Quotation

theorem step_windowsLineEnds (quote : Char) (mode : Mode) (g : Glyph) (t : Text) :
    step quote mode g t.windowsLineEnds.head? = step quote mode g t.head? := by
  cases mode with
  | escape => cases g <;> simp only [step, escapeStep, head_windowsLineEnds (p := Char.isDigit) rfl]
  | _ => rfl

/-- Only a carriage return calls for a line feed. -/
theorem ne_afterReturn_of_step {quote : Char} {mode mode' : Mode} {g : Glyph} {next : Option Glyph}
    {piece : Option Piece} {whole : Bool} (other : g.is '\r' = false)
    (h : step quote mode g next = .go mode' piece whole) : mode' ≠ .afterReturn := by
  have returns (c : Char) (same : c = '\r') : g ≠ .char c := by
    rintro rfl
    rw [same] at other
    cases other
  cases mode with
  | plain | afterReturn =>
      simp only [step, plainStep] at h
      split_ifs at h <;> cases h <;> rintro ⟨⟩
  | escape =>
      simp only [step, escapeStep] at h
      split at h
      · cases h
        rintro ⟨⟩
      split at h
      · cases h
      split at h
      · cases h
        rintro ⟨⟩
      split_ifs at h with ret
      · exact absurd rfl (returns _ ret)
      all_goals
        cases h
        rintro ⟨⟩
  | hex | unicode =>
      simp only [step, hexStep] at h
      split_ifs at h <;> cases h <;> rintro ⟨⟩
  | braced =>
      simp only [step, bracedStep] at h
      split_ifs at h <;> cases h <;> rintro ⟨⟩

/-- A literal ends alike in both texts. -/
structure Extent.Beside (t : Text) (n n' : Nat) (e e' : Extent) : Prop where
  pieces : e'.pieces? = e.pieces?
  level : e.mark.Level e'.mark
  length : ∃ k k', e.length = n + k ∧ e'.length = n' + k' ∧
    t.windowsLineEnds.drop k' = windowsLineEnds (t.drop k)

theorem Extent.Beside.none {n n' : Nat} {m m' : Mark} (level : m.Level m') (t : Text) :
    Extent.Beside t n n' ⟨.none, n, m⟩ ⟨.none, n', m'⟩ :=
  ⟨rfl, level, 0, 0, rfl, rfl, rfl⟩

/-- A line end that is not escaped breaks a literal off. -/
theorem step_lineEnd {quote : Char} (ends : quote ≠ '\n' ∧ quote ≠ '\r') {mode : Mode}
    (inner : mode ≠ .escape ∧ mode ≠ .afterReturn) {c : Char} (hc : c = '\n' ∨ c = '\r')
    (next : Option Glyph) : step quote mode (.char c) next = .fail false := by
  cases mode with
  | plain => obtain rfl | rfl := hc <;> simp [step, plainStep, Glyph.is, Glyph.holds, ends.1.symm, ends.2.symm]
  | escape => exact absurd rfl inner.1
  | afterReturn => exact absurd rfl inner.2
  | hex | unicode | braced => obtain rfl | rfl := hc <;> rfl

/-- No line end is part of a literal unless it is escaped, and then the two go on alike behind it. -/
theorem run_windowsLineEnds {quote : Char} (ends : quote ≠ '\n' ∧ quote ≠ '\r') (mode : Mode)
    (after : mode ≠ .afterReturn) (pieces : List Piece) (n n' : Nat) {m m' : Mark} {t : Text}
    (returns : ∀ g ∈ t, g.is '\r' = false) (level : m.Level m') :
    Extent.Beside t n n' (run quote mode pieces n m t)
      (run quote mode pieces n' m' t.windowsLineEnds) := by
  induction t generalizing mode pieces n n' m m' with
  | nil => exact .none level []
  | cons g rest ih =>
      obtain ⟨here, others⟩ := List.forall_mem_cons.1 returns
      cases feed : g.is '\n' with
      | true =>
          obtain rfl := Trivia.eq_char_of_is feed
          by_cases escape : mode = .escape
          · subst escape
            obtain ⟨same, onward, k, k', long, long', left⟩ :=
              ih .plain (by rintro ⟨⟩) (.joint :: pieces) (n + 1) (n' + 2) others level.returned
            exact ⟨same, onward, k + 1, k' + 2, by rw [Nat.add_comm k, ← Nat.add_assoc]; exact long,
              by rw [Nat.add_comm k', ← Nat.add_assoc]; exact long', left⟩
          · have breaks {c : Char} (hc : c = '\n' ∨ c = '\r') (n : Nat) (m : Mark) (t : Text) :
                run quote mode pieces n m (.char c :: t) = ⟨.none, n, m⟩ := by
              rw [run, step_lineEnd ends ⟨escape, after⟩ hc]
              rfl
            rw [windowsLineEnds_feed, breaks (.inl rfl), breaks (.inr rfl)]
            exact .none level _
      | false =>
          rw [windowsLineEnds_cons feed, run, run, step_windowsLineEnds]
          cases taken : step quote mode g rest.head? with
          | fail past =>
              cases past with
              | false => exact .none level _
              | true => exact ⟨rfl, level.past g, 1, 1, rfl, rfl, by rw [windowsLineEnds_cons feed]; rfl⟩
          | finish => exact ⟨rfl, level.past g, 1, 1, rfl, rfl, by rw [windowsLineEnds_cons feed]; rfl⟩
          | go mode' piece whole =>
              obtain ⟨same, onward, k, k', long, long', left⟩ :=
                ih mode' (ne_afterReturn_of_step here taken) (piece.toList ++ pieces) (n + 1) (n' + 1) others
                  (level.advance whole g)
              exact ⟨same, onward, k + 1, k' + 1, by rw [Nat.add_comm k, ← Nat.add_assoc]; exact long,
                by rw [Nat.add_comm k', ← Nat.add_assoc]; exact long',
                by rw [windowsLineEnds_cons feed]; exact left⟩

end Quotation

/-! Regular expressions. -/

namespace RegexLiteral

theorem flags_windowsLineEnds (seen : List Char) (n : Nat) (t : Text) :
    flags seen n t.windowsLineEnds = flags seen n t ∧
      ∃ k, (flags seen n t).length = n + k ∧ .char '\n' ∉ t.take k := by
  induction t generalizing seen n with
  | nil => exact ⟨rfl, 0, rfl, List.not_mem_nil⟩
  | cons g t ih =>
      cases feed : g.is '\n' with
      | true =>
          obtain rfl := Trivia.eq_char_of_is feed
          exact ⟨rfl, 0, rfl, List.not_mem_nil⟩
      | false =>
          rw [windowsLineEnds_cons feed]
          cases g with
          | stray b => exact ⟨rfl, 0, rfl, List.not_mem_nil⟩
          | char c =>
              simp only [flags]
              split_ifs
              · exact ⟨rfl, 1, rfl, not_mem_cons_newline feed List.not_mem_nil⟩
              · obtain ⟨same, k, long, within⟩ := ih (c :: seen) (n + 1)
                exact ⟨same, k + 1, by rw [long]; omega, not_mem_cons_newline feed within⟩
              · exact ⟨rfl, 0, rfl, List.not_mem_nil⟩

/-- A regular expression ends on its line, and alike in both texts, unless a backslash is the last glyph
of the line: then the carriage return is taken for what it escapes. -/
def Extent.Beside (t : Text) (n : Nat) (e e' : Extent) : Prop :=
  ∃ k, e.length = n + k ∧ .char '\n' ∉ t.take k ∧
    (e' = e ∨ e.outcome = .unterminated ∧ e' = ⟨.unterminated, n + k + 1⟩ ∧
      ∃ rest, t.drop k = .char '\n' :: rest)

theorem Extent.Beside.past {g : Glyph} (feed : g.is '\n' = false) {t : Text} {n : Nat} {e e' : Extent}
    (h : Extent.Beside t (n + 1) e e') : Extent.Beside (g :: t) n e e' := by
  obtain ⟨k, long, within, same⟩ := h
  refine ⟨k + 1, by rw [long]; omega, not_mem_cons_newline feed within, ?_⟩
  rwa [Nat.add_assoc n 1 k, Nat.add_comm 1 k] at same

theorem Extent.Beside.here (o : Outcome) (n : Nat) (t : Text) : Extent.Beside t n ⟨o, n⟩ ⟨o, n⟩ :=
  ⟨0, rfl, List.not_mem_nil, .inl rfl⟩

theorem body_windowsLineEnds (inBrackets : Bool) (n : Nat) {t : Text}
    (returns : ∀ g ∈ t, g.is '\r' = false) :
    Extent.Beside t n (body inBrackets n t) (body inBrackets n t.windowsLineEnds) := by
  induction inBrackets, n, t using body.induct with
  | case1 inBrackets n => exact .here .unterminated n []
  | case2 inBrackets n g rest ended =>
      have feed : g.is '\n' := by simpa [returns g List.mem_cons_self] using ended
      obtain rfl := Trivia.eq_char_of_is feed
      rw [windowsLineEnds_feed, body_cons, body_cons]
      exact .here .unterminated n _
  | case3 inBrackets n g same escape =>
      obtain ⟨feed, -⟩ := Bool.or_eq_false_iff.1 (Bool.eq_false_iff.2 same)
      simp only [windowsLineEnds_cons feed, body_cons, if_neg same, if_pos escape]
      exact .past feed (.here .unterminated (n + 1) [])
  | case4 inBrackets n g same escape h rest feed' =>
      obtain ⟨feed, -⟩ := Bool.or_eq_false_iff.1 (Bool.eq_false_iff.2 same)
      obtain rfl := Trivia.eq_char_of_is feed'
      have lineEnd (n : Nat) (t : Text) :
          body inBrackets n (.char '\n' :: t) = ⟨.unterminated, n⟩ := body_cons ..
      simp only [windowsLineEnds_cons feed, windowsLineEnds_feed, body_cons _ _ g, if_neg same,
        if_pos escape, lineEnd]
      exact .past feed ⟨0, rfl, List.not_mem_nil, .inr ⟨rfl, rfl, rest, rfl⟩⟩
  | case5 inBrackets n g same escape h rest more ih =>
      obtain ⟨feed, -⟩ := Bool.or_eq_false_iff.1 (Bool.eq_false_iff.2 same)
      obtain ⟨-, others⟩ := List.forall_mem_cons.1 (List.forall_mem_cons.1 returns).2
      have feed' := Bool.eq_false_iff.2 more
      simp only [windowsLineEnds_cons feed, windowsLineEnds_cons feed', body_cons _ _ g, if_neg same,
        if_pos escape, if_neg more]
      exact .past feed (.past feed' (ih others))
  | case6 inBrackets n g rest same plain opens ih =>
      obtain ⟨feed, -⟩ := Bool.or_eq_false_iff.1 (Bool.eq_false_iff.2 same)
      simp only [windowsLineEnds_cons feed, body_cons, if_neg same, if_neg plain, if_pos opens]
      exact .past feed (ih (List.forall_mem_cons.1 returns).2)
  | case7 inBrackets n g rest same plain inside closes ih =>
      obtain ⟨feed, -⟩ := Bool.or_eq_false_iff.1 (Bool.eq_false_iff.2 same)
      simp only [windowsLineEnds_cons feed, body_cons, if_neg same, if_neg plain, if_neg inside, if_pos closes]
      exact .past feed (ih (List.forall_mem_cons.1 returns).2)
  | case8 inBrackets n g rest same plain inside outside slash =>
      obtain ⟨feed, -⟩ := Bool.or_eq_false_iff.1 (Bool.eq_false_iff.2 same)
      obtain ⟨alike, k, long, within⟩ := flags_windowsLineEnds [] (n + 1) rest
      simp only [windowsLineEnds_cons feed, body_cons, if_neg same, if_neg plain, if_neg inside,
        if_neg outside, if_pos slash]
      exact .past feed ⟨k, long, within, .inl alike⟩
  | case9 inBrackets n g rest same plain inside outside other ih =>
      obtain ⟨feed, -⟩ := Bool.or_eq_false_iff.1 (Bool.eq_false_iff.2 same)
      simp only [windowsLineEnds_cons feed, body_cons, if_neg same, if_neg plain, if_neg inside,
        if_neg outside, if_neg other]
      exact .past feed (ih (List.forall_mem_cons.1 returns).2)

end RegexLiteral

/-! Numbers and operators. -/

/-- A number ends on its line. -/
theorem Numeral.length_windowsLineEnds (g : Glyph) (rest : Text) (feed : g.is '\n' = false) :
    length (g :: rest.windowsLineEnds) = length (g :: rest) ∧
      .char '\n' ∉ (g :: rest).take (length (g :: rest)) := by
  by_cases later : .char '\n' ∈ rest
  · obtain ⟨line, more, rfl, within⟩ := List.eq_append_cons_of_mem later
    have ended {c : Char} (hc : c ∈ closers) (point : c ≠ '.') (more : Text) :
        length (g :: (line ++ .char c :: more)) = length (g :: line) := by
      have closes : Closes (.char c :: more) := by
        rintro _ ⟨⟩
        exact ⟨c, hc, rfl⟩
      exact length_append (u := {}) closes (List.cons_ne_nil g line) (.inl (by simpa using point))
    rw [windowsLineEnds_append, windowsLineEnds_of_not_mem within, windowsLineEnds_feed,
      ended (by decide) (by decide), ended (by decide) (by decide)]
    refine ⟨rfl, fun mem => not_mem_cons_newline feed within ?_⟩
    refine List.mem_of_mem_take (i := length (g :: line)) ?_
    rwa [← List.cons_append, List.take_append_of_le_length (length_le _)] at mem
  · rw [windowsLineEnds_of_not_mem later]
    exact ⟨rfl, fun mem => not_mem_cons_newline feed later (List.mem_of_mem_take mem)⟩

theorem Text.after_windowsLineEnds {start t : Text}
    (inner : ∀ g ∈ start, g.is '\n' = false ∧ g.is '\r' = false) :
    Text.after? start t.windowsLineEnds = (Text.after? start t).map windowsLineEnds := by
  induction start generalizing t with
  | nil => rfl
  | cons a start ih =>
      obtain ⟨⟨noFeed, noReturn⟩, others⟩ := List.forall_mem_cons.1 inner
      cases t with
      | nil => rfl
      | cons g t =>
          cases feed : g.is '\n' with
          | true =>
              obtain rfl := Trivia.eq_char_of_is feed
              rw [windowsLineEnds_feed, Text.after?, Text.after?, if_neg, if_neg]
              · rfl
              · rintro rfl
                cases noFeed
              · rintro rfl
                cases noReturn
          | false =>
              rw [windowsLineEnds_cons feed, Text.after?, Text.after?]
              split
              · exact ih others
              · rfl

/-- A digit decides on the optional chain, of which it is the first glyph or not. -/
theorem Operator.leading_windowsLineEnds (t : Text) :
    leading? t.windowsLineEnds = (leading? t).map (Prod.map id windowsLineEnds) := by
  rw [leading?, leading?, List.map_findSome?]
  congr 1
  funext o
  have inner : ∀ g ∈ txt o.spelling, g.is '\n' = false ∧ g.is '\r' = false := by
    cases o <;> decide
  rw [Function.comp, Text.after_windowsLineEnds inner]
  cases Text.after? (txt o.spelling) t with
  | none => rfl
  | some rest =>
      cases rest with
      | nil => cases o <;> rfl
      | cons g rest =>
          cases feed : g.is '\n' with
          | true =>
              obtain rfl := Trivia.eq_char_of_is feed
              cases o <;> rfl
          | false =>
              simp only [Option.map_some, windowsLineEnds_cons feed]
              split
              · rfl
              · rw [Option.map_some, Prod.map, windowsLineEnds_cons feed]
                rfl

/-! Tokens. -/

namespace Scanner

theorem nameAt_windowsLineEnds (t : Text) :
    nameAt t.windowsLineEnds = nameAt t ∧ .char '\n' ∉ t.take (nameAt t).length := by
  induction t with
  | nil => exact ⟨rfl, List.not_mem_nil⟩
  | cons g t ih =>
      cases feed : g.is '\n' with
      | true =>
          obtain rfl := Trivia.eq_char_of_is feed
          exact ⟨rfl, List.not_mem_nil⟩
      | false =>
          rw [windowsLineEnds_cons feed]
          cases name : g.holds isNamePart with
          | true =>
              have part (t : Text) : nameAt (g :: t) = g :: nameAt t := by simp [nameAt, name]
              rw [part, part]
              exact ⟨congrArg (g :: ·) ih.1, not_mem_cons_newline feed ih.2⟩
          | false =>
              have part (t : Text) : nameAt (g :: t) = [] := by simp [nameAt, name]
              rw [part, part]
              exact ⟨rfl, List.not_mem_nil⟩

/-- Lexemes at the start of a text and of the text with carriage returns. They mean the same, and what
is behind them starts at places that belong together. -/
structure Lexeme.Beside (t : Text) (l l' : Lexeme) : Prop where
  kind : l'.kind = l.kind
  literal : l'.literal = l.literal
  stop : l.stop.Abreast (t.drop l.length) l'.stop (t.windowsLineEnds.drop l'.length)

theorem Lexeme.Beside.onLine {t : Text} {n : Nat} (within : .char '\n' ∉ t.take n) (kind : Token.Kind)
    (literal : Text) {stop stop' : Mark} (level : stop.Level stop') :
    Lexeme.Beside t ⟨kind, literal, n, stop⟩ ⟨kind, literal, n, stop'⟩ :=
  ⟨rfl, rfl, .inl ⟨level, (cut_windowsLineEnds within).2⟩⟩

variable {m m' : Mark} {g : Glyph} {rest : Text}

theorem stringLexeme_windowsLineEnds {quote : Char} (ends : quote ≠ '\n' ∧ quote ≠ '\r')
    (returns : ∀ g ∈ rest, g.is '\r' = false) (level : m.Level m') :
    Lexeme.Beside (.char quote :: rest) (stringLexeme quote m rest)
      (stringLexeme quote m' rest.windowsLineEnds) := by
  obtain ⟨same, level, k, k', long, long', left⟩ := Quotation.run_windowsLineEnds ends
    .plain (by rintro ⟨⟩) [] 1 1 returns (level.past (.char quote))
  have stop : Mark.Abreast _ ((Glyph.char quote :: rest).drop (1 + k)) _
      ((windowsLineEnds (.char quote :: rest)).drop (1 + k')) := .inl ⟨level, by
    rw [windowsLineEnds_cons (g := .char quote) (beq_false_of_ne ends.1), Nat.add_comm 1, Nat.add_comm 1]
    exact left⟩
  rw [← long, ← long'] at stop
  unfold stringLexeme
  dsimp only
  rw [same]
  split
  · exact ⟨rfl, rfl, stop⟩
  · exact ⟨rfl, rfl, stop⟩

theorem regexLexeme_windowsLineEnds (feed : g.is '\n' = false)
    (returns : ∀ g ∈ rest, g.is '\r' = false) (level : m.Level m') :
    Lexeme.Beside (g :: rest) (regexLexeme m (g :: rest) rest)
      (regexLexeme m' (g :: rest.windowsLineEnds) rest.windowsLineEnds) := by
  obtain ⟨k, long, within, same⟩ :=
    RegexLiteral.Extent.Beside.past feed (RegexLiteral.body_windowsLineEnds false 1 returns)
  rw [Nat.zero_add] at long
  obtain ⟨taken, left⟩ := cut_windowsLineEnds within
  rw [windowsLineEnds_cons feed] at taken left
  unfold regexLexeme
  obtain same | ⟨broken, longer, more, ends⟩ := same
  · dsimp only
    rw [same, long, taken]
    split <;> exact .onLine within _ _ (level.pastAll _)
  · rw [ends, windowsLineEnds_feed] at left
    have onward : (g :: rest.windowsLineEnds).drop (k + 1) = .char '\n' :: windowsLineEnds more := by
      rw [← List.drop_drop, left]
      rfl
    have further : (g :: rest.windowsLineEnds).take (k + 1) = (g :: rest).take k ++ [Glyph.char '\r'] := by
      rw [List.take_add, taken, left]
      rfl
    dsimp only
    rw [longer, broken, long, Nat.zero_add]
    refine ⟨rfl, rfl, .inr ⟨?_, more, ends, ?_⟩⟩
    · dsimp only [Lexeme.illegal]
      rw [further, Mark.pastAll, List.foldl_append]
      exact (level.pastAll ((g :: rest).take k)).line
    · rw [windowsLineEnds_cons feed]
      exact onward

theorem operatorLexeme_windowsLineEnds (feed : g.is '\n' = false) (level : m.Level m') :
    Lexeme.Beside (g :: rest) (operatorLexeme m g rest) (operatorLexeme m' g rest.windowsLineEnds) := by
  unfold operatorLexeme
  rw [← windowsLineEnds_cons feed, Operator.leading_windowsLineEnds]
  cases leads : Operator.leading? (g :: rest) with
  | none =>
      have within : .char '\n' ∉ (g :: rest).take 1 := not_mem_cons_newline feed List.not_mem_nil
      exact .onLine within _ _ (level.pastWhole g)
  | some found =>
      obtain ⟨o, after⟩ := found
      refine .onLine ?_ _ _ (level.pastAll _)
      rw [(Operator.leading?_longest leads).1, List.take_left]
      cases o <;> decide

/-- A token starts at the same line and column in both texts, and so does what follows it. -/
theorem lexeme_windowsLineEnds (divides : Bool) (plain : Portable (g :: rest)) (feed : g.is '\n' = false)
    (level : m.Level m') :
    Lexeme.Beside (g :: rest) (lexeme divides m g rest) (lexeme divides m' g rest.windowsLineEnds) := by
  have returns : ∀ g ∈ rest, g.is '\r' = false := fun h mem => (plain h (List.mem_cons_of_mem g mem)).1
  have starts : Numeral.starts (g :: rest.windowsLineEnds) = Numeral.starts (g :: rest) :=
    congrArg (g.holds Char.isDigit || g.is '.' && ·) (head_windowsLineEnds (p := Char.isDigit) rfl rest)
  unfold lexeme
  simp only [starts, head_windowsLineEnds (p := isNameStart) rfl]
  split_ifs with quote tick hash name number slash
  · obtain ⟨c, rfl, ends⟩ : ∃ c, g = .char c ∧ c ≠ '\n' ∧ c ≠ '\r' := by
      obtain double | single := Bool.or_eq_true_iff.1 quote
      · exact ⟨'"', Trivia.eq_char_of_is double, by decide⟩
      · exact ⟨'\'', Trivia.eq_char_of_is single, by decide⟩
    exact stringLexeme_windowsLineEnds ends returns level
  · rw [(plain g List.mem_cons_self).2] at tick
    contradiction
  · obtain ⟨same, within⟩ := nameAt_windowsLineEnds rest
    rw [same]
    exact .onLine (t := g :: rest) (n := (g :: nameAt rest).length) (not_mem_cons_newline feed within) _ _
      (level.pastAllWhole _)
  · obtain ⟨same, within⟩ := nameAt_windowsLineEnds (g :: rest)
    rw [windowsLineEnds_cons feed] at same
    rw [same]
    exact .onLine within _ _ (level.pastAllWhole _)
  · obtain ⟨same, within⟩ := Numeral.length_windowsLineEnds g rest feed
    have taken := (cut_windowsLineEnds within).1
    rw [windowsLineEnds_cons feed] at taken
    rw [same, taken]
    refine .onLine ?_ _ _ (level.pastAll _)
    rwa [List.length_take, ← List.take_eq_take_min]
  · exact regexLexeme_windowsLineEnds feed returns level
  · exact operatorLexeme_windowsLineEnds feed level

end Scanner

namespace Token

/-- Tokens that differ in nothing but how they are written and which bytes they take. -/
structure Matches (t t' : Token) : Prop where
  kind : t'.kind = t.kind
  literal : t'.literal = t.literal
  line : t'.line = t.line
  column : t'.column = t.column
  newlineBefore : t'.newlineBefore = t.newlineBefore

end Token

namespace Scanner

/-- A scanner in a text, and the scanner that belongs to it in the text with carriage returns. -/
structure Abreast (s s' : Scanner) : Prop where
  portable : s.rest.Portable
  previous : s'.previous = s.previous
  place : s.mark.Abreast s.rest s'.mark s'.rest

theorem Abreast.next {s s' : Scanner} (h : s.Abreast s') :
    s.next.1.Matches s'.next.1 ∧ s.next.2.Abreast s'.next.2 := by
  have beside := Trivia.skip_abreast h.portable h.place
  have portable := h.portable.of_suffix (Trivia.skip_suffix .space false s.mark s.rest)
  have noFeed (g : Glyph) (t : Text) := @Trivia.is_newline_of_skip .space false s.mark s.rest t g
  unfold Scanner.next
  generalize Trivia.skip .space false s.mark s.rest = e at beside portable noFeed
  generalize Trivia.skip .space false s'.mark s'.rest = e' at beside
  obtain ⟨newline, broken, m, t⟩ := e
  obtain ⟨newline', broken', m', t'⟩ := e'
  obtain ⟨sameNewline, sameEnd, level, ahead⟩ := beside
  dsimp only at sameNewline sameEnd level ahead portable noFeed ⊢
  rw [sameNewline, sameEnd, ahead]
  rw [h.previous]
  -- a token that starts at the two places, and the scanners behind it
  have token (l l' : Lexeme) (same : Lexeme.Beside t l l') (p p' : Option Token.Kind) (hp : p' = p) :
      Token.Matches
          { kind := l.kind, literal := l.literal, raw := t.take l.length, line := m.line,
            column := m.column, start := m.offset, stop := l.stop.offset, newlineBefore := newline }
          { kind := l'.kind, literal := l'.literal, raw := t.windowsLineEnds.take l'.length,
            line := m'.line, column := m'.column, start := m'.offset, stop := l'.stop.offset,
            newlineBefore := newline } ∧
        Abreast ⟨t.drop l.length, l.stop, p⟩ ⟨t.windowsLineEnds.drop l'.length, l'.stop, p'⟩ :=
    ⟨⟨same.kind, same.literal, level.line, level.column, rfl⟩,
      ⟨portable.of_suffix (List.drop_suffix ..), hp, same.stop⟩⟩
  split
  · exact token _ _ (.onLine (n := 0) List.not_mem_nil _ _ level) _ _ rfl
  · cases t with
    | nil => exact token _ _ (.onLine (n := 0) List.not_mem_nil _ _ level) _ _ rfl
    | cons g rest =>
        have feed := noFeed g rest rfl
        have same := lexeme_windowsLineEnds (s.previous.any endsOperand) portable feed level
        rw [windowsLineEnds_cons feed] at token ⊢
        exact token _ _ same _ _ (same.kind ▸ rfl)

/-- Scanners that belong together take tokens that match, until both are at the end. -/
theorem Abreast.collect {s s' : Scanner} (h : s.Abreast s') {limit limit' : Nat}
    (enough : s.rest.length < limit) (enough' : s'.rest.length < limit') :
    List.Forall₂ Token.Matches (s.collect limit) (s'.collect limit') := by
  induction limit generalizing s s' limit' with
  | zero => cases enough
  | succ limit ih =>
      obtain ⟨limit', rfl⟩ := Nat.exists_eq_succ_of_ne_zero (Nat.ne_zero_of_lt enough')
      obtain ⟨same, onward⟩ := h.next
      simp only [Scanner.collect]
      rw [same.kind]
      split
      · exact .cons same .nil
      · rename_i more
        have shorter := rest_lt_of_next more
        have shorter' := rest_lt_of_next (same.kind ▸ more)
        exact .cons same (ih onward (by omega) (by omega))

end Scanner

/-! Bytes. -/

namespace Text

/-- A script with a carriage return in front of every line feed. -/
def windowsLineEndBytes (script : List UInt8) : List UInt8 :=
  script.flatMap fun b => if b = 0x0A then [0x0D, b] else [b]

theorem windowsLineEndBytes_cons {b : UInt8} (other : b ≠ 0x0A) (bytes : List UInt8) :
    windowsLineEndBytes (b :: bytes) = b :: windowsLineEndBytes bytes := by
  simp [windowsLineEndBytes, other]

theorem windowsLineEndBytes_append (a b : List UInt8) :
    windowsLineEndBytes (a ++ b) = windowsLineEndBytes a ++ windowsLineEndBytes b :=
  List.flatMap_append

theorem windowsLineEndBytes_of_not_mem {bytes : List UInt8} (h : 0x0A ∉ bytes) :
    windowsLineEndBytes bytes = bytes := by
  induction bytes with
  | nil => rfl
  | cons b bytes ih =>
      rw [List.mem_cons, not_or] at h
      rw [windowsLineEndBytes_cons (Ne.symm h.1), ih h.2]

theorem ofBytes_windowsLineEndBytes (script : List UInt8) :
    ofBytes (windowsLineEndBytes script) = (ofBytes script).windowsLineEnds := by
  induction long : script.length using Nat.strong_induction_on generalizing script with
  | _ length ih =>
  by_cases later : 0x0A ∈ script
  · obtain ⟨line, more, rfl, within⟩ := List.eq_append_cons_of_mem later
    rw [List.length_append, List.length_cons] at long
    have onLine : .char '\n' ∉ ofBytes line := fun feed =>
      within (bytes_subset_of_mem feed List.mem_cons_self)
    have feed (rest : List UInt8) : windowsLineEndBytes (0x0A :: rest) =
        0x0D :: 0x0A :: windowsLineEndBytes rest := rfl
    rw [windowsLineEndBytes_append, windowsLineEndBytes_of_not_mem within, feed,
      ofBytes_append_ascii (by decide), ofBytes_append_ascii (by decide), windowsLineEnds_append,
      windowsLineEnds_of_not_mem onLine, ofBytes_ascii (by decide), ofBytes_ascii (by decide),
      ofBytes_ascii (by decide), ih more.length (by omega) more rfl]
    rfl
  · have onLine : .char '\n' ∉ ofBytes script := fun feed =>
      later (bytes_subset_of_mem feed List.mem_cons_self)
    rw [windowsLineEndBytes_of_not_mem later, windowsLineEnds_of_not_mem onLine]

theorem portable_ofBytes {script : List UInt8} (plain : ∀ b ∈ script, b ≠ 0x0D ∧ b ≠ 0x60) :
    Portable (ofBytes script) := by
  intro g hg
  have there := bytes_subset_of_mem hg
  constructor
  · refine Bool.eq_false_iff.2 fun ret => ?_
    obtain rfl := Trivia.eq_char_of_is ret
    exact (plain 0x0D (there List.mem_cons_self)).1 rfl
  · refine Bool.eq_false_iff.2 fun tick => ?_
    obtain rfl := Trivia.eq_char_of_is tick
    exact (plain 0x60 (there List.mem_cons_self)).2 rfl

end Text

/-- Carriage returns in front of the line feeds of a script, which has none and no templates, leave its
tokens what they are and keep them in their lines and columns. -/
theorem Token.scan_windowsLineEndBytes {script : List UInt8} (plain : ∀ b ∈ script, b ≠ 0x0D ∧ b ≠ 0x60) :
    List.Forall₂ Token.Matches (scan (Text.ofBytes script))
      (scan (Text.ofBytes (windowsLineEndBytes script))) := by
  rw [ofBytes_windowsLineEndBytes]
  have start : Scanner.Abreast { rest := Text.ofBytes script }
      { rest := (Text.ofBytes script).windowsLineEnds } :=
    ⟨portable_ofBytes plain, rfl, .inl ⟨⟨rfl, rfl⟩, rfl⟩⟩
  exact start.collect (Nat.lt_succ_self _) (Nat.lt_succ_self _)

/-- A string that goes on behind a line end, a comment, and a regular expression that breaks off at a
backslash in front of a line end. -/
theorem Token.scan_windowsLineEndBytes_broken :
    let script := (txt "'a\\\nb'=//c\n/d\\\n+").toBytes
    (∀ b ∈ script, b ≠ 0x0D ∧ b ≠ 0x60) ∧
    (scan (Text.ofBytes script)).map (fun t => (t.kind, t.line, t.column)) =
      [(.string, 1, 1), (.operator .assign, 2, 3), (.illegal, 3, 1), (.operator .plus, 4, 1),
        (.eof, 4, 2)] ∧
    List.Forall₂ Token.Matches (scan (Text.ofBytes script))
      (scan (Text.ofBytes (windowsLineEndBytes script))) := by
  exact ⟨by decide +kernel, by decide +kernel, Token.scan_windowsLineEndBytes (by decide +kernel)⟩

end CoScript
