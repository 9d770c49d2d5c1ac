import CoScript.Proofs.Token.Tiling

/-!
What a token means depends on its kind and on how it is written, whatever stands around it. A string is
over at its closing quote, so it denotes the same before any text, and what is wrong with an illegal
token shows in its own text.
-/
namespace CoScript

namespace Quotation

theorem step_finish {quote : Char} {mode : Mode} {g : Glyph} {next : Option Glyph}
    (h : step quote mode g next = .finish) (next' : Option Glyph) :
    step quote mode g next' = .finish := by
  cases mode with
  | escape =>
      rw [step, escapeStep.eq_def] at h
      split at h
      · contradiction
      split at h
      · contradiction
      split at h
      · contradiction
      split_ifs at h
  | _ => exact h

theorem lt_length_run {quote : Char} {mode : Mode} {pieces ps : List Piece} {length : Nat} {m : Mark}
    {t : Text} (h : (run quote mode pieces length m t).pieces? = some ps) :
    length < (run quote mode pieces length m t).length := by
  cases t with
  | nil => contradiction
  | cons g rest =>
      rw [run] at h ⊢
      split at h
      · contradiction
      · exact Nat.lt_succ_self _
      · obtain ⟨n, long, -⟩ := run_reaches quote _ _ (length + 1) _ rest
        rw [long]
        omega

/-- A string that is over denotes the same whatever follows it. -/
theorem run_append {quote : Char} {mode : Mode} {pieces ps : List Piece} {length : Nat} {m : Mark}
    {a b : Text} (whole : (run quote mode pieces length m (a ++ b)).length = length + a.length)
    (h : (run quote mode pieces length m (a ++ b)).pieces? = some ps) (m' : Mark) (b' : Text) :
    (run quote mode pieces length m' (a ++ b')).pieces? = some ps := by
  induction a generalizing mode pieces length m m' with
  | nil => exact absurd whole (lt_length_run h).ne'
  | cons g a ih =>
      rw [List.cons_append, run] at h whole ⊢
      split at h
      · contradiction
      · rename_i finish
        rw [step_finish finish]
        exact h
      · rename_i mode piece keep go
        have inside := lt_length_run h
        rw [List.length_cons] at whole
        cases a with
        | nil =>
            simp only [go] at whole
            simp only [List.length_nil] at whole
            omega
        | cons g' a =>
            simp only [List.cons_append, List.head?_cons] at go whole h ⊢
            simp only [go] at whole ⊢
            exact ih (whole.trans (Nat.add_right_comm length _ 1)) h _

end Quotation

namespace RegexLiteral

theorem lt_length_flags {seen : List Char} {length : Nat} {t : Text}
    (h : (flags seen length t).outcome = .badFlags) : length < (flags seen length t).length := by
  fun_induction flags seen length t with
  | case1 => exact Nat.lt_succ_self _
  | case2 _ _ _ _ _ _ ih => exact Nat.lt_of_succ_lt (ih h)
  | case3 | case4 => contradiction

theorem flags_append {seen : List Char} {length : Nat} {a b : Text}
    (whole : (flags seen length (a ++ b)).length = length + a.length)
    (h : (flags seen length (a ++ b)).outcome = .badFlags) (b' : Text) :
    (flags seen length (a ++ b')).outcome = .badFlags := by
  induction a generalizing seen length with
  | nil => exact absurd whole (lt_length_flags h).ne'
  | cons g a ih =>
      cases g with
      | stray => contradiction
      | char c =>
          rw [List.cons_append, flags] at h whole ⊢
          split_ifs at h whole ⊢
          · rfl
          · exact ih (by rw [whole, List.length_cons]; omega) h

theorem body_cons (inBrackets : Bool) (length : Nat) (g : Glyph) (rest : Text) :
    body inBrackets length (g :: rest) =
      if g.is '\n' || g.is '\r' then ⟨.unterminated, length⟩
      else if g.is '\\' then
        match rest with
        | [] => ⟨.unterminated, length + 1⟩
        | h :: rest =>
          if h.is '\n' then ⟨.unterminated, length + 1⟩ else body inBrackets (length + 2) rest
      else if g.is '[' then body true (length + 1) rest
      else if g.is ']' then body false (length + 1) rest
      else if g.is '/' && !inBrackets then flags [] (length + 1) rest
      else body inBrackets (length + 1) rest := by
  rw [body.eq_def]
  rfl

theorem lt_length_body {inBrackets : Bool} {length : Nat} {t : Text}
    (h : (body inBrackets length t).outcome = .badFlags) :
    length < (body inBrackets length t).length := by
  fun_induction body inBrackets length t with
  | case1 | case2 | case3 | case4 => contradiction
  | case5 _ _ _ _ _ _ _ _ ih => exact Nat.lt_of_succ_lt (Nat.lt_of_succ_lt (ih h))
  | case6 _ _ _ _ _ _ _ ih => exact Nat.lt_of_succ_lt (ih h)
  | case7 _ _ _ _ _ _ _ _ ih => exact Nat.lt_of_succ_lt (ih h)
  | case8 => exact Nat.lt_of_succ_lt (lt_length_flags h)
  | case9 _ _ _ _ _ _ _ _ _ ih => exact Nat.lt_of_succ_lt (ih h)

/-- Wrong flags are wrong whatever follows them. -/
theorem body_append {inBrackets : Bool} {length : Nat} {a b : Text}
    (whole : (body inBrackets length (a ++ b)).length = length + a.length)
    (h : (body inBrackets length (a ++ b)).outcome = .badFlags) (b' : Text) :
    (body inBrackets length (a ++ b')).outcome = .badFlags := by
  induction inBrackets, length, a using body.induct with
  | case1 => exact absurd whole (lt_length_body h).ne'
  | case2 inBrackets length g rest newline =>
      rw [List.cons_append, body_cons, if_pos newline] at h
      contradiction
  | case3 inBrackets length g same escape =>
      -- The backslash would be the last glyph, and what it escapes another one.
      cases b with
      | nil =>
          simp only [List.append_nil, body_cons, if_neg same, if_pos escape] at h
          contradiction
      | cons next rest =>
          simp only [List.cons_append, List.nil_append, body_cons, if_neg same, if_pos escape,
            List.length_singleton] at h whole
          split_ifs at h whole
          have := lt_length_body h
          omega
  | case4 inBrackets length g same escape next rest newline =>
      simp only [List.cons_append, body_cons, if_neg same, if_pos escape, if_pos newline] at h
      contradiction
  | case5 inBrackets length g same escape next rest more ih =>
      simp only [List.cons_append, body_cons, if_neg same, if_pos escape, if_neg more] at h whole ⊢
      exact ih (by rw [whole, List.length_cons, List.length_cons]; omega) h
  | case6 inBrackets length g rest same plain opens ih =>
      simp only [List.cons_append, body_cons, if_neg same, if_neg plain, if_pos opens] at h whole ⊢
      exact ih (by rw [whole, List.length_cons]; omega) h
  | case7 inBrackets length g rest same plain inside closes ih =>
      simp only [List.cons_append, body_cons, if_neg same, if_neg plain, if_neg inside,
        if_pos closes] at h whole ⊢
      exact ih (by rw [whole, List.length_cons]; omega) h
  | case8 inBrackets length g rest same plain inside outside slash =>
      simp only [List.cons_append, body_cons, if_neg same, if_neg plain, if_neg inside,
        if_neg outside, if_pos slash] at h whole ⊢
      exact flags_append (by rw [whole, List.length_cons]; omega) h b'
  | case9 inBrackets length g rest same plain inside outside other ih =>
      simp only [List.cons_append, body_cons, if_neg same, if_neg plain, if_neg inside,
        if_neg outside, if_neg other] at h whole ⊢
      exact ih (by rw [whole, List.length_cons]; omega) h

end RegexLiteral

namespace Scanner

variable {divides divides' : Bool} {m m' : Mark} {g : Glyph} {rest rest' : Text}

/-- Two lexemes that are written alike, each with the text behind it. -/
theorem split_of_take {n n' : Nat} (pos : 0 < n) (bound : n ≤ (g :: rest).length)
    (bound' : n' ≤ (g :: rest').length) (same : (g :: rest).take n = (g :: rest').take n') :
    ∃ a b b', rest = a ++ b ∧ rest' = a ++ b' ∧ n = 1 + a.length ∧ n' = 1 + a.length := by
  have long := congrArg List.length same
  rw [List.length_take_of_le bound, List.length_take_of_le bound'] at long
  obtain rfl := long
  obtain ⟨n, rfl⟩ := Nat.exists_eq_succ_of_ne_zero pos.ne'
  rw [List.take_succ_cons, List.take_succ_cons] at same
  have short := List.length_take_of_le (Nat.le_of_succ_le_succ bound)
  exact ⟨rest.take n, rest.drop n, rest'.drop n, (List.take_append_drop ..).symm,
    (List.cons.inj same).2 ▸ (List.take_append_drop ..).symm, by omega, by omega⟩

theorem stringLexeme_literal {quote : Char}
    (kind : (stringLexeme quote m rest).kind = (stringLexeme quote m' rest').kind)
    (same : (Glyph.char quote :: rest).take (stringLexeme quote m rest).length =
      (Glyph.char quote :: rest').take (stringLexeme quote m' rest').length) :
    (stringLexeme quote m rest).literal = (stringLexeme quote m' rest').literal := by
  have reaches := stringLexeme_reaches quote m rest
  have reaches' := stringLexeme_reaches quote m' rest'
  obtain ⟨a, b, b', rfl, rfl, long, long'⟩ :=
    split_of_take reaches.1 reaches.2.1 reaches'.2.1 same
  have long : (Quotation.run quote .plain [] 1 (m.past (.char quote)) (a ++ b)).length =
      1 + a.length := by
    rw [← long, stringLexeme]
    split <;> rfl
  cases finished : (Quotation.run quote .plain [] 1 (m.past (.char quote)) (a ++ b)).pieces? with
  | some pieces =>
      have finished' := Quotation.run_append long finished (m'.past (.char quote)) b'
      simp only [stringLexeme, finished, finished']
  | none =>
      simp only [stringLexeme, finished] at kind ⊢
      split at kind
      · contradiction
      · rfl

theorem regexLexeme_literal
    (kind : (regexLexeme m (g :: rest) rest).kind = (regexLexeme m' (g :: rest') rest').kind)
    (same : (g :: rest).take (regexLexeme m (g :: rest) rest).length =
      (g :: rest').take (regexLexeme m' (g :: rest') rest').length) :
    (regexLexeme m (g :: rest) rest).literal = (regexLexeme m' (g :: rest') rest').literal := by
  have reaches := regexLexeme_reaches m g rest
  have reaches' := regexLexeme_reaches m' g rest'
  obtain ⟨a, b, b', rfl, rfl, long, long'⟩ :=
    split_of_take reaches.1 reaches.2.1 reaches'.2.1 same
  have length (m : Mark) (rest : Text) : (regexLexeme m (g :: rest) rest).length =
      (RegexLiteral.body false 1 rest).length := by
    rw [regexLexeme]
    split <;> rfl
  rw [length] at long long'
  cases out : (RegexLiteral.body false 1 (a ++ b)).outcome with
  | ok =>
      simp only [regexLexeme, out] at kind ⊢
      split at kind
      · simp only [long, long', Nat.add_comm 1, List.take_succ_cons, List.take_left]
      · contradiction
      · contradiction
  | badFlags =>
      have out' := RegexLiteral.body_append long out b'
      simp only [regexLexeme, out, out', Lexeme.illegal]
  | unterminated =>
      simp only [regexLexeme, out] at kind ⊢
      split at kind
      · contradiction
      · rfl
      · rename_i out'
        rw [RegexLiteral.body_append long' out' b] at out
        contradiction

/-- What the tokens mean that mean neither what they spell nor what a string does. -/
theorem lexeme_cases (quote : (g.is '"' || g.is '\'') = false)
    (other : (lexeme divides m g rest).kind ∈ [.illegal, .eof, .privateName, .string]) :
    (lexeme divides m g rest).kind = .privateName ∧ (lexeme divides m g rest).literal =
        g :: composed ((g :: rest).take (lexeme divides m g rest).length).tail ∨
    (lexeme divides m g rest).kind = .illegal ∧
      (g.is '`' ∧ (lexeme divides m g rest).literal = Flaw.unterminatedTemplate.message ∨
        g.is '/' ∧ lexeme divides m g rest = regexLexeme m (g :: rest) rest ∨
        g.is '`' = false ∧ g.is '/' = false ∧
          (lexeme divides m g rest).literal = (Flaw.unknown g.toChar).message) := by
  simp only [lexeme, quote, Bool.false_eq_true, if_false] at other ⊢
  split_ifs at other ⊢ with tick hash name number slash
  · unfold templateLexeme at other ⊢
    dsimp only at other ⊢
    split at other
    · simp at other
    · rename_i broken
      rw [if_neg broken]
      exact .inr ⟨rfl, .inl ⟨tick, rfl⟩⟩
  · refine .inl ⟨rfl, ?_⟩
    have whole : nameAt rest = rest.take (nameAt rest).length :=
      List.prefix_iff_eq_take.1 (List.takeWhile_prefix _)
    rw [List.length_cons, List.take_succ_cons, List.tail_cons, ← whole]
  · simp only [Token.Kind.ofWord] at other
    split at other <;> simp at other
  · simp at other
  · refine .inr ⟨?_, .inr (.inl ⟨(Bool.and_eq_true_iff.1 slash).1, rfl⟩)⟩
    unfold regexLexeme at other ⊢
    dsimp only at other ⊢
    split at other
    · simp at other
    · rfl
    · rfl
  · unfold operatorLexeme at other ⊢
    split at other
    · simp at other
    · rename_i none
      have noSlash : g.is '/' = false := by
        refine Bool.eq_false_iff.2 fun divides => ?_
        obtain rfl := Trivia.eq_char_of_is divides
        have reads : Text.after? (txt Operator.slash.spelling) (.char '/' :: rest) = some rest :=
          Text.after_eq_some.2 rfl
        have missed := List.findSome?_eq_none_iff.1 none .slash (Operator.mem_all _)
        rw [reads] at missed
        contradiction
      exact .inr ⟨rfl, .inr (.inr ⟨Bool.eq_false_iff.2 tick, noSlash, rfl⟩)⟩

theorem Means.literal_eq {raw literal literal' : Text} {k : Token.Kind}
    (h : Means raw rest literal k) (h' : Means raw rest' literal' k)
    (plain : k ∉ [.illegal, .eof, .privateName, .string]) : literal = literal' := by
  cases k with
  | template =>
      have same := (List.cons.inj (h.symm.trans h')).2
      exact List.append_cancel_right same
  | operator o => exact h.1.trans h'.1.symm
  | number | regex | keyword | identifier => exact h.trans h'.symm
  | _ => simp at plain

theorem lexeme_literal
    (kind : (lexeme divides m g rest).kind = (lexeme divides' m' g rest').kind)
    (same : (g :: rest).take (lexeme divides m g rest).length =
      (g :: rest').take (lexeme divides' m' g rest').length) :
    (lexeme divides m g rest).literal = (lexeme divides' m' g rest').literal := by
  have means := lexeme_means divides m g rest
  have means' := lexeme_means divides' m' g rest'
  rw [← kind, ← same] at means'
  by_cases plain : (lexeme divides m g rest).kind ∉ [.illegal, .eof, .privateName, .string]
  · exact means.literal_eq means' plain
  cases quote : g.is '"' || g.is '\'' with
  | true =>
      obtain ⟨c, rfl⟩ : ∃ c, g = .char c := by
        cases g with
        | char c => exact ⟨c, rfl⟩
        | stray b => contradiction
      simp only [lexeme, quote, if_true] at kind same ⊢
      exact stringLexeme_literal kind same
  | false =>
      have other := not_not.1 plain
      have other' := kind ▸ other
      obtain ⟨name, literal⟩ | ⟨illegal, cases⟩ := lexeme_cases quote other
      · obtain ⟨-, literal'⟩ | ⟨illegal, -⟩ := lexeme_cases quote other'
        · rw [literal, literal', same]
        · rw [← kind, name] at illegal
          contradiction
      · obtain ⟨name, -⟩ | ⟨-, cases'⟩ := lexeme_cases quote other'
        · rw [← kind, illegal] at name
          contradiction
        obtain ⟨tick, literal⟩ | ⟨slash, regex⟩ | ⟨noTick, noSlash, literal⟩ := cases
        · obtain ⟨-, literal'⟩ | ⟨slash, -⟩ | ⟨noTick, -⟩ := cases'
          · rw [literal, literal']
          · exact absurd (Trivia.eq_char_of_is tick ▸ slash) (by decide)
          · rw [tick] at noTick
            contradiction
        · obtain ⟨tick, -⟩ | ⟨-, regex'⟩ | ⟨-, noSlash, -⟩ := cases'
          · exact absurd (Trivia.eq_char_of_is tick ▸ slash) (by decide)
          · rw [regex, regex'] at kind same ⊢
            exact regexLexeme_literal kind same
          · rw [slash] at noSlash
            contradiction
        · obtain ⟨tick, -⟩ | ⟨slash, -⟩ | ⟨-, -, literal'⟩ := cases'
          · rw [tick] at noTick
            contradiction
          · rw [slash] at noSlash
            contradiction
          · rw [literal, literal']

/-- A token that takes nothing is the end token or stands for an unfinished comment. -/
theorem next_cases (s : Scanner) :
    s.next.1.raw = [] ∧ (s.next.1.kind = .illegal → s.next.1.literal = Flaw.unterminatedComment.message) ∧
      (s.next.1.kind ≠ .illegal → s.next.1.literal = []) ∨
    ∃ divides m g rest, s.next.1.kind = (lexeme divides m g rest).kind ∧
      s.next.1.literal = (lexeme divides m g rest).literal ∧
      s.next.1.raw = (g :: rest).take (lexeme divides m g rest).length := by
  rw [next]
  generalize Trivia.skip .space false s.mark s.rest = e
  obtain ⟨newline, broken, m, rest⟩ := e
  cases broken with
  | true => exact .inl ⟨rfl, fun _ => rfl, fun legal => absurd rfl legal⟩
  | false =>
      cases rest with
      | nil => exact .inl ⟨rfl, by rintro ⟨⟩, fun _ => rfl⟩
      | cons g rest => exact .inr ⟨_, m, g, rest, rfl, rfl, rfl⟩

theorem take_lexeme (divides : Bool) (m : Mark) (g : Glyph) (rest : Text) :
    ∃ raw, (g :: rest).take (lexeme divides m g rest).length = g :: raw := by
  have pos := (lexeme_reaches divides m g rest).1
  exact ⟨_, (congrArg ((g :: rest).take ·) (Nat.succ_pred_eq_of_pos pos)).symm⟩

/-- Tokens of one kind that are written alike mean the same, whatever they are taken off. -/
theorem next_literal {s s' : Scanner} (kind : s.next.1.kind = s'.next.1.kind)
    (raw : s.next.1.raw = s'.next.1.raw) : s.next.1.literal = s'.next.1.literal := by
  obtain ⟨none, broken, finished⟩ | ⟨divides, m, g, rest, same, literal, some⟩ := s.next_cases
  · obtain ⟨-, broken', finished'⟩ | ⟨divides, m, g, rest, -, -, some⟩ := s'.next_cases
    · by_cases illegal : s.next.1.kind = .illegal
      · rw [broken illegal, broken' (kind ▸ illegal)]
      · rw [finished illegal, finished' (kind ▸ illegal)]
    · obtain ⟨raw', taken⟩ := take_lexeme divides m g rest
      rw [none, some, taken] at raw
      contradiction
  · obtain ⟨none, -, -⟩ | ⟨divides', m', g', rest', same', literal', some'⟩ := s'.next_cases
    · obtain ⟨raw', taken⟩ := take_lexeme divides m g rest
      rw [none, some, taken] at raw
      contradiction
    · rw [some, some'] at raw
      obtain ⟨w, taken⟩ := take_lexeme divides m g rest
      obtain ⟨w', taken'⟩ := take_lexeme divides' m' g' rest'
      obtain rfl : g = g' := (List.cons.inj (taken.symm.trans (raw.trans taken'))).1
      rw [literal, literal']
      exact lexeme_literal (same.symm.trans (kind.trans same')) raw

theorem exists_next_of_mem_collect {limit : Nat} {s : Scanner} {t : Token}
    (h : t ∈ collect limit s) : ∃ s' : Scanner, t = s'.next.1 := by
  induction limit generalizing s with
  | zero => contradiction
  | succ limit ih =>
      rw [collect] at h
      dsimp only at h
      split at h
      · exact ⟨s, List.mem_singleton.1 h⟩
      · exact (List.mem_cons.1 h).elim (⟨s, ·⟩) ih

end Scanner

theorem Token.literal_eq_of_raw {source source' : Text} {t t' : Token} (h : t ∈ scan source)
    (h' : t' ∈ scan source') (kind : t.kind = t'.kind) (raw : t.raw = t'.raw) :
    t.literal = t'.literal := by
  obtain ⟨s, rfl⟩ := Scanner.exists_next_of_mem_collect h
  obtain ⟨s', rfl⟩ := Scanner.exists_next_of_mem_collect h'
  exact Scanner.next_literal kind raw

end CoScript
