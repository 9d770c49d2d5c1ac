import Mathlib.Data.List.Chain
import Mathlib.Data.List.Forall2
import CoScript.Proofs.Token.Lexeme

/-!
Words: tokens as they are written, with the space in front of them. A text made up of words with space
in the right places is read as these words again.
-/
namespace CoScript

/-- A word of a text: a token, and the space in front of it. -/
structure Word where
  kind : Token.Kind
  text : Text
  gap : Gap := .none

namespace Word

/-- How a word is written. -/
def print (w : Word) : Text :=
  w.gap.text ++ w.text

/-- A word that is what it is said to be: a name, a number, a reserved word or an operator. Links of
optional chains and arrows are left out. -/
def Sound (w : Word) : Prop :=
  match w.kind with
  | .identifier | .number | .keyword _ => ReadsAs w.kind w.text
  | .operator o => w.text = txt o.spelling ∧ o ≠ .optionalDot ∧ o ≠ .arrow
  | _ => False

/-- A glyph that may follow a word. -/
def EndsBefore (w : Word) (g : Glyph) : Prop :=
  match w.kind with
  | .identifier | .keyword _ => g.holds isNamePart = false
  | .number => ∃ c ∈ closers, g = .char c ∧ (c = '.' → (Node.number {} w.text).takesPoint = false)
  | .operator o => o.endsBefore g
  | _ => False

/-- Whether a word starts with a slash. -/
def divides (w : Word) : Bool :=
  w.kind == .operator .slash || w.kind == .operator .slashAssign

/-- A word that may stand before another one. -/
structure Before (u v : Word) : Prop where
  ends : ∀ g ∈ v.print.head?, u.EndsBefore g
  divides : v.divides → Scanner.endsOperand u.kind

/-- A text made up of words. -/
def spell (ws : List Word) : Text :=
  ws.flatMap print

end Word

/-- A token that a word is read as. -/
structure Token.Reads (t : Token) (w : Word) : Prop where
  kind : t.kind = w.kind
  literal : t.literal = w.text
  newline : t.newlineBefore = w.gap.breaks

namespace Word

/-- A sound word is read as it is where it ends. -/
theorem Sound.lexes {w : Word} (h : w.Sound) {rest : Text} (ends : ∀ g ∈ rest.head?, w.EndsBefore g)
    {divides : Bool} (divisor : w.divides → divides) : Lexes divides w.kind w.text rest := by
  obtain ⟨kind, text, gap⟩ := w
  cases kind with
  | identifier => exact ReadsAs.lexes_name h (.inl rfl) ends divides
  | keyword word => exact ReadsAs.lexes_name h (.inr ⟨word, rfl⟩) ends divides
  | number =>
      refine ReadsAs.lexes_number h ?_ (u := {}) ?_ divides
      · intro g hg
        obtain ⟨c, hc, rfl, -⟩ := ends g hg
        exact ⟨c, hc, rfl⟩
      · by_cases point : rest.head? = some (.char '.')
        · obtain ⟨c, -, heq, free⟩ := ends _ point
          exact .inr (free (Glyph.char.inj heq).symm)
        · exact .inl point
  | operator o =>
      obtain ⟨rfl, single, -⟩ := h
      refine lexes_operator single ends fun slash => divisor ?_
      rcases slash with rfl | rfl <;> rfl
  | _ => exact h.elim

theorem Sound.kind {w : Word} (h : w.Sound) : w.kind ≠ .illegal ∧ w.kind ≠ .eof := by
  obtain ⟨kind, text, gap⟩ := w
  cases kind with
  | illegal | eof => exact h.elim
  | _ => exact ⟨by rintro ⟨⟩, by rintro ⟨⟩⟩

/-- The scanner takes the word in front. -/
theorem Sound.next {w : Word} (h : w.Sound) {s : Scanner} {rest : Text} (ahead : s.rest = w.print ++ rest)
    (ends : ∀ g ∈ rest.head?, w.EndsBefore g)
    (divisor : w.divides → s.previous.any Scanner.endsOperand) :
    s.next.1.Reads w ∧ s.next.2.rest = rest ∧ s.next.2.previous = some w.kind := by
  rw [print, List.append_assoc] at ahead
  obtain ⟨⟨kind, literal, -, newline⟩, left⟩ := (h.lexes ends divisor).next h.kind.1 w.gap ahead
  exact ⟨⟨kind, literal, newline⟩, left⟩

theorem Sound.text_ne_nil {w : Word} (h : w.Sound) : w.text ≠ [] := by
  obtain ⟨kind, text, gap⟩ := w
  cases kind with
  | identifier | keyword | number =>
      obtain ⟨g, t, _, heq, -⟩ := ReadsAs.lexeme h (by rintro ⟨⟩) (by rintro ⟨⟩)
      exact heq ▸ List.cons_ne_nil g t
  | operator o =>
      obtain ⟨rfl, -⟩ := h
      cases o <;> exact List.cons_ne_nil _ _
  | _ => exact h.elim

theorem Sound.print_ne_nil {w : Word} (h : w.Sound) : w.print ≠ [] := by
  rw [print]
  exact List.append_ne_nil_of_right_ne_nil _ h.text_ne_nil

/-- Space ends every word. -/
theorem Sound.endsBefore_gap {w : Word} (h : w.Sound) (gap : Gap) {g : Glyph}
    (hg : g ∈ gap.text.head?) : w.EndsBefore g := by
  have space : g = .char ' ' ∨ g = .char '\n' := by
    cases gap with
    | none => cases hg
    | blank => exact .inl (Option.some.inj hg).symm
    | line margin => exact .inr (Option.some.inj hg).symm
  obtain ⟨kind, text, _⟩ := w
  cases kind with
  | identifier | keyword =>
      obtain rfl | rfl := space
      · exact (rfl : isNamePart ' ' = false)
      · exact (rfl : isNamePart '\n' = false)
  | number =>
      obtain rfl | rfl := space
      · exact ⟨' ', by decide, rfl, by rintro ⟨⟩⟩
      · exact ⟨'\n', by decide, rfl, by rintro ⟨⟩⟩
  | operator o =>
      obtain rfl | rfl := space <;> exact Operator.endsBefore_of_not_mem_innerGlyphs (by decide) rfl rfl
  | _ => exact h.elim

theorem spell_cons (w : Word) (ws : List Word) : spell (w :: ws) = w.print ++ spell ws :=
  List.flatMap_cons

theorem length_le_spell {ws : List Word} (sound : ∀ w ∈ ws, w.Sound) :
    ws.length ≤ (spell ws).length := by
  induction ws with
  | nil => exact Nat.le_refl _
  | cons w ws ih =>
      obtain ⟨first, rest⟩ := List.forall_mem_cons.1 sound
      have here := List.length_pos_iff.2 first.print_ne_nil
      have more := ih rest
      rw [spell_cons, List.length_append, List.length_cons]
      omega

/-- A text made up of words, with space at its end, is read as these words. -/
theorem collect_spell {ws : List Word} (sound : ∀ w ∈ ws, w.Sound) (chain : ws.IsChain Before)
    {s : Scanner} (tail : Gap) (ahead : s.rest = spell ws ++ tail.text)
    (divisor : ∀ w ∈ ws.head?, w.divides → s.previous.any Scanner.endsOperand) {limit : Nat}
    (enough : (spell ws).length < limit) :
    ∃ (ts : List Token) (e : Token), Scanner.collect limit s = ts ++ [e] ∧
      List.Forall₂ Token.Reads ts ws ∧ e.kind = .eof := by
  induction ws generalizing s limit with
  | nil =>
      have ended := Scanner.next_end tail ahead
      cases limit with
      | zero => omega
      | succ limit =>
          refine ⟨[], s.next.1, ?_, .nil, ended⟩
          simp [Scanner.collect, ended]
  | cons w ws ih =>
      have here := sound w List.mem_cons_self
      have rest : ∀ v ∈ ws, v.Sound := fun v hv => sound v (List.mem_cons_of_mem w hv)
      have ends : ∀ g ∈ (spell ws ++ tail.text).head?, w.EndsBefore g := by
        intro g hg
        cases ws with
        | nil => exact here.endsBefore_gap tail hg
        | cons v vs =>
            have first := (List.isChain_cons_cons.1 chain).1
            rw [spell_cons, List.append_assoc,
              List.head?_append_of_ne_nil _ (rest v List.mem_cons_self).print_ne_nil] at hg
            exact first.ends g hg
      rw [spell_cons, List.append_assoc] at ahead
      rw [spell_cons, List.length_append] at enough
      obtain ⟨read, left, previous⟩ := here.next ahead ends (divisor w rfl)
      have nonempty := List.length_pos_iff.2 here.print_ne_nil
      cases limit with
      | zero => omega
      | succ limit =>
          have divisor' : ∀ v ∈ ws.head?, v.divides → s.next.2.previous.any Scanner.endsOperand := by
            intro v hv slash
            cases ws with
            | nil => cases hv
            | cons u us =>
                obtain rfl := Option.some.inj hv
                rw [previous]
                exact (List.isChain_cons_cons.1 chain).1.divides slash
          obtain ⟨ts, e, collected, reads, ended⟩ :=
            ih rest chain.tail left divisor' (show _ < limit by omega)
          refine ⟨s.next.1 :: ts, e, ?_, .cons read reads, ended⟩
          have more : s.next.1.kind ≠ .eof := read.kind ▸ here.kind.2
          simp [Scanner.collect, more, collected]

/-- The same for the whole text, if it does not start with a slash. -/
theorem scan_spell {ws : List Word} (sound : ∀ w ∈ ws, w.Sound) (chain : ws.IsChain Before)
    (first : ∀ w ∈ ws.head?, w.divides = false) (tail : Gap) :
    ∃ (ts : List Token) (e : Token), Token.scan (spell ws ++ tail.text) = ts ++ [e] ∧
      List.Forall₂ Token.Reads ts ws ∧ e.kind = .eof := by
  refine collect_spell sound chain tail rfl (fun w hw slash => ?_) ?_
  · rw [first w hw] at slash
    contradiction
  · rw [List.length_append]
    omega

/-! Which words may stand next to each other. -/

/-- Whether a word may be the first one of an expression. -/
def opens (w : Word) : Bool :=
  w.kind ∈ [.identifier, .number, .operator .parenOpen, .operator .bang, .operator .tilde,
    .operator .plus, .operator .minus, .operator .increment, .operator .decrement, .keyword .new,
    .keyword .await, .keyword .typeof, .keyword .void, .keyword .delete]

/-- Whether a word may be the last one of an expression. -/
def closes (w : Word) : Bool :=
  w.kind ∈ [.identifier, .number, .operator .parenClose, .operator .bracketClose,
    .operator .increment, .operator .decrement]

section
variable {u v : Word}

theorem opens_not_divides (h : v.opens) : v.divides = false := by
  simp only [opens, List.mem_cons, List.not_mem_nil, or_false, decide_eq_true_eq] at h
  rcases h with h | h | h | h | h | h | h | h | h | h | h | h | h | h <;> simp [divides, h]

theorem closes_endsOperand (h : u.closes) : Scanner.endsOperand u.kind := by
  simp only [closes, List.mem_cons, List.not_mem_nil, or_false, decide_eq_true_eq] at h
  rcases h with h | h | h | h | h | h <;> rw [h] <;> rfl

theorem Sound.before (h : u.Sound) (divisor : v.divides → Scanner.endsOperand u.kind)
    (ends : v.gap = .none → ∀ g ∈ v.text.head?, u.EndsBefore g) : u.Before v := by
  refine ⟨fun g hg => ?_, divisor⟩
  rw [print] at hg
  cases gap : v.gap with
  | none =>
      rw [gap] at hg
      exact ends gap g hg
  | blank =>
      rw [gap] at hg
      exact h.endsBefore_gap .blank hg
  | line margin =>
      rw [gap] at hg
      exact h.endsBefore_gap (.line margin) hg

/-- Punctuation ends what is complete, and a point does unless a number takes it. -/
theorem closes_endsBefore (h : u.closes) {c : Char} (hc : c ∈ closers)
    (point : c = '.' → u.kind = .number → (Node.number {} u.text).takesPoint = false) :
    u.EndsBefore (.char c) := by
  have apart : ∀ c ∈ closers, isNamePart c = false := forall_mem_of_all (by decide)
  obtain ⟨kind, text, gap⟩ := u
  simp only [closes, List.mem_cons, List.not_mem_nil, or_false, decide_eq_true_eq] at h
  rcases h with rfl | rfl | rfl | rfl | rfl | rfl
  · exact apart c hc
  · exact ⟨c, hc, rfl, fun dot => point dot rfl⟩
  all_goals exact Operator.endsBefore_of_alone (by decide)

/-- What is complete may stand before brackets and commas. -/
theorem Sound.before_bracket (h : u.Sound) (hu : u.closes) {o : Operator} (hv : v.kind = .operator o)
    (text : v.text = txt o.spelling)
    (ho : o ∈ [.parenOpen, .parenClose, .bracketOpen, .bracketClose, .comma]) : u.Before v := by
  refine h.before (fun _ => closes_endsOperand hu) fun _ g hg => ?_
  have closer : ∃ c ∈ closers, c ≠ '.' ∧ txt o.spelling = [.char c] := by
    simp only [List.mem_cons, List.not_mem_nil, or_false] at ho
    rcases ho with rfl | rfl | rfl | rfl | rfl <;> exact ⟨_, by decide, by decide, rfl⟩
  obtain ⟨c, hc, dot, spelled⟩ := closer
  rw [text, spelled] at hg
  obtain rfl := Option.some.inj hg
  exact closes_endsBefore hu hc fun same => absurd same dot

/-- Every word may stand before a closing parenthesis and a semicolon. -/
theorem Sound.before_closing (h : u.Sound) {o : Operator} (hv : v.kind = .operator o)
    (text : v.text = txt o.spelling) (ho : o ∈ [.parenClose, .semicolon]) : u.Before v := by
  have closer : ∃ c ∈ closers, txt o.spelling = [.char c] ∧ c ≠ '.' ∧ isNamePart c = false ∧
      ∀ p : Operator, p.endsBefore (.char c) := by
    simp only [List.mem_cons, List.not_mem_nil, or_false] at ho
    rcases ho with rfl | rfl <;>
      exact ⟨_, by decide, rfl, by decide, by decide,
        fun p => Operator.endsBefore_of_not_mem_innerGlyphs (by decide) rfl rfl⟩
  have plain : v.divides = false := by
    revert ho
    cases o <;> simp [divides, hv]
  obtain ⟨c, hc, spelled, dot, name, apart⟩ := closer
  refine h.before (fun slash => absurd (plain.symm.trans slash) Bool.false_ne_true) fun _ g hg => ?_
  rw [text, spelled] at hg
  obtain rfl := Option.some.inj hg
  obtain ⟨kind, text, gap⟩ := u
  cases kind with
  | identifier | keyword => exact name
  | number => exact ⟨c, hc, rfl, fun same => absurd same dot⟩
  | operator p => exact apart p
  | _ => exact h.elim

theorem Sound.before_point (h : u.Sound) (hu : u.closes)
    (point : u.kind = .number → (Node.number {} u.text).takesPoint = false)
    (text : v.text = txt ".") (hv : v.divides = false) : u.Before v := by
  refine h.before (fun slash => ?_) fun _ g hg => ?_
  · rw [hv] at slash
    contradiction
  · rw [text] at hg
    obtain rfl := Option.some.inj hg
    exact closes_endsBefore hu (by decide) fun _ => point

/-- Increments and decrements may follow what is no number. -/
theorem Sound.before_update (h : u.Sound) (hu : u.closes) (number : u.kind ≠ .number) {o : Operator}
    (text : v.text = txt o.spelling) (ho : o = .increment ∨ o = .decrement) : u.Before v := by
  refine h.before (fun _ => closes_endsOperand hu) fun _ g hg => ?_
  have sign : g = .char '+' ∨ g = .char '-' := by
    rw [text] at hg
    obtain rfl | rfl := ho
    · exact .inl (Option.some.inj hg).symm
    · exact .inr (Option.some.inj hg).symm
  obtain ⟨kind, _, _⟩ := u
  simp only [closes, List.mem_cons, List.not_mem_nil, or_false, decide_eq_true_eq] at hu
  rcases hu with rfl | rfl | rfl | rfl | rfl | rfl
  · obtain rfl | rfl := sign <;> rfl
  · exact absurd rfl number
  all_goals exact Operator.endsBefore_of_alone (by decide)

/-- Anything that does not divide may follow an opening bracket. -/
theorem Sound.bracket_before (h : u.Sound) {o : Operator} (hu : u.kind = .operator o)
    (ho : o = .parenOpen ∨ o = .bracketOpen) (hv : v.divides = false) : u.Before v := by
  refine h.before (fun slash => ?_) fun _ g _ => ?_
  · rw [hv] at slash
    contradiction
  · rw [EndsBefore, hu]
    obtain rfl | rfl := ho <;> exact Operator.endsBefore_of_alone (by decide)

/-- How the text of a word starts that may be the first one of an expression. -/
theorem Sound.head_of_opens (h : v.Sound) (opens : v.opens) {g : Glyph} (hg : g ∈ v.text.head?) :
    g ≠ .char '=' ∧
      (g = .char '+' → v.kind = .operator .plus ∨ v.kind = .operator .increment) ∧
      (g = .char '-' → v.kind = .operator .minus ∨ v.kind = .operator .decrement) := by
  have apart {p : Char → Bool} (held : g.holds p) (hp : ['=', '+', '-'].all (!p ·)) :
      g ≠ .char '=' ∧ g ≠ .char '+' ∧ g ≠ .char '-' := by
    simp only [List.all_cons, List.all_nil, Bool.and_true, Bool.and_eq_true, Bool.not_eq_true'] at hp
    refine ⟨?_, ?_, ?_⟩ <;> rintro rfl <;> simp_all [Glyph.holds]
  obtain ⟨kind, text, gap⟩ := v
  cases kind with
  | identifier | keyword =>
      obtain ⟨_, _, _, rfl, -, kind, -⟩ := ReadsAs.lexeme h (by rintro ⟨⟩) (by rintro ⟨⟩)
      obtain rfl := Option.some.inj hg
      have sign := apart (name_of_lexeme (by simp) kind) (by decide)
      exact ⟨sign.1, fun h => absurd h sign.2.1, fun h => absurd h sign.2.2⟩
  | number =>
      obtain ⟨_, _, _, rfl, -, kind, -⟩ := ReadsAs.lexeme h (by rintro ⟨⟩) (by rintro ⟨⟩)
      obtain rfl := Option.some.inj hg
      have sign := apart (digit_of_starts (number_of_lexeme kind)) (by decide)
      exact ⟨sign.1, fun h => absurd h sign.2.1, fun h => absurd h sign.2.2⟩
  | operator o =>
      obtain ⟨rfl, -⟩ := h
      simp only [Word.opens, List.mem_cons, List.not_mem_nil, or_false, decide_eq_true_eq,
        reduceCtorEq, false_or, Token.Kind.operator.injEq] at opens
      have signs : ∀ o ∈ [Operator.parenOpen, .bang, .tilde, .plus, .minus, .increment, .decrement],
          ∀ g ∈ (txt o.spelling).head?, g ≠ .char '=' ∧ (g = .char '+' → o = .plus ∨ o = .increment) ∧
            (g = .char '-' → o = .minus ∨ o = .decrement) := by decide
      simpa using signs o (by simpa using opens) g hg
  | _ => exact h.elim

/-- An operator in front of its operand ends unless it is a sign and the operand starts with the
same one. -/
theorem Sound.prefix_before (h : u.Sound) {o : Operator} (hu : u.kind = .operator o)
    (ho : o ∈ [.bang, .tilde, .plus, .minus, .increment, .decrement]) (hv : v.Sound) (opens : v.opens)
    (plus : o = .plus → v.gap = .none → v.kind ≠ .operator .plus ∧ v.kind ≠ .operator .increment)
    (minus : o = .minus → v.gap = .none → v.kind ≠ .operator .minus ∧ v.kind ≠ .operator .decrement) :
    u.Before v := by
  refine h.before (fun slash => ?_) fun gap g hg => ?_
  · rw [opens_not_divides opens] at slash
    contradiction
  · obtain ⟨equals, plusSign, minusSign⟩ := hv.head_of_opens opens hg
    rw [EndsBefore, hu]
    simp only [List.mem_cons, List.not_mem_nil, or_false] at ho
    rcases ho with rfl | rfl | rfl | rfl | rfl | rfl
    · exact Operator.endsBefore_bang equals
    · exact Operator.endsBefore_of_alone (by decide)
    · have apart := plus rfl gap
      exact Operator.endsBefore_plus equals fun sign => (plusSign sign).elim apart.1 apart.2
    · have apart := minus rfl gap
      exact Operator.endsBefore_minus equals fun sign => (minusSign sign).elim apart.1 apart.2
    · exact Operator.endsBefore_of_alone (by decide)
    · exact Operator.endsBefore_of_alone (by decide)

/-- A name may follow a point. -/
theorem Sound.point_before (h : u.Sound) (hu : u.kind = .operator .dot) (hv : v.Sound)
    (name : v.kind = .identifier) : u.Before v := by
  refine h.before (fun slash => ?_) fun _ g hg => ?_
  · simp [divides, name] at slash
  · rw [EndsBefore, hu]
    rw [Sound, name] at hv
    obtain ⟨_, _, text, named⟩ := hv.start_name (.inl rfl)
    rw [text] at hg
    obtain rfl := Option.some.inj hg
    exact Operator.endsBefore_dot_of_name named

end

end Word

end CoScript
