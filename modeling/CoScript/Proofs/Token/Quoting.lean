import CoScript.Proofs.Token.Lexeme
import CoScript.Token.StringLiteral

/-!
Scanning undoes quoting: a quoted text is read as a string that means the text, with the replacement
character for each stray byte.
-/
namespace CoScript

/-- A text with the replacement character for each stray byte. -/
def Text.replaced (t : Text) : Text :=
  .ofChars t.toChars

namespace StringLiteral

open Quotation

/-- Two hexadecimal digits that stand for a number. -/
def IsHexPair (high low : Char) (n : Nat) : Prop :=
  isHexDigit high ∧ isHexDigit low ∧ hexValue high * 16 + hexValue low = n

instance (high low : Char) (n : Nat) : Decidable (IsHexPair high low n) :=
  inferInstanceAs (Decidable (_ ∧ _ ∧ _))

/-- Two digits are enough for small numbers. -/
theorem hexadecimal_two : ∀ n < 0x80,
    Text.hexadecimal 2 n = [.char (n / 16).digitChar, .char (n % 16).digitChar] ∧
      IsHexPair (n / 16).digitChar (n % 16).digitChar n := by
  decide

/-- Two digits are read as the number. -/
theorem run_hex {quote high low : Char} {n : Nat} (h : IsHexPair high low n) (pieces : List Piece)
    (length : Nat) (m : Mark) (rest : Text) :
    ∃ m', run quote (.hex 2 0 false) pieces length m (.char high :: .char low :: rest) =
      run quote .plain (.ofValue n false :: pieces) (length + 2) m' rest := by
  obtain ⟨first, second, value⟩ := h
  have begins : hexStep 2 0 false (.char high) = .go (.hex 1 (hexValue high) false) none false := by
    simp [hexStep, Glyph.holds, Glyph.toChar, first]
  have ends : hexStep 1 (hexValue high) false (.char low) =
      .go .plain (some (.ofValue n false)) false := by
    simp [hexStep, Glyph.holds, Glyph.toChar, second, value]
  simp only [run, step, begins, ends]
  exact ⟨_, rfl⟩

/-- An escaped glyph is read as one piece. -/
theorem run_escape (g : Glyph) (pieces : List Piece) (length : Nat) (m : Mark) (rest : Text) :
    ∃ m', run '"' .plain pieces length m (escape g ++ rest) =
      run '"' .plain (.glyph (.char g.toChar) :: pieces) (length + (escape g).length) m' rest := by
  cases g with
  | stray => exact ⟨_, rfl⟩
  | char c =>
      simp only [escape, Glyph.toChar]
      split
      case h_9 quote backslash feed ret _ _ _ _ =>
          split
          · rename_i separator
            obtain rfl | rfl : c = '\u2028' ∨ c = '\u2029' := by simpa using separator
            · exact ⟨_, rfl⟩
            · exact ⟨_, rfl⟩
          split
          · rename_i control
            have small : c.toNat < 0x80 := by
              simp only [Bool.or_eq_true, decide_eq_true_eq] at control
              omega
            obtain ⟨digits, pair⟩ := hexadecimal_two c.toNat small
            have piece : Piece.ofValue c.toNat false = .glyph (.char c) := by
              rw [Piece.ofValue, if_neg (by simp; omega), Char.ofNat_toNat]
            obtain ⟨m', read⟩ := run_hex pair pieces (length + 2) ((m.past (.char '\\')).past (.char 'x')) rest
            rw [piece] at read
            rw [digits]
            exact ⟨m', read⟩
          · have plain : plainStep '"' (.char c) = .go .plain (some (.glyph (.char c))) false := by
              simp only [imp_false] at quote backslash feed ret
              simp [plainStep, Glyph.is, Glyph.holds, quote, backslash, feed, ret]
            simp only [List.cons_append, List.nil_append, run, step, plain]
            exact ⟨_, rfl⟩
      all_goals exact ⟨_, rfl⟩

/-- The characters of a quoted text are read one by one, up to the closing quote. -/
theorem run_quoted (t : Text) (pieces : List Piece) (length : Nat) (m : Mark) (rest : Text) :
    ∃ m', run '"' .plain pieces length m (t.flatMap escape ++ .char '"' :: rest) =
      ⟨some (pieces.reverse ++ t.replaced.map .glyph), length + (t.flatMap escape).length + 1, m'⟩ := by
  induction t generalizing pieces length m with
  | nil => exact ⟨m.past (.char '"'), by simp [run, step, plainStep, Glyph.is, Glyph.holds, Text.replaced, Text.toChars, Text.ofChars]⟩
  | cons g t ih =>
      obtain ⟨m', first⟩ := run_escape g pieces length m (t.flatMap escape ++ .char '"' :: rest)
      obtain ⟨m'', others⟩ := ih (.glyph (.char g.toChar) :: pieces) (length + (escape g).length) m'
      refine ⟨m'', ?_⟩
      rw [List.flatMap_cons, List.append_assoc, first, others]
      simp [Text.replaced, Text.toChars, Text.ofChars, Nat.add_assoc]

theorem denote_glyphs (t : Text) : denote (t.map .glyph) = t := by
  induction t with
  | nil => rfl
  | cons g t ih => rw [List.map_cons, denote, ih]

end StringLiteral

theorem Text.rejoin_ofChars (cs : List Char) : (ofChars cs).rejoin = ofChars cs := by
  induction cs with
  | nil => rfl
  | cons c cs ih => exact congrArg (.char c :: ·) ih

/-- A quoted text is read as a string that means it. -/
theorem Scanner.lexeme_quote (divides : Bool) (m : Mark) (t rest : Text) : ∃ stop,
    lexeme divides m (.char '"') (t.flatMap StringLiteral.escape ++ .char '"' :: rest) =
      ⟨.string, t.replaced, (StringLiteral.quote t).length, stop⟩ := by
  obtain ⟨stop, read⟩ := StringLiteral.run_quoted t [] 1 (m.past (.char '"')) rest
  refine ⟨stop, ?_⟩
  change stringLexeme '"' m _ = _
  rw [stringLexeme, read]
  simp only [List.reverse_nil, List.nil_append, StringLiteral.denote_glyphs, Text.replaced,
    Text.rejoin_ofChars, StringLiteral.quote, List.length_append, List.length_cons, List.length_nil]
  congr 1
  omega

end CoScript
