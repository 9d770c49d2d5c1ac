import Mathlib.Data.List.TakeWhile
import CoScript.Proofs.Token.Numeral
import CoScript.Token.Scanner

/-!
Lexemes: texts that are read as one token, and what may follow them.
-/
namespace CoScript

/-! Trivia. -/

namespace Trivia

/-- Whether trivia starts with a glyph that is followed by another one. -/
def starts (g : Glyph) (next : Option Glyph) : Bool :=
  g.is '\n' || g.is '\r' || (g.is ' ' || g.is '\t' || g.is '\x0b' || g.is '\x0c') ||
    g.holds isWideSpace || pair g next '/' '/' || pair g next '/' '*'

attribute [local simp] skip

theorem skip_of_not_starts {g : Glyph} {rest : Text} (newline : Bool) (m : Mark)
    (h : starts g rest.head? = false) :
    skip .space newline m (g :: rest) = ⟨newline, false, m, g :: rest⟩ := by
  simp only [starts, Bool.or_eq_false_iff] at h
  simp [h]

theorem skip_suffix (inside : Inside) (newline : Bool) (m : Mark) (t : Text) :
    (skip inside newline m t).rest <:+ t := by
  fun_induction skip inside newline m t with
  | case1 => exact List.suffix_rfl
  | case7 | case9 | case13 => exact List.suffix_rfl
  | _ =>
      rename_i ih
      exact ih.trans (List.suffix_cons _ _)

/-- Trivia starts where something is skipped. -/
theorem not_starts_of_skip {g : Glyph} {rest : Text} {newline : Bool} {m : Mark}
    (h : (skip .space newline m (g :: rest)).rest = g :: rest) : starts g rest.head? = false := by
  have stays {inside : Inside} {newline : Bool} {m : Mark} :
      (skip inside newline m rest).rest ≠ g :: rest := by
    intro same
    have shorter := (skip_suffix inside newline m rest).length_le
    rw [same, List.length_cons] at shorter
    omega
  simp only [skip] at h
  split at h
  · exact absurd h stays
  split at h
  · exact absurd h stays
  split at h
  · exact absurd h stays
  split at h
  · exact absurd h stays
  split at h
  · exact absurd h stays
  · simp_all [starts]

/-- Only a slash may open a comment together with what follows. -/
theorem starts_congr {g : Glyph} {next : Option Glyph} (slash : g.is '/' = false)
    (h : starts g next = false) (next' : Option Glyph) : starts g next' = false := by
  simpa [starts, pair, slash] using h

end Trivia

namespace Operator

/-- Whether an operator ends where a glyph follows: the glyph does not make it longer, does not make a
comment of it and does not make a number of it. -/
def endsBefore (o : Operator) (g : Glyph) : Bool :=
  all.all (fun longer => !(txt longer.spelling).startsWith (txt o.spelling ++ [g])) &&
    !(o == .slash && (g.is '/' || g.is '*')) && !(o == .dot && g.holds Char.isDigit)

end Operator

namespace Text

theorem after_eq_some {start t rest : Text} : after? start t = some rest ↔ t = start ++ rest := by
  induction start generalizing t with
  | nil => simp [after?, eq_comm]
  | cons a start ih =>
      cases t with
      | nil => simp [after?]
      | cons b t =>
          simp only [after?, List.cons_append, List.cons.injEq]
          split
          · simp_all
          · simp_all [eq_comm]

theorem startsWith_iff {t start : Text} : t.startsWith start ↔ start <+: t := by
  simp only [startsWith, Option.isSome_iff_exists, after_eq_some]
  exact ⟨fun ⟨rest, h⟩ => ⟨rest, h.symm⟩, fun ⟨rest, h⟩ => ⟨rest, h.symm⟩⟩

end Text

namespace Operator

theorem mem_all (o : Operator) : o ∈ all := by
  cases o <;> exact List.contains_iff_mem.1 rfl

/-- The glyphs that make an operator longer. -/
def continuations (o : Operator) : Text :=
  all.filterMap fun longer => (Text.after? (txt o.spelling) (txt longer.spelling)).bind List.head?

/-- The glyphs that some operator has behind its first one. -/
def innerGlyphs : Text := txt "=+-*<>&|?."

theorem mem_innerGlyphs {o : Operator} {g : Glyph} (h : g ∈ o.continuations) : g ∈ innerGlyphs := by
  have known : ∀ longer ∈ all, ∀ g ∈ (txt longer.spelling).tail, g ∈ innerGlyphs := by decide
  obtain ⟨longer, -, next⟩ := List.mem_filterMap.1 h
  obtain ⟨rest, left, head⟩ := Option.bind_eq_some_iff.1 next
  have spelled := Text.after_eq_some.1 left
  refine known longer (mem_all longer) g ?_
  obtain ⟨rest, rfl⟩ := List.head?_eq_some_iff.1 head
  have first : txt o.spelling ≠ [] := by cases o <;> exact List.cons_ne_nil _ _
  rw [spelled, List.tail_append_of_ne_nil first]
  exact List.mem_append_right _ List.mem_cons_self

section
variable {o : Operator} {g : Glyph}

theorem endsBefore_of (apart : g ∉ o.continuations)
    (comment : o = .slash → g.is '/' = false ∧ g.is '*' = false)
    (number : o = .dot → g.holds Char.isDigit = false) : o.endsBefore g := by
  simp only [endsBefore, Bool.and_eq_true, List.all_eq_true, Bool.not_eq_true', Bool.and_eq_false_iff,
    Bool.or_eq_false_iff, beq_eq_false_iff_ne]
  refine ⟨⟨fun longer mem => Bool.eq_false_iff.2 fun starts => ?_, ?_⟩, ?_⟩
  · obtain ⟨rest, spelled⟩ := Text.startsWith_iff.1 starts
    rw [List.append_assoc] at spelled
    refine apart (List.mem_filterMap.2 ⟨longer, mem, ?_⟩)
    rw [Text.after_eq_some.2 spelled.symm]
    rfl
  · exact (em (o = .slash)).symm.imp_right comment
  · exact (em (o = .dot)).symm.imp_right number

/-- Operators that nothing makes longer. -/
def alone : List Operator :=
  [.parenOpen, .parenClose, .bracketOpen, .bracketClose, .braceOpen, .braceClose, .comma, .semicolon,
    .colon, .tilde, .increment, .decrement]

theorem endsBefore_of_alone (h : o ∈ alone) : o.endsBefore g := by
  have longest : ∀ o ∈ alone, o.continuations = [] ∧ o ≠ .slash ∧ o ≠ .dot := by decide
  obtain ⟨none, slash, dot⟩ := longest o h
  exact endsBefore_of (none ▸ List.not_mem_nil) (absurd · slash) (absurd · dot)

/-- Every operator ends before a glyph that is in none of them but in front, unless a comment or a number
starts there. -/
theorem endsBefore_of_not_mem_innerGlyphs (h : g ∉ innerGlyphs) (comment : g.is '/' = false)
    (number : g.holds Char.isDigit = false) : o.endsBefore g := by
  have star : g.is '*' = false := by
    cases g with
    | char c =>
        refine beq_false_of_ne ?_
        rintro rfl
        exact h (by decide)
    | stray b => rfl
  exact endsBefore_of (fun longer => h (mem_innerGlyphs longer)) (fun _ => ⟨comment, star⟩) fun _ => number

section
variable (equals : g ≠ .char '=')
include equals

theorem endsBefore_bang : bang.endsBefore g :=
  endsBefore_of (o := .bang) (by rw [show bang.continuations = txt "==" from rfl]; simpa [txt]) nofun nofun

theorem endsBefore_plus (sign : g ≠ .char '+') : plus.endsBefore g :=
  endsBefore_of (o := .plus)
    (by rw [show plus.continuations = txt "+=" from rfl]; simpa [txt] using ⟨sign, equals⟩) nofun nofun

theorem endsBefore_minus (sign : g ≠ .char '-') : minus.endsBefore g :=
  endsBefore_of (o := .minus)
    (by rw [show minus.continuations = txt "-=" from rfl]; simpa [txt] using ⟨sign, equals⟩) nofun nofun

end

theorem endsBefore_dot (point : g ≠ .char '.') (digit : g.holds Char.isDigit = false) :
    dot.endsBefore g :=
  endsBefore_of (o := .dot) (by rw [show dot.continuations = txt "." from rfl]; simpa [txt]) nofun
    fun _ => digit

end

/-- An operator comes before those that it starts with. -/
theorem all_longest : all.Pairwise fun a b => ¬ (txt b.spelling).startsWith (txt a.spelling) := by
  decide

/-- An operator is read as it is written if it ends there. -/
theorem leading_append {o : Operator} {rest : Text} (single : o ≠ .optionalDot)
    (h : ∀ g ∈ rest.head?, o.endsBefore g) : leading? (txt o.spelling ++ rest) = some (o, rest) := by
  obtain ⟨before, after, split⟩ := List.append_of_mem (mem_all o)
  refine List.findSome?_eq_some_iff.2 ⟨before, o, after, split, ?_, ?_⟩
  · have here : Text.after? (txt o.spelling) (txt o.spelling ++ rest) = some rest :=
      Text.after_eq_some.2 rfl
    simp [here, single]
  · intro longer mem
    have apart : ¬ (txt o.spelling).startsWith (txt longer.spelling) := by
      have ordered := all_longest
      rw [split, List.pairwise_append] at ordered
      exact ordered.2.2 longer mem o (List.mem_cons_self)
    have none : Text.after? (txt longer.spelling) (txt o.spelling ++ rest) = none := by
      cases found : Text.after? (txt longer.spelling) (txt o.spelling ++ rest) with
      | none => rfl
      | some left =>
          obtain ⟨more, longerEq, restEq⟩ | ⟨more, shorterEq, -⟩ :=
            List.append_eq_append_iff.1 (Text.after_eq_some.1 found)
          · cases more with
            | nil =>
                refine absurd (Text.startsWith_iff.2 ?_) apart
                simp only [longerEq, List.append_nil, List.prefix_rfl]
            | cons g more =>
                have ends := h g (by simp [restEq])
                simp only [endsBefore, Bool.and_eq_true, List.all_eq_true] at ends
                have shorter := ends.1.1 longer (mem_all longer)
                rw [longerEq, Bool.not_eq_true', ← Bool.not_eq_true, Text.startsWith_iff] at shorter
                exact absurd ⟨more, by simp⟩ shorter
          · exact absurd (Text.startsWith_iff.2 ⟨more, shorterEq.symm⟩) apart
    simp [none]

end Operator

/-! Texts that are read as one token. -/

/-- A text that is read as a single token, which means how it is written. -/
def ReadsAs (k : Token.Kind) (w : Text) : Prop :=
  ∃ t e, Token.scan w = [t, e] ∧ t.kind = k ∧ t.literal = w ∧ t.raw = w

attribute [local simp] Token.scan Scanner.collect

/-- What is known of a text that is read as a single token: no trivia is in front, and the token takes
all of it. -/
theorem ReadsAs.lexeme {k : Token.Kind} {w : Text} (h : ReadsAs k w) (legal : k ≠ .illegal)
    (more : k ≠ .eof) : ∃ g w' m, w = g :: w' ∧ Trivia.starts g w'.head? = false ∧
      (Scanner.lexeme false m g w').kind = k ∧ (Scanner.lexeme false m g w').literal = w ∧
      w.length ≤ (Scanner.lexeme false m g w').length := by
  obtain ⟨t, e, scanned, kind, literal, raw⟩ := h
  have first : (Scanner.next { rest := w }).1 = t := by
    simp only [Token.scan, Scanner.collect] at scanned
    split at scanned
    · simp at scanned
    · exact (List.cons.inj scanned).1
  have suffix := Trivia.skip_suffix .space false {} w
  subst first
  simp only [Scanner.next] at kind literal raw
  split at kind
  · exact absurd kind.symm legal
  · rename_i closed
    simp only [closed, Bool.false_eq_true, if_false] at literal raw
    cases ahead : (Trivia.skip .space false {} w).rest with
    | nil =>
        rw [ahead] at kind
        exact absurd kind.symm more
    | cons g w' =>
        rw [ahead] at kind literal raw suffix
        simp only [Option.any_none] at kind literal raw
        have long := congrArg List.length raw
        rw [List.length_take] at long
        obtain rfl := suffix.eq_of_length_le (by omega)
        exact ⟨g, w', _, rfl, Trivia.not_starts_of_skip ahead, kind, literal, by omega⟩

/-- A text that is read as a token of a kind where another text follows it. -/
def Lexes (divides : Bool) (k : Token.Kind) (w rest : Text) : Prop :=
  ∃ g w', w = g :: w' ∧ Trivia.starts g (w' ++ rest).head? = false ∧
    ∀ m, ∃ stop, Scanner.lexeme divides m g (w' ++ rest) = ⟨k, w, w.length, stop⟩

/-- Space in front of a token: none, a blank, or a line break and a margin. -/
inductive Gap where
  | none | blank
  | line (margin : Nat)
  deriving DecidableEq, Repr

namespace Gap

/-- How space is written. -/
def text : Gap → Text
  | none => []
  | blank => [.char ' ']
  | line margin => .char '\n' :: List.replicate margin (.char ' ')

/-- Whether there is a line break. -/
def breaks : Gap → Bool
  | line _ => true
  | _ => false

section
variable {t : Text} (h : ∀ newline m, Trivia.skip .space newline m t = ⟨newline, false, m, t⟩)
include h

theorem skip_margin (margin : Nat) (newline : Bool) (m : Mark) :
    ∃ m', Trivia.skip .space newline m (List.replicate margin (Glyph.char ' ') ++ t) =
      ⟨newline, false, m', t⟩ := by
  induction margin generalizing m with
  | zero => exact ⟨m, h newline m⟩
  | succ margin ih => exact ih _

theorem skip_append (gap : Gap) (m : Mark) :
    ∃ m', Trivia.skip .space false m (gap.text ++ t) = ⟨gap.breaks, false, m', t⟩ := by
  cases gap with
  | none => exact ⟨_, h _ _⟩
  | blank => exact ⟨_, h _ _⟩
  | line margin => exact skip_margin h margin true _

end

end Gap

/-- The scanner takes such a text, and the space in front of it. -/
theorem Lexes.next {s : Scanner} {k : Token.Kind} {w rest : Text}
    (h : Lexes (s.previous.any Scanner.endsOperand) k w rest) (legal : k ≠ .illegal) (gap : Gap)
    (ahead : s.rest = gap.text ++ (w ++ rest)) :
    (s.next.1.kind = k ∧ s.next.1.literal = w ∧ s.next.1.raw = w ∧
      s.next.1.newlineBefore = gap.breaks) ∧
      s.next.2.rest = rest ∧ s.next.2.previous = some k := by
  obtain ⟨g, t, rfl, starts, lexeme⟩ := h
  obtain ⟨m, skipped⟩ := Gap.skip_append
    (fun newline m => Trivia.skip_of_not_starts (g := g) newline m starts) gap s.mark
  rw [← List.cons_append, ← ahead] at skipped
  obtain ⟨stop, read⟩ := lexeme m
  simp only [Scanner.next, skipped, List.cons_append, read, Bool.false_eq_true, if_false, if_neg legal]
  rw [← List.cons_append, List.drop_left, List.take_left]
  simp

/-- Space alone ends the input. -/
theorem Scanner.next_end {s : Scanner} (gap : Gap) (h : s.rest = gap.text) :
    s.next.1.kind = .eof := by
  obtain ⟨m, skipped⟩ := Gap.skip_append (t := []) (fun newline m => rfl) gap s.mark
  rw [List.append_nil, ← h] at skipped
  rw [next, skipped]
  rfl

theorem ReadsAs.of_lexes {k : Token.Kind} {w : Text} (h : Lexes false k w []) (legal : k ≠ .illegal)
    (more : k ≠ .eof) : ReadsAs k w := by
  obtain ⟨⟨kind, literal, raw, -⟩, left, -⟩ :=
    h.next (s := { rest := w }) legal .none (by simp [Gap.text])
  have ended := Scanner.next_end .none left
  obtain ⟨g, t, rfl, -⟩ := h
  refine ⟨_, (Scanner.next { rest := g :: t }).2.next.1, ?_, kind, literal, raw⟩
  simp [ended, kind, more]

theorem Glyph.is_eq_false {g : Glyph} {p : Char → Bool} (hg : g.holds p) {c : Char}
    (hc : p c = false) : g.is c = false := by
  cases g with
  | char d =>
      refine beq_false_of_ne ?_
      rintro rfl
      exact absurd hg (by simp [Glyph.holds, hc])
  | stray b => rfl

/-- Whether a glyph opens a quotation or a private name. -/
def Glyph.opensQuote (g : Glyph) : Bool :=
  g.is '"' || g.is '\'' || g.is '`' || g.is '#'

theorem Glyph.opensQuote_eq_false {g : Glyph} {p : Char → Bool} (hg : g.holds p)
    (hp : ['"', '\'', '`', '#'].all (!p ·)) : g.opensQuote = false := by
  simp only [List.all_cons, List.all_nil, Bool.and_true, Bool.and_eq_true, Bool.not_eq_true'] at hp
  simp [opensQuote, is_eq_false hg hp.1, is_eq_false hg hp.2.1, is_eq_false hg hp.2.2.1,
    is_eq_false hg hp.2.2.2]

/-- A letter is between two bounds or one of two signs. -/
theorem isPlainLetter_iff {c : Char} : isPlainLetter c ↔
    ((65 ≤ c.toNat ∧ c.toNat ≤ 90) ∨ (97 ≤ c.toNat ∧ c.toNat ≤ 122)) ∨ c = '_' ∨ c = '$' := by
  have alpha : c.isAlpha =
      (decide (65 ≤ c.val ∧ c.val ≤ 90) || decide (97 ≤ c.val) && decide (c.val ≤ 122)) := rfl
  simp only [isPlainLetter, alpha, Bool.or_eq_true, Bool.and_eq_true, decide_eq_true_eq, beq_iff_eq,
    UInt32.le_iff_toNat_le, or_assoc]
  rfl

theorem isNameStart_of_isDigit {c : Char} (h : c.isDigit) : isNameStart c = false := by
  simp only [Char.isDigit, Bool.and_eq_true, decide_eq_true_eq, UInt32.le_iff_toNat_le,
    ge_iff_le] at h
  have range : 48 ≤ c.toNat ∧ c.toNat ≤ 57 := h
  rw [isNameStart, if_pos (by omega)]
  refine Bool.eq_false_iff.2 fun letter => ?_
  obtain bounds | rfl | rfl := isPlainLetter_iff.1 letter
  · omega
  · exact absurd range (by decide)
  · exact absurd range (by decide)

section
variable {divides : Bool} {m : Mark} {g : Glyph} {rest : Text}

theorem lexeme_of_not_opensQuote (h : g.opensQuote = false) :
    Scanner.lexeme divides m g rest =
      if g.holds isNameStart then
        let raw := Scanner.nameAt (g :: rest)
        ⟨.ofWord (Scanner.composed raw), Scanner.composed raw, raw.length, m.pastAllWhole raw⟩
      else if Numeral.starts (g :: rest) then
        let raw := (g :: rest).take (Numeral.length (g :: rest))
        ⟨.number, raw, raw.length, m.pastAll raw⟩
      else if g.is '/' && !divides then Scanner.regexLexeme m (g :: rest) rest
      else Scanner.operatorLexeme m g rest := by
  simp only [Glyph.opensQuote, Bool.or_eq_false_iff] at h
  simp [Scanner.lexeme, h]

theorem lexeme_name (h : g.holds isNameStart) :
    Scanner.lexeme divides m g rest =
      let raw := Scanner.nameAt (g :: rest)
      ⟨.ofWord (Scanner.composed raw), Scanner.composed raw, raw.length, m.pastAllWhole raw⟩ := by
  rw [lexeme_of_not_opensQuote (Glyph.opensQuote_eq_false h (by decide)), if_pos h]

theorem digit_of_starts (h : Numeral.starts (g :: rest)) : g.holds fun c => c.isDigit || c == '.' := by
  cases g with
  | char c =>
      simp only [Numeral.starts, Glyph.holds, Glyph.is, Bool.or_eq_true, Bool.and_eq_true] at h ⊢
      exact h.imp_right And.left
  | stray b => exact h

theorem lexeme_number (h : Numeral.starts (g :: rest)) :
    Scanner.lexeme divides m g rest =
      let raw := (g :: rest).take (Numeral.length (g :: rest))
      ⟨.number, raw, raw.length, m.pastAll raw⟩ := by
  have digit := digit_of_starts h
  have noName : g.holds isNameStart = false := by
    cases g with
    | char c =>
        obtain digit | point := Bool.or_eq_true_iff.1 digit
        · exact isNameStart_of_isDigit digit
        · obtain rfl := eq_of_beq point
          decide
    | stray b => rfl
  rw [lexeme_of_not_opensQuote (Glyph.opensQuote_eq_false digit (by decide)), if_neg (by simp [noName]),
    if_pos h]

/-- What is neither a name nor a number is of another kind. -/
theorem lexeme_other (name : g.holds isNameStart = false) (number : Numeral.starts (g :: rest) = false)
    {k : Token.Kind} (h : (Scanner.lexeme divides m g rest).kind = k) :
    k ∈ [.illegal, .string, .template, .privateName, .regex] ∨ ∃ o, k = .operator o := by
  subst h
  simp only [Scanner.lexeme, name, number, Bool.false_eq_true, if_false]
  split
  · rw [Scanner.stringLexeme]
    split <;> simp [Scanner.Lexeme.illegal]
  split
  · rw [Scanner.templateLexeme]
    split <;> simp [Scanner.Lexeme.illegal]
  split
  · simp
  split
  · rw [Scanner.regexLexeme]
    split <;> simp [Scanner.Lexeme.illegal]
  · rw [Scanner.operatorLexeme]
    split <;> simp [Scanner.Lexeme.illegal]

/-- Only names are read as identifiers and reserved words. -/
theorem name_of_lexeme {k : Token.Kind} (hk : k = .identifier ∨ ∃ word, k = .keyword word)
    (h : (Scanner.lexeme divides m g rest).kind = k) : g.holds isNameStart := by
  cases name : g.holds isNameStart with
  | true => rfl
  | false =>
      cases number : Numeral.starts (g :: rest) with
      | true =>
          rw [lexeme_number number] at h
          obtain rfl | ⟨word, rfl⟩ := hk <;> cases h
      | false => obtain rfl | ⟨word, rfl⟩ := hk <;> simpa using lexeme_other name number h

theorem number_of_lexeme (h : (Scanner.lexeme divides m g rest).kind = .number) :
    Numeral.starts (g :: rest) := by
  cases number : Numeral.starts (g :: rest) with
  | true => rfl
  | false =>
      cases name : g.holds isNameStart with
      | true =>
          simp only [lexeme_name name, Token.Kind.ofWord] at h
          split at h <;> cases h
      | false => simpa using lexeme_other name number h

end

/-- A name may follow a point. -/
theorem Operator.endsBefore_dot_of_name {g : Glyph} (name : g.holds isNameStart) : dot.endsBefore g := by
  refine endsBefore_dot ?_ (Bool.eq_false_iff.2 fun digit => ?_)
  · rintro rfl
    exact absurd name (by decide)
  · cases g with
    | char c =>
        have name : isNameStart c := name
        rw [isNameStart_of_isDigit digit] at name
        contradiction
    | stray b => contradiction

/-- Names and reserved words start like names. -/
theorem ReadsAs.start_name {k : Token.Kind} {w : Text} (h : ReadsAs k w)
    (hk : k = .identifier ∨ ∃ word, k = .keyword word) : ∃ g w', w = g :: w' ∧ g.holds isNameStart := by
  have legal : k ≠ .illegal ∧ k ≠ .eof := by
    obtain rfl | ⟨word, rfl⟩ := hk <;> exact ⟨by rintro ⟨⟩, by rintro ⟨⟩⟩
  obtain ⟨g, w', _, text, -, kind, -⟩ := h.lexeme legal.1 legal.2
  exact ⟨g, w', text, name_of_lexeme hk kind⟩

theorem nameAt_append {w rest : Text} (h : Scanner.nameAt w = w)
    (ends : ∀ g ∈ rest.head?, g.holds isNamePart = false) : Scanner.nameAt (w ++ rest) = w := by
  have parts : ∀ g ∈ w, g.holds isNamePart := List.takeWhile_eq_self_iff.1 h
  have stops : rest.takeWhile (·.holds isNamePart) = [] := by
    cases rest with
    | nil => rfl
    | cons g rest => simp [ends g rfl]
  rw [Scanner.nameAt, List.takeWhile_append_of_pos parts, stops, List.append_nil]

/-- Names and reserved words end where no name goes on. -/
theorem ReadsAs.lexes_name {k : Token.Kind} {w rest : Text} (h : ReadsAs k w)
    (hk : k = .identifier ∨ ∃ word, k = .keyword word)
    (ends : ∀ g ∈ rest.head?, g.holds isNamePart = false) (divides : Bool) :
    Lexes divides k w rest := by
  have legal : k ≠ .illegal ∧ k ≠ .eof := by
    obtain rfl | ⟨word, rfl⟩ := hk <;> exact ⟨by rintro ⟨⟩, by rintro ⟨⟩⟩
  obtain ⟨g, w', m, rfl, starts, kind, literal, long⟩ := h.lexeme legal.1 legal.2
  have named := name_of_lexeme hk kind
  simp only [lexeme_name named] at kind literal long
  have whole : Scanner.nameAt (g :: w') = g :: w' :=
    (List.takeWhile_prefix _).eq_of_length_le long
  rw [whole] at kind literal
  rw [literal] at kind
  refine ⟨g, w', rfl, Trivia.starts_congr (Glyph.is_eq_false named (by decide)) starts _, ?_⟩
  intro m
  have word := nameAt_append whole ends
  rw [List.cons_append] at word
  simp only [lexeme_name named, word, kind, literal]
  exact ⟨_, rfl⟩

/-- Numbers end at punctuation, and at a point unless they take it. -/
theorem ReadsAs.lexes_number {w rest : Text} (h : ReadsAs .number w) (closes : Closes rest)
    {u : Token} (point : rest.head? ≠ some (.char '.') ∨ (Node.number u w).takesPoint = false)
    (divides : Bool) : Lexes divides .number w rest := by
  obtain ⟨g, w', m, rfl, starts, kind, literal, long⟩ := h.lexeme (by rintro ⟨⟩) (by rintro ⟨⟩)
  have number := number_of_lexeme kind
  have slash : g.is '/' = false := Glyph.is_eq_false (digit_of_starts number) (by decide)
  simp only [lexeme_number number] at literal
  have whole : Numeral.length (g :: w') = (g :: w').length := by
    refine Nat.le_antisymm (Numeral.length_le _) ?_
    have long := congrArg List.length literal
    rw [List.length_take] at long
    omega
  have length := (Numeral.length_append closes (List.cons_ne_nil g w') point).trans whole
  have starts' := (Numeral.starts_append closes (g :: w') (List.cons_ne_nil g w')).trans number
  rw [List.cons_append] at length starts'
  refine ⟨g, w', rfl, Trivia.starts_congr slash starts _, fun m => ?_⟩
  rw [lexeme_number starts', length, ← List.cons_append, List.take_left]
  exact ⟨_, rfl⟩

/-- An operator starts like no name, no number, no quotation and no trivia, unless it is a point or a
slash. -/
theorem Operator.spelling_start {o : Operator} (point : o ≠ .dot) (slash : o ≠ .slash) :
    ∃ g t, txt o.spelling = g :: t ∧ g.opensQuote = false ∧ g.holds isNameStart = false ∧
      (g.is '/' = true → o = .slashAssign) ∧ ∀ rest : Text,
        Trivia.starts g (t ++ rest).head? = false ∧ Numeral.starts (g :: (t ++ rest)) = false := by
  cases o with
  | dot => exact absurd rfl point
  | slash => exact absurd rfl slash
  | _ => exact ⟨_, _, rfl, rfl, rfl, by decide, fun rest => ⟨rfl, rfl⟩⟩

/-- Operators end where nothing makes them longer. A slash has to follow an operand. -/
theorem lexes_operator {o : Operator} {rest : Text} (single : o ≠ .optionalDot)
    (ends : ∀ g ∈ rest.head?, o.endsBefore g) {divides : Bool}
    (divisor : o = .slash ∨ o = .slashAssign → divides = true) :
    Lexes divides (.operator o) (txt o.spelling) rest := by
  have leads := Operator.leading_append single ends
  have lexeme {g : Glyph} {w : Text} (spelled : txt o.spelling = g :: w) (quote : g.opensQuote = false)
      (name : g.holds isNameStart = false) (number : Numeral.starts (g :: (w ++ rest)) = false)
      (divided : (g.is '/' && !divides) = false) (m : Mark) : ∃ stop,
      Scanner.lexeme divides m g (w ++ rest) =
        ⟨.operator o, txt o.spelling, (txt o.spelling).length, stop⟩ := by
    rw [lexeme_of_not_opensQuote quote, if_neg (by simp [name]), if_neg (by simp [number]),
      if_neg (by simp [divided]), Scanner.operatorLexeme, ← List.cons_append, ← spelled, leads]
    exact ⟨_, rfl⟩
  by_cases point : o = .dot
  · subst point
    refine ⟨.char '.', [], rfl, rfl, lexeme rfl rfl rfl ?_ rfl⟩
    cases rest with
    | nil => rfl
    | cons g rest =>
        have digit := ends g rfl
        simp only [Operator.endsBefore, Bool.and_eq_true] at digit
        simpa [Numeral.starts, Glyph.holds, Glyph.is] using digit.2
  by_cases slash : o = .slash
  · subst slash
    have divided : divides = true := divisor (.inl rfl)
    refine ⟨.char '/', [], rfl, ?_, lexeme rfl rfl rfl rfl (by simp [divided])⟩
    cases rest with
    | nil => rfl
    | cons g rest =>
        have comment := ends g rfl
        simp only [Operator.endsBefore, Bool.and_eq_true] at comment
        have apart := comment.1.2
        simp only [beq_self_eq_true, Bool.true_and, Bool.not_eq_true', Bool.or_eq_false_iff] at apart
        change (g.is '/' || g.is '*') = false
        simp [apart]
  · obtain ⟨g, t, spelled, quote, name, divide, free⟩ := Operator.spelling_start point slash
    refine ⟨g, t, spelled, (free rest).1, lexeme spelled quote name (free rest).2 ?_⟩
    cases opens : g.is '/' with
    | false => rfl
    | true => simp [divisor (.inr (divide opens))]

theorem isPlainLetter_lt {c : Char} (h : isPlainLetter c) : c.toNat < 0x80 := by
  obtain bounds | rfl | rfl := isPlainLetter_iff.1 h
  · omega
  · decide
  · decide

/-- Words of plain letters and digits are read as they are. -/
theorem readsAs_word {c : Char} {cs : List Char} (start : isPlainLetter c)
    (parts : ∀ d ∈ cs, isPlainLetter d ∨ d.isDigit) :
    ReadsAs (.ofWord (.ofChars (c :: cs))) (.ofChars (c :: cs)) := by
  have ascii : ∀ d ∈ c :: cs, d.toNat < 0x80 := by
    refine List.forall_mem_cons.2 ⟨isPlainLetter_lt start, fun d hd => ?_⟩
    obtain letter | digit := parts d hd
    · exact isPlainLetter_lt letter
    · simp only [Char.isDigit, Bool.and_eq_true, decide_eq_true_eq, UInt32.le_iff_toNat_le] at digit
      exact Nat.lt_of_le_of_lt (m := 57) digit.2 (by decide)
  have named : (Glyph.char c).holds isNameStart := by
    rw [Glyph.holds, isNameStart, if_pos (isPlainLetter_lt start)]
    exact start
  have whole : Scanner.nameAt (.ofChars (c :: cs)) = .ofChars (c :: cs) := by
    refine List.takeWhile_eq_self_iff.2 fun g hg => ?_
    obtain ⟨d, hd, rfl⟩ := List.mem_map.1 hg
    rw [Glyph.holds, isNamePart, if_pos (ascii d hd), Bool.or_eq_true]
    obtain rfl | hd := List.mem_cons.1 hd
    · exact .inl start
    · exact parts d hd
  have composed : Scanner.composed (.ofChars (c :: cs)) = .ofChars (c :: cs) := by
    have chars : (Text.ofChars (c :: cs)).toChars = c :: cs := by
      simp [Text.ofChars, Text.toChars, Function.comp_def, Glyph.toChar]
    rw [Scanner.composed, chars, Canonical.compose, if_pos]
    simpa using ascii
  have begins : Trivia.starts (.char c) (Text.ofChars cs).head? = false := by
    have apart {d : Char} (hd : isPlainLetter d = false) : (Glyph.char c).is d = false :=
      Glyph.is_eq_false (g := .char c) (p := isPlainLetter) start hd
    have narrow : isWideSpace c = false := by
      rw [isWideSpace, decide_eq_false (Nat.not_le.2 (isPlainLetter_lt start)), Bool.false_and]
    simp [Trivia.starts, Trivia.pair, Glyph.holds, narrow, apart (d := '\n') (by decide),
      apart (d := '\r') (by decide), apart (d := ' ') (by decide), apart (d := '\t') (by decide),
      apart (d := '\x0b') (by decide), apart (d := '\x0c') (by decide), apart (d := '/') (by decide)]
  have legal : Token.Kind.ofWord (.ofChars (c :: cs)) ≠ .illegal ∧
      Token.Kind.ofWord (.ofChars (c :: cs)) ≠ .eof := by
    rw [Token.Kind.ofWord]
    split <;> exact ⟨by rintro ⟨⟩, by rintro ⟨⟩⟩
  refine ReadsAs.of_lexes ⟨.char c, Text.ofChars cs, rfl, ?_, fun m => ?_⟩ legal.1 legal.2
  · rwa [List.append_nil]
  · simp only [Text.ofChars, List.map_cons] at whole composed
    simp only [lexeme_name named, Text.ofChars, List.append_nil, whole, composed, List.map_cons]
    exact ⟨_, rfl⟩

/-- Names of plain letters and digits that are not reserved are identifiers. -/
theorem readsAs_identifier {c : Char} {cs : List Char} (start : isPlainLetter c)
    (parts : ∀ d ∈ cs, isPlainLetter d ∨ d.isDigit)
    (free : Keyword.ofText? (.ofChars (c :: cs)) = none) :
    ReadsAs .identifier (.ofChars (c :: cs)) := by
  have read := readsAs_word start parts
  rwa [Token.Kind.ofWord, free] at read

/-- Reserved words are read as they are. -/
theorem readsAs_keyword (k : Keyword) : ReadsAs (.keyword k) (txt k.spelling) := by
  have known : Token.Kind.ofWord (txt k.spelling) = .keyword k := by
    cases k <;> decide
  have plain : ∃ c cs, txt k.spelling = .ofChars (c :: cs) ∧ isPlainLetter c ∧
      ∀ d ∈ cs, isPlainLetter d ∨ d.isDigit := by
    cases k <;> exact ⟨_, _, rfl, by decide, forall_mem_of_all (by decide)⟩
  obtain ⟨c, cs, spelled, start, parts⟩ := plain
  have read := readsAs_word start parts
  rwa [← spelled, known] at read

end CoScript
