import Mathlib.Algebra.GroupWithZero.Nat
import CoScript.Proofs.Token.Sequence
import CoScript.Proofs.Token.Splitting

/-!
Substitutions of templates. The end of a substitution is found by its braces, quotes and backticks alone,
without scanning tokens. That is the place where its tokens end if their braces match and no other token, and
nothing between tokens, has such a glyph.
-/
namespace CoScript

namespace Token

/-- Whether a token of a kind is legal and no brace. -/
abbrev Kind.isPlain : Kind → Bool
  | .operator .braceOpen | .operator .braceClose | .illegal => false
  | _ => true

/-- The number of braces open after a token of a kind. There is none after an illegal token, and a brace
is only closed if one is open. -/
def Kind.nest : (opened : Nat) → Kind → Option Nat
  | n, .operator .braceOpen => some (n + 1)
  | 0, .operator .braceClose => none
  | n + 1, .operator .braceClose => some n
  | _, .illegal => none
  | n, _ => some n

theorem Kind.nest_of_isPlain {k : Kind} (h : k.isPlain) (n : Nat) : k.nest n = some n := by
  unfold isPlain at h
  split at h
  · contradiction
  · contradiction
  · contradiction
  · unfold nest
    split <;> simp_all

/-- The number of braces open after some tokens. -/
def nesting (n : Nat) (tokens : List Token) : Option Nat :=
  tokens.foldlM (fun n t => t.kind.nest n) n

theorem nesting_cons (n : Nat) (t : Token) (ts : List Token) :
    nesting n (t :: ts) = (t.kind.nest n).bind (nesting · ts) :=
  List.foldlM_cons

theorem nesting_plain {n : Nat} {t : Token} {ts : List Token} (h : t.kind.isPlain) :
    nesting n (t :: ts) = nesting n ts := by
  rw [nesting_cons, Kind.nest_of_isPlain h]
  rfl

end Token

namespace Template

/-- What code is searched for. -/
def marks : List Char := ['{', '}', '"', '\'', '`']

/-- Whether a glyph is one that code is searched for. -/
def isMark (g : Glyph) : Bool :=
  marks.any g.is

theorem isMark_eq_false {g : Glyph} {p : Char → Bool} (h : g.holds p)
    (free : ∀ c ∈ marks, p c = false) : isMark g = false := by
  refine List.any_eq_false.2 fun c hc => ?_
  rw [Glyph.is_eq_false h (free c hc)]
  exact Bool.false_ne_true

theorem isMark_of_is {g : Glyph} {c : Char} (h : g.is c) (free : c ∉ marks) : isMark g = false := by
  rw [Trivia.eq_char_of_is h]
  refine List.any_eq_false.2 fun d hd same => free ?_
  rwa [eq_of_beq same]

/-- A text that code is not searched for. -/
def Unmarked (t : Text) : Prop :=
  ∀ g ∈ t, isMark g = false

theorem unmarked_nil : Unmarked [] :=
  List.forall_mem_nil _

theorem unmarked_take_nil (n : Nat) : Unmarked (List.take n []) := by
  rw [List.take_nil]
  exact unmarked_nil

/-- The automaton gets from frames to others over a text that some text follows. -/
inductive Passes : List Frame → Text → Text → List Frame → Prop
  | nil (fs : List Frame) (rest : Text) : Passes fs [] rest fs
  | cons {frame : Frame} {outer fs fs' : List Frame} {g : Glyph} {t rest : Text} {whole : Bool}
      (move : step frame outer g (t ++ rest).head? = .go fs whole) (onward : Passes fs t rest fs') :
      Passes (frame :: outer) (g :: t) rest fs'

namespace Passes

variable {fs fs₁ fs' : List Frame} {a b t rest : Text}

theorem append (first : Passes fs a (b ++ rest) fs₁) (second : Passes fs₁ b rest fs') :
    Passes fs (a ++ b) rest fs' := by
  induction a generalizing fs with
  | nil =>
      cases first
      exact second
  | cons g a ih =>
      cases first with
      | cons move onward =>
          rw [← List.append_assoc] at move
          exact .cons move (ih onward)

theorem around (h : Passes fs t rest fs') (outer : List Frame) :
    Passes (fs ++ outer) t rest (fs' ++ outer) := by
  induction h with
  | nil => exact .nil _ _
  | @cons frame outer' fs fs' g t rest whole move _ ih =>
      have wider : step frame (outer' ++ outer) g (t ++ rest).head? = .go (fs ++ outer) whole := by
        rw [step_around, move]
        rfl
      exact .cons wider ih

/-- The scanner goes on behind the text. -/
theorem run (h : Passes fs t rest fs') (n : Nat) (m : Mark) :
    ∃ m', Template.run fs n m (t ++ rest) = Template.run fs' (n + t.length) m' rest := by
  induction h generalizing n m with
  | nil => exact ⟨m, rfl⟩
  | @cons frame outer fs fs' g t rest whole move _ ih =>
      obtain ⟨m', same⟩ := ih (n + 1) (Quotation.advance whole m g)
      refine ⟨m', ?_⟩
      rw [List.cons_append, Template.run, move]
      dsimp only
      rw [same, List.length_cons, Nat.add_right_comm, Nat.add_assoc]

/-- The splitter goes on behind the text, which belongs to the substitution. -/
theorem partsFrom (h : Passes fs t rest fs') (some : fs' ≠ []) :
    partsFrom (.within fs) (t ++ rest) =
      (partsFrom (.within fs') rest).map fun parts => t.foldr prepend parts := by
  induction h with
  | nil => simp
  | @cons frame outer fs fs' g t rest whole move onward ih =>
      rw [List.cons_append, Place.within, Template.partsFrom, move]
      cases fs with
      | nil =>
          cases onward
          exact absurd rfl some
      | cons frame outer =>
          dsimp only
          rw [show Place.inside frame outer = .within (frame :: outer) from rfl, ih some, Option.map_map]
          rfl

end Passes

/-! Code. -/

/-- The code of a substitution, with braces open in it. -/
def code (opened : Nat) : List Frame :=
  [.code (opened + 1)]

/-- Nothing happens in code without the glyphs that it is searched for. -/
theorem passes_code {t : Text} (h : Unmarked t) (n : Nat) (rest : Text) :
    Passes (code n) t rest (code n) := by
  induction t with
  | nil => exact .nil _ _
  | cons g t ih =>
      obtain ⟨first, later⟩ := List.forall_mem_cons.1 h
      simp only [isMark, marks, List.any_cons, List.any_nil, Bool.or_false, Bool.or_eq_false_iff] at first
      have move : step (.code (n + 1)) [] g (t ++ rest).head? = .go (code n) false := by
        simp [step, first, code]
      exact .cons move (ih later)

theorem passes_braceOpen (n : Nat) (rest : Text) :
    Passes (code n) (txt "\x7b") rest (code (n + 1)) :=
  .cons rfl (.nil _ _)

theorem passes_braceClose (n : Nat) (rest : Text) :
    Passes (code (n + 1)) (txt "\x7d") rest (code n) :=
  .cons rfl (.nil _ _)

/-- A template that is over takes a text, whatever follows that one and whatever it stands in. -/
theorem run_passes {fs : List Frame} {n : Nat} {m : Mark} {t : Text} (h : (run fs n m t).ok) :
    ∃ a b, t = a ++ b ∧ (run fs n m t).length = n + a.length ∧
      ∀ outer rest, Passes (fs ++ outer) a rest outer := by
  induction t generalizing fs n m with
  | nil =>
      cases fs with
      | nil => exact ⟨[], [], rfl, rfl, fun outer rest => .nil _ _⟩
      | cons => contradiction
  | cons g t ih =>
      cases fs with
      | nil => exact ⟨[], g :: t, rfl, rfl, fun outer rest => .nil _ _⟩
      | cons frame around =>
          rw [run] at h ⊢
          cases move : step frame around g t.head? with
          | fail =>
              rw [move] at h
              contradiction
          | go fs whole =>
              rw [move] at h
              dsimp only at h ⊢
              obtain ⟨a, b, rfl, long, passes⟩ := ih h
              refine ⟨g :: a, b, rfl, by rw [long, List.length_cons]; omega, fun outer rest => ?_⟩
              have alone : step frame around g (a ++ rest).head? = .go fs whole := by
                cases a with
                | nil =>
                    have closed := passes [] rest
                    rw [List.append_nil] at closed
                    cases closed
                    exact step_leaving move _
                | cons => exact move
              have wider : step frame (around ++ outer) g (a ++ rest).head? = .go (fs ++ outer) whole := by
                rw [step_around, alone]
                rfl
              exact .cons wider (passes outer rest)

/-- A string that is over takes a text, whatever follows that one and whatever it stands in. -/
theorem quotation_passes {quote : Char} {mode : Quotation.Mode} {pieces ps : List Quotation.Piece}
    {n : Nat} {m : Mark} {t : Text} (h : (Quotation.run quote mode pieces n m t).pieces? = some ps) :
    ∃ a b, t = a ++ b ∧ (Quotation.run quote mode pieces n m t).length = n + a.length ∧ a ≠ [] ∧
      ∀ outer rest, Passes (.quotation quote mode :: outer) a rest outer := by
  induction t generalizing mode pieces n m with
  | nil => contradiction
  | cons g t ih =>
      rw [Quotation.run] at h ⊢
      cases move : Quotation.step quote mode g t.head? with
      | fail =>
          rw [move] at h
          contradiction
      | finish =>
          refine ⟨[g], t, rfl, rfl, List.cons_ne_nil _ _, fun outer rest => ?_⟩
          have last : step (.quotation quote mode) outer g ([] ++ rest).head? = .go outer false := by
            simp only [step, Quotation.step_finish move]
          exact .cons last (.nil _ _)
      | go mode' piece whole =>
          rw [move] at h
          dsimp only at h ⊢
          obtain ⟨a, b, rfl, long, some, passes⟩ := ih h
          refine ⟨g :: a, b, rfl, by rw [long, List.length_cons]; omega, List.cons_ne_nil _ _,
            fun outer rest => ?_⟩
          obtain ⟨g', a, rfl⟩ := List.exists_cons_of_ne_nil some
          have on : step (.quotation quote mode) outer g (g' :: a ++ rest).head? =
              .go (.quotation quote mode' :: outer) whole := by
            rw [List.cons_append, List.head?_cons] at move ⊢
            simp only [step, move]
          exact .cons on (passes outer rest)

end Template

/-! Names, numbers and operators other than braces. -/

namespace Numeral

open Template (Unmarked marks isMark isMark_eq_false isMark_of_is unmarked_nil unmarked_take_nil)

theorem unmarked_cons {g : Glyph} {t : Text} {n : Nat} (first : isMark g = false)
    (rest : Unmarked (t.take n)) : Unmarked ((g :: t).take (n + 1)) :=
  List.forall_mem_cons.2 ⟨first, rest⟩

theorem unmarked_add {t : Text} {a b : Nat} (first : Unmarked (t.take a))
    (second : Unmarked ((t.drop a).take b)) : Unmarked (t.take (a + b)) := by
  rw [List.take_add]
  exact List.forall_mem_append.2 ⟨first, second⟩

theorem digits_unmarked {p : Char → Bool} (free : ∀ c ∈ marks, p c = false) (afterDigit : Bool)
    (t : Text) : Unmarked (t.take (digits p afterDigit t)) := by
  induction t generalizing afterDigit with
  | nil => exact unmarked_take_nil _
  | cons g t ih =>
      rw [digits]
      split
      · exact unmarked_cons (isMark_eq_false ‹_› free) (ih true)
      split
      · rename_i underscore
        simp only [Bool.and_eq_true] at underscore
        exact unmarked_cons (isMark_of_is underscore.1.1 (by decide)) (ih false)
      · exact unmarked_nil

theorem isDigit_of_mark : ∀ c ∈ marks, c.isDigit = false :=
  forall_mem_of_all (by decide)

theorem fraction_unmarked (t : Text) : Unmarked (t.take (fraction t)) := by
  cases t with
  | nil => exact unmarked_take_nil _
  | cons g t =>
      rw [fraction]
      split
      · rename_i point
        simp only [Bool.and_eq_true] at point
        exact unmarked_cons (isMark_of_is point.1 (by decide)) (digits_unmarked isDigit_of_mark false t)
      · exact unmarked_nil

/-- The sign of an exponent, if it has one. -/
theorem sign_unmarked (t : Text) :
    Unmarked (t.take (if t.head?.any fun g => g.is '+' || g.is '-' then 1 else 0)) := by
  cases t with
  | nil => exact unmarked_take_nil _
  | cons g t =>
      split
      · rename_i sign
        refine unmarked_cons ?_ unmarked_nil
        exact (Bool.or_eq_true_iff.1 sign).elim (isMark_of_is · (by decide)) (isMark_of_is · (by decide))
      · exact unmarked_nil

theorem exponent_unmarked (t : Text) : Unmarked (t.take (exponent t)) := by
  cases t with
  | nil => exact unmarked_take_nil _
  | cons g t =>
      rw [exponent]
      split
      · rename_i letter
        have first : isMark g = false :=
          (Bool.or_eq_true_iff.1 letter).elim (isMark_of_is · (by decide)) (isMark_of_is · (by decide))
        dsimp only
        split
        · exact unmarked_nil
        · refine unmarked_cons first ?_
          rw [Nat.add_comm]
          exact unmarked_add (sign_unmarked t) (digits_unmarked isDigit_of_mark false _)
      · exact unmarked_nil

theorem decimal_unmarked (t : Text) : Unmarked (t.take (body.decimal t)) := by
  rw [body.decimal]
  exact unmarked_add (unmarked_add (digits_unmarked isDigit_of_mark false t) (fraction_unmarked _))
    (exponent_unmarked _)

theorem base_marks {c : Char} {isDigit : Char → Bool} (h : base? c = some isDigit) :
    ∀ c ∈ marks, isDigit c = false := by
  unfold base? at h
  split at h
  · cases h
    exact forall_mem_of_all (by decide)
  split at h
  · cases h
    exact forall_mem_of_all (by decide)
  split at h
  · cases h
    exact forall_mem_of_all (by decide)
  · contradiction

theorem body_unmarked (t : Text) : Unmarked (t.take (body t)) := by
  unfold body
  split
  · rename_i c rest
    split
    · rename_i isDigit based
      have letter : isMark (.char c) = false := by
        have all : marks.all fun c => (base? c).isNone := by decide
        refine List.any_eq_false.2 fun d hd same => ?_
        have none := List.all_eq_true.1 all d hd
        rw [← eq_of_beq (show c == d from same), based] at none
        cases none
      exact unmarked_cons (by decide) (unmarked_cons letter (digits_unmarked (base_marks based) false _))
    · exact decimal_unmarked _
  · exact decimal_unmarked t

/-- A number has no braces, quotes or backticks. -/
theorem length_unmarked (t : Text) : Unmarked (t.take (length t)) := by
  rw [length]
  split
  · rename_i big
    refine unmarked_add (body_unmarked t) ?_
    cases rest : t.drop (body t) with
    | nil => exact unmarked_take_nil _
    | cons g u =>
        rw [rest] at big
        exact unmarked_cons (isMark_of_is big (by decide)) unmarked_nil
  · exact body_unmarked t

end Numeral

namespace Scanner

open Template (Passes Unmarked code marks isMark isMark_eq_false isMark_of_is passes_code)

variable {m : Mark} {g : Glyph} {rest : Text} {n n' : Nat}

theorem nameAt_unmarked (t : Text) : Unmarked (nameAt t) := by
  intro g hg
  have free : ∀ c ∈ marks, isNamePart c = false := forall_mem_of_all (by decide)
  exact isMark_eq_false (List.mem_takeWhile_imp hg) free

theorem spelling_unmarked {o : Operator} (plain : Token.Kind.isPlain (.operator o)) :
    Unmarked (txt o.spelling) := by
  have known : Operator.all.all fun o =>
      !Token.Kind.isPlain (.operator o) || (txt o.spelling).all (!isMark ·) := by
    decide
  have here := List.all_eq_true.1 known o (Operator.mem_all o)
  rw [plain, Bool.not_true, Bool.false_or] at here
  exact fun g hg => by simpa using List.all_eq_true.1 here g hg

/-- A plain token without the glyphs that code is searched for. -/
theorem plain_passes {k : Token.Kind} {raw : Text} (plain : k.isPlain) (nest : k.nest n = some n')
    (unmarked : Unmarked raw) (rest : Text) : Passes (code n) raw rest (code n') := by
  rw [Token.Kind.nest_of_isPlain plain] at nest
  cases nest
  exact passes_code unmarked n rest

theorem stringLexeme_passes {quote : Char} (quotes : quote = '"' ∨ quote = '\'')
    (nest : (stringLexeme quote m rest).kind.nest n = some n') (rest' : Text) :
    Passes (code n) ((.char quote :: rest).take (stringLexeme quote m rest).length) rest' (code n') := by
  unfold stringLexeme at nest ⊢
  dsimp only at nest ⊢
  split at nest
  · rename_i found
    cases nest
    obtain ⟨a, b, rfl, long, -, passes⟩ := Template.quotation_passes found
    rw [long, Nat.add_comm, List.take_succ_cons, List.take_left]
    have opens : Template.step (.code (n + 1)) [] (.char quote) (a ++ rest').head? =
        .go (.quotation quote .plain :: code n) false := by
      obtain rfl | rfl := quotes <;> rfl
    exact .cons opens (passes _ _)
  · contradiction

theorem templateLexeme_passes (nest : (templateLexeme m rest).kind.nest n = some n') (rest' : Text) :
    Passes (code n) ((.char '`' :: rest).take (templateLexeme m rest).length) rest' (code n') := by
  unfold templateLexeme at nest ⊢
  dsimp only at nest ⊢
  split at nest
  · rename_i ok
    cases nest
    obtain ⟨a, b, rfl, long, passes⟩ := Template.run_passes ok
    rw [if_pos ok]
    dsimp only
    rw [long, Nat.add_comm, List.take_succ_cons, List.take_left]
    have opens : Template.step (.code (n + 1)) [] (.char '`') (a ++ rest').head? =
        .go ([Template.Frame.chunk] ++ code n) false := rfl
    exact .cons opens (passes _ _)
  · contradiction

theorem operatorLexeme_passes (nest : (operatorLexeme m g rest).kind.nest n = some n') (rest' : Text) :
    Passes (code n) ((g :: rest).take (operatorLexeme m g rest).length) rest' (code n') := by
  unfold operatorLexeme at nest ⊢
  split at nest
  · rename_i o left found
    obtain ⟨spelled, -, -⟩ := Operator.leading?_longest found
    rw [spelled, List.take_left]
    by_cases plain : Token.Kind.isPlain (.operator o)
    · exact plain_passes plain nest (spelling_unmarked plain) rest'
    · cases o with
      | braceOpen =>
          cases nest
          exact Template.passes_braceOpen _ rest'
      | braceClose =>
          cases n with
          | zero => contradiction
          | succ n =>
              cases nest
              exact Template.passes_braceClose _ rest'
      | _ => exact absurd rfl plain
  · contradiction

/-- A token is passed as its kind says. -/
theorem lexeme_passes {divides : Bool} (nest : (lexeme divides m g rest).kind.nest n = some n')
    (regex : (lexeme divides m g rest).kind = .regex →
      Unmarked ((g :: rest).take (lexeme divides m g rest).length)) (rest' : Text) :
    Passes (code n) ((g :: rest).take (lexeme divides m g rest).length) rest' (code n') := by
  unfold lexeme at nest regex ⊢
  dsimp only at nest regex ⊢
  split_ifs at nest regex ⊢ with quote tick hash name number slash
  · obtain double | single := Bool.or_eq_true_iff.1 quote
    · rw [Trivia.eq_char_of_is double] at nest ⊢
      exact stringLexeme_passes (.inl rfl) nest rest'
    · rw [Trivia.eq_char_of_is single] at nest ⊢
      exact stringLexeme_passes (.inr rfl) nest rest'
  · rw [Trivia.eq_char_of_is tick]
    exact templateLexeme_passes nest rest'
  · have whole : (g :: rest).take (g :: nameAt rest).length = g :: nameAt rest :=
      (List.prefix_iff_eq_take.1 ((List.prefix_cons_inj g).2 (List.takeWhile_prefix _))).symm
    have first := isMark_of_is (Bool.and_eq_true_iff.1 hash).1 (show '#' ∉ marks by decide)
    rw [whole]
    exact plain_passes rfl nest (List.forall_mem_cons.2 ⟨first, nameAt_unmarked rest⟩) rest'
  · have whole : (g :: rest).take (nameAt (g :: rest)).length = nameAt (g :: rest) :=
      (List.prefix_iff_eq_take.1 (List.takeWhile_prefix _)).symm
    have plain : (Token.Kind.ofWord (composed (nameAt (g :: rest)))).isPlain := by
      unfold Token.Kind.ofWord
      split <;> rfl
    rw [whole]
    exact plain_passes plain nest (nameAt_unmarked _) rest'
  · have whole : (g :: rest).take ((g :: rest).take (Numeral.length (g :: rest))).length =
        (g :: rest).take (Numeral.length (g :: rest)) :=
      (List.prefix_iff_eq_take.1 (List.take_prefix _ _)).symm
    rw [whole]
    exact plain_passes rfl nest (Numeral.length_unmarked _) rest'
  · have kind : (regexLexeme m (g :: rest) rest).kind = .regex := by
      unfold regexLexeme at nest ⊢
      dsimp only at nest ⊢
      split at nest
      · rfl
      · contradiction
      · contradiction
    exact plain_passes (by rw [kind]) nest (regex kind) rest'
  · exact operatorLexeme_passes nest rest'

end Scanner

namespace Token

/-- The number of glyphs of a token that code is searched for, unless it is a regular expression. -/
def marks (t : Token) : Nat :=
  if t.kind = .regex then 0 else t.raw.countP Template.isMark

theorem marks_le (t : Token) : t.marks ≤ t.raw.countP Template.isMark := by
  unfold marks
  split
  · exact Nat.zero_le _
  · exact Nat.le_refl _

end Token

/-- The glyphs that code is searched for are all in tokens that are no regular expressions: the comments
and the regular expressions of a text have none. -/
def Template.Searchable (source : Text) : Prop :=
  source.countP isMark = ((Token.scan source).map Token.marks).sum

namespace Scanner

open Template (Passes Unmarked code isMark passes_code)

theorem unmarked_of_countP {t : Text} (h : t.countP isMark = 0) : Unmarked t :=
  fun g hg => Bool.eq_false_iff.2 (List.countP_eq_zero.1 h g hg)

theorem marks_collect_le (limit : Nat) (s : Scanner) :
    ((collect limit s).map Token.marks).sum ≤ s.rest.countP isMark := by
  induction limit generalizing s with
  | zero => exact Nat.zero_le _
  | succ limit ih =>
      obtain ⟨broken, trivia, takes⟩ := s.next_takes
      have first := s.next.1.marks_le
      have later := ih s.next.2
      rw [takes.split, List.countP_append, List.countP_append, collect]
      dsimp only
      split
      · rw [List.map_singleton, List.sum_singleton]
        omega
      · rw [List.map_cons, List.sum_cons]
        omega

/-- The text of a token is passed as its kind says. -/
theorem next_passes {s : Scanner} {n n' : Nat} (some : s.next.1.kind ≠ .eof)
    (nest : s.next.1.kind.nest n = Option.some n')
    (regex : s.next.1.kind = .regex → Unmarked s.next.1.raw) (rest : Text) :
    Passes (code n) s.next.1.raw rest (code n') := by
  obtain ⟨none, -, -⟩ | ⟨divides, m, g, after, kind, -, raw⟩ := s.next_cases
  · obtain ⟨broken, trivia, takes⟩ := s.next_takes
    have unfinished := takes.unfinished ((takes.empty none).resolve_left some)
    rw [unfinished.1] at nest
    cases n <;> contradiction
  · rw [kind] at nest regex
    rw [raw] at regex ⊢
    exact lexeme_passes nest regex rest

/-- A text is passed as its tokens say. -/
theorem collect_passes {limit : Nat} {s : Scanner} (long : s.rest.length < limit) {n n' : Nat}
    (nest : Token.nesting n (collect limit s) = some n')
    (marked : s.rest.countP isMark ≤ ((collect limit s).map Token.marks).sum) (rest : Text) :
    Passes (code n) s.rest rest (code n') := by
  induction limit generalizing s n with
  | zero => exact absurd long (Nat.not_lt_zero _)
  | succ limit ih =>
      obtain ⟨broken, trivia, takes⟩ := s.next_takes
      -- Neither the token nor those behind it can have more than their own glyphs, so that the trivia
      -- have none, and nor has a regular expression.
      have first := s.next.1.marks_le
      have later := marks_collect_le limit s.next.2
      rw [takes.split, List.countP_append, List.countP_append] at marked
      rw [collect] at nest marked
      dsimp only at nest marked
      split at nest
      · rename_i finished
        obtain ⟨-, none⟩ := takes.finished.1 finished
        rw [if_pos finished, List.map_singleton, List.sum_singleton] at marked
        rw [Token.nesting_plain (by rw [finished])] at nest
        cases nest
        have blank : Unmarked trivia := unmarked_of_countP (by omega)
        rw [takes.split, none, List.append_nil]
        exact passes_code blank _ rest
      · rename_i some
        rw [if_neg some, List.map_cons, List.sum_cons] at marked
        rw [Token.nesting_cons] at nest
        obtain ⟨n₁, here, nest⟩ := Option.bind_eq_some_iff.1 nest
        have shorter := s.rest_lt_of_next some
        have regex (kind : s.next.1.kind = .regex) : Unmarked s.next.1.raw := by
          have none : s.next.1.marks = 0 := if_pos kind
          exact unmarked_of_countP (by omega)
        have onward := ih (s := s.next.2) (by omega) nest (by omega)
        have blank : Unmarked trivia := unmarked_of_countP (by omega)
        rw [takes.split]
        exact (passes_code blank _ _).append ((next_passes some here regex _).append onward)

end Scanner

/-! Templates with one substitution. -/

namespace Template

theorem foldr_prepend (t part : Text) (parts : List Text) :
    t.foldr prepend (part :: parts) = (t ++ part) :: parts := by
  induction t with
  | nil => rfl
  | cons g t ih =>
      rw [List.foldr_cons, ih]
      rfl

/-- The body of a template that is a substitution. -/
def substituting (source : Text) : Text :=
  txt "$\x7b" ++ source ++ txt "\x7d"

variable {source : Text} (passes : ∀ rest, Passes (code 0) source rest (code 0))
include passes

/-- The scanner leaves the substitution and the template behind the source. -/
theorem passes_substituting (rest : Text) :
    Passes [.chunk] (substituting source ++ txt "`") rest [] := by
  have first (rest : Text) : Passes [.chunk] (txt "$\x7b") rest (code 0 ++ [Frame.chunk]) :=
    .cons rfl (.cons rfl (.nil _ _))
  have closing (rest : Text) : Passes (code 0 ++ [Frame.chunk]) (txt "\x7d") rest [.chunk] :=
    .cons rfl (.nil _ _)
  have last : Passes [.chunk] (txt "`") rest [] := .cons rfl (.nil _ _)
  exact (((first _).append ((passes _).around [.chunk])).append (closing _)).append last

/-- The template is scanned as one token. -/
theorem substituting_readsAsTokens (rest : Text) :
    ReadsAsTokens (txt "`" ++ substituting source ++ txt "`") [(.template, substituting source)] rest := by
  refine ReadsAsTokens.token (w := substituting source ++ txt "`") (.char '`') (List.forall_mem_nil _)
    (by decide) rfl fun divides m => ?_
  obtain ⟨m', run⟩ := (passes_substituting passes rest).run 1 (m.past (.char '`'))
  refine ⟨m', ?_⟩
  change Scanner.templateLexeme m _ = _
  have body : (substituting source ++ txt "`" ++ rest).take
      (1 + (substituting source ++ txt "`").length - 2) = substituting source := by
    rw [List.append_assoc, List.length_append, show (txt "`").length = 1 from rfl,
      show 1 + ((substituting source).length + 1) - 2 = (substituting source).length by omega,
      List.take_left]
  simp only [Scanner.templateLexeme, run, Template.run, if_true, body]
  rw [Nat.add_comm]
  rfl

/-- The source is the only substitution. -/
theorem split?_substituting : split? (substituting source) = some ⟨[[], []], [source]⟩ := by
  have inside := (passes (txt "\x7d")).partsFrom (List.cons_ne_nil _ _)
  have closing : partsFrom (.within (code 0)) (txt "\x7d") = some [[], []] := rfl
  have opening : partsFrom .text (substituting source) =
      (partsFrom (.within (code 0)) (source ++ txt "\x7d")).map ([] :: ·) := rfl
  rw [split?, opening, inside, closing, Option.map_some, foldr_prepend, List.append_nil]
  rfl

end Template

/-- A text whose braces match outside of its comments and regular expressions, and that has no illegal
token, may be substituted into a template. -/
theorem Token.scan_substituting {source : Text} (nest : nesting 0 (scan source) = some 0)
    (searchable : Template.Searchable source) :
    (scan (txt "`" ++ Template.substituting source ++ txt "`")).map sign =
        [(.template, Template.substituting source), (.eof, [])] ∧
      Template.split? (Template.substituting source) = some ⟨[[], []], [source]⟩ := by
  have passes (rest : Text) := Scanner.collect_passes (s := { rest := source }) (Nat.lt_succ_self _) nest
    searchable.le rest
  exact ⟨ReadsAsTokens.scan (Template.substituting_readsAsTokens passes []),
    Template.split?_substituting passes⟩

end CoScript
