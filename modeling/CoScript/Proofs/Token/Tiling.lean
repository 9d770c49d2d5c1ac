import CoScript.Proofs.Token.Extent

/-!
Tokens tile the script. The scanner takes blank space and comments and then a lexeme, so the tokens of a
script stand one behind the other with nothing but trivia between them, each where its offset and its
line say, and they come to an end: every token but the end token takes something of what is left.
-/
namespace CoScript

namespace Trivia

/-- A glyph of blank space, line breaks included. -/
def isBlank (g : Glyph) : Bool :=
  g.is '\n' || g.is '\r' || g.is ' ' || g.is '\t' || g.is '\x0b' || g.is '\x0c' || g.holds isWideSpace

/-- Text that a comment does not end in: the given glyphs do not occur in it, and neither does a NUL. -/
def Within (close : Text) (body : Text) : Prop :=
  ¬ close <:+: body ∧ .char '\x00' ∉ body

/-- Blank space and comments that are over. -/
inductive Blank : Text → Prop
  | nil : Blank []
  | space {g : Glyph} {t : Text} (hg : isBlank g) (ht : Blank t) : Blank (g :: t)
  | line {body t : Text} (inside : Within (txt "\n") body) (ht : Blank t) :
      Blank (txt "//" ++ body ++ txt "\n" ++ t)
  | block {body t : Text} (inside : Within (txt "*/") body) (ht : Blank t) :
      Blank (txt "/*" ++ body ++ txt "*/" ++ t)

/-- Whether a text is over or goes on with a NUL, at which comments break off. -/
def Halts (t : Text) : Prop :=
  ∀ g ∈ t.head?, g = .char '\x00'

/-- Trivia before what is left of a script. A comment may be open at the end only where the script is over
or a NUL follows, and an open block comment is unfinished. -/
inductive Before : (unfinished : Bool) → (trivia rest : Text) → Prop
  | blank {t rest : Text} (ht : Blank t) : Before false t rest
  | line {t body rest : Text} (ht : Blank t) (inside : Within (txt "\n") body) (halts : Halts rest) :
      Before false (t ++ txt "//" ++ body) rest
  | block {t body rest : Text} (ht : Blank t) (inside : Within (txt "*/") body) (halts : Halts rest) :
      Before true (t ++ txt "/*" ++ body) rest

theorem Within.nil {close : Text} (h : close ≠ []) : Within close [] :=
  ⟨fun found => h (List.infix_nil.1 found), List.not_mem_nil⟩

theorem Within.cons {close body : Text} {g : Glyph} (h : Within close body) (nul : g ≠ .char '\x00')
    (other : ¬ close <+: g :: body) : Within close (g :: body) :=
  ⟨fun found => (List.infix_cons_iff.1 found).elim other h.1, by simp [h.2, nul.symm]⟩

theorem Blank.append {a b : Text} (ha : Blank a) (hb : Blank b) : Blank (a ++ b) := by
  induction ha with
  | nil => exact hb
  | space hg _ ih => exact .space hg ih
  | line inside _ ih =>
      rw [List.append_assoc]
      exact .line inside ih
  | block inside _ ih =>
      rw [List.append_assoc]
      exact .block inside ih

theorem Before.prepend {a t rest : Text} {unfinished : Bool} (ha : Blank a)
    (h : Before unfinished t rest) : Before unfinished (a ++ t) rest := by
  cases h with
  | blank ht => exact .blank (ha.append ht)
  | line ht inside halts =>
      rw [← List.append_assoc, ← List.append_assoc]
      exact .line (ha.append ht) inside halts
  | block ht inside halts =>
      rw [← List.append_assoc, ← List.append_assoc]
      exact .block (ha.append ht) inside halts

theorem eq_char_of_is {g : Glyph} {c : Char} (h : g.is c) : g = .char c := by
  cases g with
  | char d => rw [show d = c from eq_of_beq h]
  | stray b => cases h

theorem eq_of_pair {g : Glyph} {rest : Text} {c d : Char} (h : pair g rest.head? c d) :
    ∃ more, g = .char c ∧ rest = .char d :: more := by
  obtain ⟨first, second⟩ := Bool.and_eq_true_iff.1 h
  cases rest with
  | nil => cases second
  | cons g' more => exact ⟨more, eq_char_of_is first, by rw [eq_char_of_is second]⟩

/-- A line comment goes on up to a line feed, unless it breaks off. -/
theorem skip_lineComment (newline : Bool) (m : Mark) (t : Text) :
    ∃ body tail, t = body ++ tail ∧ Within (txt "\n") body ∧
      ((∃ more, tail = .char '\n' :: more ∧ skip .lineComment newline m t =
          skip .space true ((m.pastAll body).past (.char '\n')) more) ∨
        (Halts tail ∧ skip .lineComment newline m t = ⟨newline, false, m.pastAll body, tail⟩)) := by
  induction t generalizing m with
  | nil => exact ⟨[], [], rfl, .nil nofun, .inr ⟨nofun, rfl⟩⟩
  | cons g rest ih =>
      rw [skip]
      split
      · rename_i feed
        obtain rfl := eq_char_of_is feed
        exact ⟨[], _, rfl, .nil nofun, .inl ⟨rest, rfl, rfl⟩⟩
      rename_i other
      split
      · rename_i nul
        obtain rfl := eq_char_of_is nul
        exact ⟨[], _, rfl, .nil nofun, .inr ⟨by simp [Halts], rfl⟩⟩
      rename_i nul
      obtain ⟨body, tail, rfl, inside, ends⟩ := ih (m.past g)
      refine ⟨g :: body, tail, rfl, inside.cons ?_ ?_, ends⟩
      · rintro rfl
        exact nul rfl
      · intro feed
        obtain rfl : Glyph.char '\n' = g := (List.cons_prefix_cons.1 feed).1
        exact other rfl

/-- A block comment goes on up to an asterisk and a slash, unless it breaks off. -/
theorem skip_blockComment (newline : Bool) (m : Mark) (t : Text) :
    ∃ body tail newline', t = body ++ tail ∧ Within (txt "*/") body ∧
      ((∃ more, tail = txt "*/" ++ more ∧ skip .blockComment newline m t =
          skip .space newline' (((m.pastAll body).past (.char '*')).past (.char '/')) more) ∨
        (Halts tail ∧ skip .blockComment newline m t = ⟨newline', true, m.pastAll body, tail⟩)) := by
  induction t generalizing newline m with
  | nil => exact ⟨[], [], newline, rfl, .nil nofun, .inr ⟨nofun, rfl⟩⟩
  | cons g rest ih =>
      rw [skip]
      split
      · rename_i close
        obtain ⟨rest, rfl, rfl⟩ := eq_of_pair close
        exact ⟨[], _, newline, rfl, .nil nofun, .inl ⟨rest, rfl, rfl⟩⟩
      rename_i other
      split
      · rename_i nul
        obtain rfl := eq_char_of_is nul
        exact ⟨[], _, newline, rfl, .nil nofun, .inr ⟨by simp [Halts], rfl⟩⟩
      rename_i nul
      obtain ⟨body, tail, newline', rfl, inside, ends⟩ := ih (newline || g.is '\n') (m.past g)
      refine ⟨g :: body, tail, newline', rfl, inside.cons ?_ ?_, ends⟩
      · rintro rfl
        exact nul rfl
      · intro close
        obtain ⟨star, slash⟩ := List.cons_prefix_cons.1 close
        obtain rfl : Glyph.char '*' = g := star
        obtain ⟨more, rfl⟩ := slash
        exact other rfl

/-- A text starts with trivia, which ends as an extent says. -/
def Skips (m : Mark) (t : Text) (e : Extent) : Prop :=
  ∃ trivia, t = trivia ++ e.rest ∧ Before e.unterminated trivia e.rest ∧ m.Leads trivia e.mark

theorem Skips.prepend {m m' : Mark} {a t : Text} {e : Extent} (h : Skips m' t e) (blank : Blank a)
    (leads : m.Leads a m') : Skips m (a ++ t) e := by
  obtain ⟨trivia, split, before, onward⟩ := h
  exact ⟨a ++ trivia, by rw [List.append_assoc, ← split], before.prepend blank, leads.trans onward⟩

theorem skip_skips (newline : Bool) (m : Mark) (t : Text) : Skips m t (skip .space newline m t) := by
  induction long : t.length using Nat.strong_induction_on generalizing newline m t with
  | _ n ih =>
  cases t with
  | nil => exact ⟨[], rfl, .blank .nil, .nil m⟩
  | cons g rest =>
      have step {newline : Bool} {m' : Mark} (blank : isBlank g) (leads : m.Leads [g] m') :
          Skips m (g :: rest) (skip .space newline m' rest) :=
        (ih rest.length (by rw [← long]; exact Nat.lt_succ_self _) newline m' rest rfl).prepend
          (.space blank .nil) leads
      rw [skip]
      split
      · exact step (by simp_all [isBlank]) (m.leads_past g)
      split
      · exact step (by simp_all [isBlank]) (m.leads_past g)
      split
      · rename_i wide
        exact step (by simp [isBlank, wide]) (m.leads_pastWhole g)
      split
      · rename_i opening
        obtain ⟨rest, rfl, rfl⟩ := eq_of_pair opening
        have second : skip .lineComment newline (m.past (.char '/')) (.char '/' :: rest) =
          skip .lineComment newline ((m.past (.char '/')).past (.char '/')) rest := rfl
        obtain ⟨body, tail, rfl, inside, ⟨more, rfl, finished⟩ | ⟨halts, finished⟩⟩ :=
          skip_lineComment newline ((m.past (.char '/')).past (.char '/')) rest
        all_goals have leads := ((m.past (.char '/')).past (.char '/')).leads_pastAll body
        · have later (m' : Mark) := ih more.length (by simp at long; omega) true m' more rfl
          have comment := (later _).prepend (.line inside .nil)
            ((((m.leads_two (.char '/') (.char '/')).trans leads).trans
              (Mark.leads_past _ (.char '\n'))).trans (.nil _))
          rw [second, finished]
          simpa [txt] using comment
        · rw [second, finished]
          exact ⟨txt "//" ++ body, rfl, .line .nil inside halts, (m.leads_two _ _).trans leads⟩
      split
      · rename_i opening
        obtain ⟨rest, rfl, rfl⟩ := eq_of_pair opening
        have second : skip .blockOpening newline (m.past (.char '/')) (.char '*' :: rest) =
          skip .blockComment newline ((m.past (.char '/')).past (.char '*')) rest := rfl
        obtain ⟨body, tail, newline', rfl, inside, ⟨more, rfl, finished⟩ | ⟨halts, finished⟩⟩ :=
          skip_blockComment newline ((m.past (.char '/')).past (.char '*')) rest
        all_goals have leads := ((m.past (.char '/')).past (.char '*')).leads_pastAll body
        · have later (m' : Mark) := ih more.length (by simp at long; omega) newline' m' more rfl
          have comment := (later _).prepend (.block inside .nil)
            ((((m.leads_two (.char '/') (.char '*')).trans leads).trans
              (Mark.leads_two _ (.char '*') (.char '/'))).trans (.nil _))
          rw [second, finished]
          simpa [txt] using comment
        · rw [second, finished]
          exact ⟨txt "/*" ++ body, rfl, .block .nil inside halts, (m.leads_two _ _).trans leads⟩
      · exact ⟨[], rfl, .blank .nil, .nil m⟩

end Trivia

namespace Operator

/-- Whether a text starts with a question mark and a point that a digit follows. -/
def PointsAtDigit (t : Text) : Prop :=
  ∃ (g : Glyph) (rest : List Glyph), t = txt "?." ++ g :: rest ∧ g.holds Char.isDigit

/-- Whether an operator is the longest one at the start of a text, where a question mark and a point
before a digit count as a question mark alone. -/
structure LongestAt (o : Operator) (t : Text) : Prop where
  starts : txt o.spelling <+: t
  longest : ¬ PointsAtDigit t →
    ∀ o' : Operator, txt o'.spelling <+: t → (txt o'.spelling).length ≤ (txt o.spelling).length
  question : PointsAtDigit t → o = .question

theorem question_or_optionalDot {o : Operator} {g : Glyph} {rest : Text}
    (h : txt o.spelling <+: txt "?." ++ g :: rest) : o = .question ∨ o = .optionalDot := by
  have known : all.all fun o =>
      (o == .question || o == .optionalDot) ||
        !((txt "?.").startsWith (txt o.spelling) || (txt o.spelling).startsWith (txt "?.")) := by
    decide
  have here := List.all_eq_true.1 known o (mem_all o)
  have start : (txt "?.").startsWith (txt o.spelling) || (txt o.spelling).startsWith (txt "?.") := by
    rw [Bool.or_eq_true, Text.startsWith_iff, Text.startsWith_iff]
    exact List.prefix_or_prefix_of_prefix h (List.prefix_append _ _)
  rw [start, Bool.not_true, Bool.or_false, Bool.or_eq_true, beq_iff_eq, beq_iff_eq] at here
  exact here

theorem longestAt_of_fits {o : Operator} {t : Text} (fits : o.Fits t)
    (longest : ∀ o' : Operator, o'.Fits t → (txt o'.spelling).length ≤ (txt o.spelling).length) :
    o.LongestAt t where
  starts := by
    obtain ⟨rest, split, -⟩ := fits
    exact ⟨rest, split.symm⟩
  longest free o' starts := by
    obtain ⟨rest, split⟩ := starts
    refine longest o' ⟨rest, split.symm, fun dot g hg => Bool.eq_false_iff.2 fun digit => free ?_⟩
    cases rest with
    | nil => cases hg
    | cons g' rest =>
        obtain rfl := Option.some.inj hg
        exact ⟨g', rest, by rw [← split, dot]; rfl, digit⟩
  question digit := by
    obtain ⟨g, rest, split, digit⟩ := digit
    obtain ⟨rest', spelled, whole⟩ := fits
    have starts : txt o.spelling <+: txt "?." ++ g :: rest := ⟨rest', by rw [← spelled, split]⟩
    refine (question_or_optionalDot starts).resolve_right ?_
    rintro rfl
    have same : rest' = g :: rest := List.append_cancel_left (spelled.symm.trans split)
    have plain := whole rfl g (by rw [same]; rfl)
    rw [digit] at plain
    cases plain

end Operator

namespace Scanner

/-- A token that stands for an unfinished block comment. -/
def Unfinished (t : Token) : Prop :=
  t.kind = .illegal ∧ t.literal = Flaw.unterminatedComment.message

/-- What one call takes off a script: trivia and the text of a token. -/
structure Takes (s : Scanner) (t : Token) (s' : Scanner) (broken : Bool) (trivia : Text) : Prop where
  split : s.rest = trivia ++ (t.raw ++ s'.rest)
  before : Trivia.Before broken trivia (t.raw ++ s'.rest)
  start : s.mark.Leads trivia ⟨t.start, t.line, t.column⟩
  stop : Mark.Leads ⟨t.start, t.line, t.column⟩ t.raw s'.mark
  stop_eq : s'.mark.offset = t.stop
  unfinished : broken → Unfinished t
  empty : t.raw = [] → t.kind = .eof ∨ broken
  finished : t.kind = .eof ↔ broken = false ∧ t.raw ++ s'.rest = []
  means : Means t.raw s'.rest t.literal t.kind

theorem next_takes (s : Scanner) : ∃ broken trivia, s.Takes s.next.1 s.next.2 broken trivia := by
  obtain ⟨trivia, split, before, leads⟩ := Trivia.skip_skips false s.mark s.rest
  refine ⟨(Trivia.skip .space false s.mark s.rest).unterminated, trivia, ?_⟩
  rw [next]
  generalize Trivia.skip .space false s.mark s.rest = e at split before leads
  obtain ⟨newline, broken, m, rest⟩ := e
  cases broken with
  | true =>
      exact ⟨split, before, leads, .nil m, rfl, fun _ => ⟨rfl, rfl⟩, fun _ => .inr rfl,
        ⟨by rintro ⟨⟩, by rintro ⟨⟨⟩, -⟩⟩, trivial⟩
  | false =>
      cases rest with
      | nil =>
          exact ⟨split, before, leads, .nil m, rfl, by rintro ⟨⟩, fun _ => .inl rfl,
            ⟨fun _ => ⟨rfl, rfl⟩, fun _ => rfl⟩, trivial⟩
      | cons g rest =>
          dsimp only
          generalize s.previous.any endsOperand = divides
          obtain ⟨some, within, stop⟩ := lexeme_reaches divides m g rest
          have means := lexeme_means divides m g rest
          have kind := lexeme_ne_eof divides m g rest
          generalize lexeme divides m g rest = l at some within stop means kind
          have whole := List.take_append_drop l.length (g :: rest)
          refine ⟨?_, ?_, leads, stop, rfl, by rintro ⟨⟩, fun none => ?_, ⟨fun h => absurd h kind, ?_⟩, means⟩
          · rw [split]
            exact congrArg (trivia ++ ·) whole.symm
          · exact whole.symm ▸ before
          · obtain zero | none := List.take_eq_nil_iff.1 none
            · omega
            · cases none
          · rintro ⟨-, none⟩
            cases whole.symm.trans none

/-! The tokens of a script, one call after the other. -/

/-- What the call with the given number returns, counted from zero. -/
def call (s : Scanner) : Nat → Token × Scanner
  | 0 => s.next
  | n + 1 => s.next.2.call n

theorem call_succ (s : Scanner) (n : Nat) : s.call (n + 1) = (s.call n).2.next := by
  induction n generalizing s with
  | zero => rfl
  | succ n ih => exact ih s.next.2

theorem rest_lt_of_next {s : Scanner} (h : s.next.1.kind ≠ .eof) :
    s.next.2.rest.length < s.rest.length := by
  obtain ⟨broken, trivia, takes⟩ := s.next_takes
  have long := congrArg List.length takes.split
  rw [List.length_append, List.length_append] at long
  cases raw : s.next.1.raw with
  | cons g raw =>
      rw [raw, List.length_cons] at long
      omega
  | nil =>
      obtain rfl : broken = true := (takes.empty raw).resolve_left h
      have before := takes.before
      cases before with
      | block =>
          simp only [txt, String.reduceToList, List.map_cons, List.map_nil, List.length_append,
            List.length_cons] at long
          omega

theorem next_of_over {s : Scanner} (h : s.next.1.kind = .eof) : s.next.2.next.1.kind = .eof := by
  obtain ⟨broken, trivia, takes⟩ := s.next_takes
  have none : s.next.2.rest = [] := (List.append_eq_nil_iff.1 (takes.finished.1 h).2).2
  generalize s.next.2 = s' at none
  rw [next, none]
  rfl

theorem call_of_over {s : Scanner} (h : s.next.1.kind = .eof) (i : Nat) :
    (s.call i).1.kind = .eof := by
  induction i generalizing s with
  | zero => exact h
  | succ i ih => exact ih (next_of_over h)

/-- The calls reach the end token before the script has no more glyphs, and stay there. -/
theorem call_eof (s : Scanner) :
    ∃ n ≤ s.rest.length, (∀ i, (s.call i).1.kind = .eof ↔ n ≤ i) ∧
      ∀ limit, n < limit → collect limit s = (List.range (n + 1)).map fun i => (s.call i).1 := by
  induction long : s.rest.length using Nat.strong_induction_on generalizing s with
  | _ length ih =>
  by_cases finished : s.next.1.kind = .eof
  · refine ⟨0, Nat.zero_le _, fun i => iff_of_true (call_of_over finished i) (Nat.zero_le i), ?_⟩
    intro limit more
    obtain ⟨limit, rfl⟩ := Nat.exists_eq_succ_of_ne_zero (Nat.ne_zero_of_lt more)
    simp [collect, finished, call]
  · have shorter := rest_lt_of_next finished
    obtain ⟨n, bound, ends, collects⟩ := ih s.next.2.rest.length (long ▸ shorter) s.next.2 rfl
    refine ⟨n + 1, by omega, fun i => ?_, fun limit more => ?_⟩
    · cases i with
      | zero => exact iff_of_false finished (Nat.not_succ_le_zero n)
      | succ i => exact (ends i).trans Nat.succ_le_succ_iff.symm
    · obtain ⟨limit, rfl⟩ := Nat.exists_eq_succ_of_ne_zero (Nat.ne_zero_of_lt more)
      have rest := collects limit (Nat.lt_of_succ_lt_succ more)
      rw [collect, List.range_succ_eq_map, List.map_cons, List.map_map]
      simp only [finished, if_false, rest]
      rfl

end Scanner

/-! Places in the bytes of a script. -/

/-- The bytes of a script between two offsets. -/
def slice (script : List UInt8) (start stop : Nat) : List UInt8 :=
  (script.drop start).take (stop - start)

/-- A text is what a script has from a place on. -/
structure Mark.Ahead (script : List UInt8) (m : Mark) (t : Text) : Prop where
  bound : m.offset ≤ script.length
  text : t = Text.ofBytes (script.drop m.offset)
  line : m.line = 1 + (script.take m.offset).count 0x0A
  column : 1 ≤ m.column

theorem Mark.Ahead.start (script : List UInt8) : Mark.Ahead script {} (Text.ofBytes script) :=
  ⟨Nat.zero_le _, rfl, by simp, Nat.le_refl 1⟩

/-- A step over a text is a step over its bytes. -/
theorem Mark.Ahead.past {script : List UInt8} {m m' : Mark} {a b : Text} (h : m.Ahead script (a ++ b))
    (leads : m.Leads a m') :
    m'.Ahead script b ∧ m.offset ≤ m'.offset ∧ a = Text.ofBytes (slice script m.offset m'.offset) := by
  obtain ⟨rest, bytes, rfl, read⟩ := Text.ofBytes_eq_append h.text.symm
  have size : m'.offset = m.offset + a.toBytes.length := by rw [leads.offset, Text.length_toBytes]
  have length := congrArg List.length bytes
  rw [List.length_drop, List.length_append] at length
  have bound := h.bound
  have left : script.drop m'.offset = rest := by
    rw [size, ← List.drop_drop, bytes, List.drop_left]
  have taken : script.take m'.offset = script.take m.offset ++ a.toBytes := by
    rw [size, List.take_add, bytes, List.take_left]
  have alone : Text.ofBytes a.toBytes = a := by
    have whole := read [] List.nil_prefix
    rwa [List.append_nil, show Text.ofBytes [] = [] from rfl, List.append_nil] at whole
  refine ⟨⟨by omega, by rw [left], ?_, leads.column h.column⟩, by omega, ?_⟩
  · have feeds : a.toBytes.count 0x0A = a.countP (·.is '\n') :=
      @Text.count_newline a.toBytes a (by rw [alone]; exact List.Subset.refl a)
    rw [leads.line, h.line, taken, List.count_append, feeds, Nat.add_assoc]
  · rw [slice, bytes, size, Nat.add_sub_cancel_left, List.take_left, alone]

namespace Token

/-- A token stands in a script, behind the token that ends at an offset: what lies between them is
trivia, and the literal is what the bytes of the token mean. -/
structure Stands (script : List UInt8) (behind : Nat) (t : Token) : Prop where
  behind_le : behind ≤ t.start
  start_le : t.start ≤ t.stop
  stop_le : t.stop ≤ script.length
  trivia : ∃ broken : Bool, (broken → Scanner.Unfinished t) ∧
    Trivia.Before broken (Text.ofBytes (slice script behind t.start))
      (Text.ofBytes (script.drop t.start))
  filled : t.start = t.stop → t.kind = .eof ∨ Scanner.Unfinished t
  line : t.line = 1 + (script.take t.start).count 0x0A
  column : 1 ≤ t.column
  raw : t.raw = Text.ofBytes (slice script t.start t.stop)
  means : match t.kind with
    | .number | .regex | .keyword _ => t.literal = t.raw
    | .identifier => t.literal = Scanner.composed t.raw
    | .template => t.raw = txt "`" ++ t.literal ++ txt "`"
    | .operator o => t.literal = t.raw ∧ t.raw = txt o.spelling ∧
        o.LongestAt (Text.ofBytes (script.drop t.start))
    | .illegal | .eof | .privateName | .string => True

end Token

namespace Scanner

theorem Takes.stands {script : List UInt8} {s s' : Scanner} {t : Token} {broken : Bool} {trivia : Text}
    (h : s.Takes t s' broken trivia) (ahead : s.mark.Ahead script s.rest) :
    t.Stands script s.mark.offset ∧ s'.mark.Ahead script s'.rest ∧ s'.mark.offset = t.stop := by
  obtain ⟨here, behind, between⟩ := (h.split ▸ ahead).past h.start
  obtain ⟨there, onward, raw⟩ := here.past h.stop
  rw [h.stop_eq] at onward raw
  refine ⟨?_, there, h.stop_eq⟩
  exact {
    behind_le := behind
    start_le := onward
    stop_le := h.stop_eq ▸ there.bound
    trivia := ⟨broken, h.unfinished, between ▸ here.text ▸ h.before⟩
    filled := fun same => by
      refine (h.empty ?_).imp_right h.unfinished
      rw [raw, slice, same, Nat.sub_self]
      rfl
    line := here.line
    column := here.column
    raw := raw
    means := by
      have means := h.means
      have text := here.text
      cases kind : t.kind with
      | number | regex | keyword _ | identifier | template => rwa [kind] at means
      | illegal | eof | privateName | string => trivial
      | operator o =>
          rw [kind] at means
          obtain ⟨literal, spelled, fits, longest⟩ := means
          rw [text] at fits longest
          exact ⟨literal, spelled, Operator.longestAt_of_fits fits (spelled ▸ longest)⟩
  }

/-- Every call returns a token that stands behind the one before. -/
theorem call_stands {script : List UInt8} {s : Scanner} (ahead : s.mark.Ahead script s.rest) (i : Nat) :
    (s.call i).1.Stands script (if i = 0 then s.mark.offset else (s.call (i - 1)).1.stop) ∧
      (s.call i).2.mark.Ahead script (s.call i).2.rest ∧
      (s.call i).2.mark.offset = (s.call i).1.stop := by
  induction i with
  | zero =>
      obtain ⟨broken, trivia, takes⟩ := s.next_takes
      exact takes.stands ahead
  | succ i ih =>
      obtain ⟨-, ahead, stop⟩ := ih
      obtain ⟨broken, trivia, takes⟩ := (s.call i).2.next_takes
      have next := takes.stands ahead
      rw [stop, ← call_succ] at next
      exact next

end Scanner

/-- The token that the call with the given number takes off a script. -/
def Token.nth (script : List UInt8) (i : Nat) : Token :=
  (Scanner.call { rest := Text.ofBytes script } i).1

/-- The tokens of a script tile it. The scanner reaches the end token after no more calls than the script
has bytes and one, and stays there; every token stands behind the one before it. -/
theorem Token.scan_tiles (script : List UInt8) :
    (∃ n ≤ script.length, (∀ i, (nth script i).kind = .eof ↔ n ≤ i) ∧
      scan (Text.ofBytes script) = (List.range (n + 1)).map (nth script)) ∧
    (nth script 0).Stands script 0 ∧
    ∀ i, (nth script (i + 1)).Stands script (nth script i).stop := by
  obtain ⟨n, bound, ends, collects⟩ := Scanner.call_eof { rest := Text.ofBytes script }
  have glyphs : (Text.ofBytes script).length ≤ script.length :=
    (Text.length_le_byteSize _).trans (Text.byteSize_ofBytes script).le
  have stands := Scanner.call_stands (s := { rest := Text.ofBytes script }) (.start script)
  refine ⟨⟨n, bound.trans glyphs, ends, collects _ (Nat.lt_succ_of_le bound)⟩, (stands 0).1, fun i => ?_⟩
  exact (stands (i + 1)).1

end CoScript
