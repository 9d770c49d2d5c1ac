import CoScript.Proofs.Token.Meaning
import CoScript.Proofs.Token.Template

/-!
Templates are scanned with the file they stand in and split on their own. The scanner and the splitter
agree: what is scanned as a template falls into parts, and the parts are what is written.
-/
namespace CoScript.Template

/-! Scanning. -/

/-- What the scanner is inside of where the splitter is at a place. -/
def Place.frames : Place → List Frame
  | text => [.chunk]
  | escaped => [.chunkEscape]
  | opening => [.opening, .chunk]
  | inside frame outer => frame :: (outer ++ [.chunk])

/-- The place inside of some frames of a substitution. -/
def Place.within : List Frame → Place
  | [] => text
  | frame :: outer => inside frame outer

theorem Place.frames_within (fs : List Frame) : (within fs).frames = fs ++ [Frame.chunk] := by
  cases fs <;> rfl

/-- A move with more frames around. -/
def Move.around (fs : List Frame) : Move → Move
  | fail past => fail past
  | go frames whole => go (frames ++ fs) whole

/-- What is around the open frames makes no difference to a move. -/
theorem step_around (frame : Frame) (outer fs : List Frame) (g : Glyph) (next : Option Glyph) :
    step frame (outer ++ fs) g next = (step frame outer g next).around fs := by
  cases frame with
  | chunkEscape | opening => rfl
  | chunk | code =>
      simp only [step]
      repeat' split
      all_goals rfl
  | quotation quote mode =>
      simp only [step]
      cases Quotation.step quote mode g next <;> rfl

/-- A move that leaves a substitution does not look ahead. -/
theorem step_leaving {frame : Frame} {outer : List Frame} {g : Glyph} {next : Option Glyph}
    {whole : Bool} (h : step frame outer g next = .go [] whole) (next' : Option Glyph) :
    step frame outer g next' = .go [] whole := by
  cases frame with
  | chunkEscape | opening => cases h
  | chunk | code =>
      simp only [step] at h ⊢
      grind
  | quotation quote mode =>
      simp only [step] at h ⊢
      cases move : Quotation.step quote mode g next with
      | finish => rwa [Quotation.step_finish move, ← move]
      | fail | go => rw [move] at h; cases h

attribute [local simp] partsFrom

/-- Nothing comes of a text that ends inside of a substitution. -/
theorem partsFrom_within_nil {fs : List Frame} (h : (partsFrom (.within fs) []).isSome) : fs = [] := by
  cases fs with
  | nil => rfl
  | cons => cases h

theorem isSome_partsFrom_inside {frame : Frame} {outer fs : List Frame} {g : Glyph} {t : Text}
    {whole : Bool} (h : step frame outer g t.head? = .go fs whole) :
    (partsFrom (.inside frame outer) (g :: t)).isSome = (partsFrom (.within fs) t).isSome := by
  rw [partsFrom, h]
  cases fs <;> simp [Place.within]

/-- A text has a backtick after a beginning that falls into parts. -/
def Closes (place : Place) (t : Text) (n length : Nat) : Prop :=
  ∃ (raw : Text) (close : Glyph) (rest : Text), t = raw ++ close :: rest ∧ close.is '`' ∧
    (partsFrom place raw).isSome ∧ length = n + raw.length + 1

theorem Closes.cons {place place' : Place} {g : Glyph} {t : Text} {n length : Nat}
    (h : Closes place' t (n + 1) length)
    (parts : ∀ (raw : Text) (close : Glyph) (rest : Text), t = raw ++ close :: rest → close.is '`' →
      (partsFrom place' raw).isSome → (partsFrom place (g :: raw)).isSome) :
    Closes place (g :: t) n length := by
  obtain ⟨raw, close, rest, rfl, tick, some, rfl⟩ := h
  refine ⟨g :: raw, close, rest, rfl, tick, parts raw close rest rfl tick some, ?_⟩
  simp only [List.length_cons]
  omega

/-- The backtick after a template opens no substitution. -/
theorem opens_closing {close : Glyph} (tick : close.is '`') (g : Glyph) (raw rest : Text) :
    opens g (raw ++ close :: rest).head? = opens g raw.head? := by
  cases raw with
  | nil =>
      rw [Trivia.eq_char_of_is tick]
      simp [opens, Glyph.is, Glyph.holds]
  | cons => rfl

/-- Where the scanner finds the end of a template, there is a backtick after a text that falls into
parts. -/
theorem run_closes {p : Place} {t : Text} {n : Nat} {m : Mark}
    (h : (run p.frames n m t).ok) : Closes p t n (run p.frames n m t).length := by
  induction t generalizing p n m with
  | nil => cases p <;> cases h
  | cons g t ih =>
      cases p with
      | text =>
          simp only [Place.frames, run, step] at h ⊢
          by_cases backslash : g.is '\\'
          · simp only [backslash, if_true] at h ⊢
            refine (ih (p := .escaped) h).cons fun raw _ _ _ _ some => ?_
            simpa [backslash] using some
          by_cases closing : g.is '`'
          · simp only [backslash, closing, if_true] at h ⊢
            exact ⟨[], g, t, rfl, closing, rfl, by simp [run]⟩
          by_cases opening : opens g t.head?
          · simp only [backslash, closing, opening, if_true] at h ⊢
            refine (ih (p := .opening) h).cons fun raw close rest same tick some => ?_
            rw [same, opens_closing tick] at opening
            simpa [backslash, opening] using some
          · simp only [backslash, closing, opening] at h ⊢
            refine (ih (p := .text) h).cons fun raw close rest same tick some => ?_
            rw [same, opens_closing tick] at opening
            simpa [backslash, opening] using some
      | escaped => exact (ih (p := .text) h).cons fun raw _ _ _ _ some => by simpa
      | opening => exact (ih (p := .inside (.code 1) []) h).cons fun _ _ _ _ _ => id
      | inside frame outer =>
          simp only [Place.frames, run, step_around] at h ⊢
          cases move : step frame outer g t.head? with
          | fail =>
              rw [move] at h
              cases h
          | go fs whole =>
              simp only [move, Move.around, ← Place.frames_within] at h ⊢
              refine (ih h).cons fun raw close rest same _ some => ?_
              have alone : step frame outer g raw.head? = .go fs whole := by
                cases raw with
                | nil =>
                    obtain rfl := partsFrom_within_nil some
                    exact step_leaving move _
                | cons =>
                    rw [same] at move
                    exact move
              rwa [isSome_partsFrom_inside alone]

/-! Splitting. -/

/-- Whether a place is in the text of the template. -/
def Place.isText : Place → Bool
  | text | escaped => true
  | opening | inside _ _ => false

/-- What is written from a place on, without what opens the substitution there. -/
def Place.content : Place → Text → Text
  | opening, t => t.tail
  | _, t => t

/-- Parts as they are written, text first or a substitution first. -/
def weave : (text : Bool) → List Text → Text
  | _, [] => []
  | _, [part] => part
  | true, part :: parts => part ++ txt "$\x7b" ++ weave false parts
  | false, part :: parts => part ++ txt "\x7d" ++ weave true parts

theorem weave_prepend (text : Bool) (g : Glyph) (parts : List Text) :
    weave text (prepend g parts) = g :: weave text parts := by
  cases parts with
  | nil => cases text <;> rfl
  | cons part parts => cases parts <;> cases text <;> rfl

/-- The outermost frame of a substitution is its code. -/
def IsSubstitution (fs : List Frame) : Prop :=
  ∀ frame ∈ fs.getLast?, ∃ depth, frame = .code depth

/-- A substitution stays one, and it is left at a brace. -/
theorem step_isSubstitution {frame : Frame} {outer fs : List Frame} {g : Glyph} {next : Option Glyph}
    {whole : Bool} (h : step frame outer g next = .go fs whole)
    (code : IsSubstitution (frame :: outer)) : IsSubstitution fs ∧ (fs = [] → g.is '}') := by
  cases outer with
  | nil =>
      obtain ⟨depth, rfl⟩ := code frame rfl
      simp only [step] at h
      split at h
      · cases h
        exact ⟨by simp [IsSubstitution], by simp⟩
      split at h
      · split at h <;> cases h <;> exact ⟨by simp [IsSubstitution], fun _ => ‹_›⟩
      split at h
      · cases h
        exact ⟨by simp [IsSubstitution], by simp⟩
      split at h <;> cases h <;> exact ⟨by simp [IsSubstitution], by simp⟩
  | cons around outer =>
      have whole := step_around frame [] (around :: outer) g next
      rw [List.nil_append, h] at whole
      cases alone : step frame [] g next with
      | fail =>
          rw [alone] at whole
          cases whole
      | go inner =>
          rw [alone] at whole
          cases whole
          refine ⟨fun last mem => code last ?_, by simp⟩
          simpa [List.getLast?_append] using mem

/-- Parts in turn, as they come of a place. -/
structure Spells (place : Place) (t : Text) (parts : List Text) : Prop where
  text : weave place.isText parts = place.content t
  parity : parts.length % 2 = if place.isText then 1 else 0
  some : parts ≠ []

theorem Spells.prepend {place place' : Place} {t : Text} {parts : List Text} {g : Glyph}
    (h : Spells place t parts) (same : place.isText = place'.isText) (content : place.content t = t)
    (content' : place'.content (g :: t) = g :: t) : Spells place' (g :: t) (prepend g parts) where
  text := by rw [weave_prepend, ← same, h.text, content, content']
  parity := by
    rw [← same, ← h.parity]
    cases parts with
    | nil => exact absurd rfl h.some
    | cons => rfl
  some := by cases parts <;> simp [Template.prepend]

/-- A new part begins where a substitution opens or closes. -/
theorem Spells.behind {place place' : Place} {t t' : Text} {parts : List Text}
    (h : Spells place t parts) (other : place'.isText = !place.isText)
    (mark : (if place'.isText then txt "$\x7b" else txt "\x7d") ++ place.content t =
      place'.content t') : Spells place' t' ([] :: parts) where
  text := by
    obtain ⟨part, parts, rfl⟩ := List.exists_cons_of_ne_nil h.some
    rw [← mark, ← h.text, other]
    cases place.isText <;> rfl
  parity := by
    have parity := h.parity
    rw [other, List.length_cons]
    cases isText : place.isText <;> simp [isText] at parity ⊢ <;> omega
  some := List.cons_ne_nil _ _

/-- Parts are what is written, text and substitutions in turn. -/
theorem partsFrom_spells {place : Place} {t : Text} {parts : List Text}
    (h : partsFrom place t = some parts)
    (code : ∀ frame outer, place = .inside frame outer → IsSubstitution (frame :: outer)) :
    Spells place t parts := by
  fun_induction partsFrom place t generalizing parts with
  | case1 | case2 =>
      cases h
      exact ⟨rfl, rfl, List.cons_ne_nil _ _⟩
  | case3 | case4 | case10 => cases h
  | case5 _ _ _ ih | case7 _ _ _ _ ih | case8 _ _ ih =>
      obtain ⟨parts, found, rfl⟩ := Option.map_eq_some_iff.1 h
      exact (ih found (by simp)).prepend rfl rfl rfl
  | case6 g rest _ opening ih =>
      obtain ⟨parts, found, rfl⟩ := Option.map_eq_some_iff.1 h
      refine (ih found (by simp)).behind rfl ?_
      obtain ⟨dollar, brace⟩ := Bool.and_eq_true_iff.1 opening
      obtain ⟨b, there, brace⟩ := (Option.any_eq_true _ _).1 brace
      obtain ⟨rest, rfl⟩ := List.head?_eq_some_iff.1 there
      rw [Trivia.eq_char_of_is dollar, Trivia.eq_char_of_is brace]
      rfl
  | case9 g rest ih =>
      have spells := ih h (by rintro _ _ ⟨⟩; simp [IsSubstitution])
      exact ⟨spells.text, spells.parity, spells.some⟩
  | case11 frame outer g rest _ move ih =>
      obtain ⟨parts, found, rfl⟩ := Option.map_eq_some_iff.1 h
      refine (ih found (by simp)).behind rfl ?_
      rw [Trivia.eq_char_of_is ((step_isSubstitution move (code _ _ rfl)).2 rfl)]
      rfl
  | case12 _ _ _ _ frame outer _ move ih =>
      obtain ⟨parts, found, rfl⟩ := Option.map_eq_some_iff.1 h
      refine (ih found ?_).prepend rfl rfl rfl
      rintro _ _ ⟨⟩
      exact (step_isSubstitution move (code _ _ rfl)).1

/-- The body of a template as it is written: each substitution stands in braces after a dollar sign,
between two chunks of text. -/
def spelling : (chunks sources : List Text) → Text
  | chunk :: chunks, source :: sources =>
    chunk ++ txt "$\x7b" ++ source ++ txt "\x7d" ++ spelling chunks sources
  | chunks, _ => chunks.flatten

theorem weave_eq_spelling {parts : List Text} (odd : parts.length % 2 = 1) :
    weave true parts = spelling (alternate parts) (alternate parts.tail) ∧
      (alternate parts).length = (alternate parts.tail).length + 1 := by
  fun_induction alternate parts with
  | case1 => cases odd
  | case2 => simp [weave, spelling, alternate]
  | case3 chunk source rest ih =>
      cases rest with
      | nil => simp at odd
      | cons next rest =>
          obtain ⟨text, length⟩ := ih (by simp only [List.length_cons] at odd ⊢; omega)
          have sources : alternate (source :: next :: rest) = source :: alternate rest := by
            simp only [alternate]
          simp only [List.tail_cons] at text length
          simp only [List.tail_cons, sources, List.length_cons, length, weave, spelling, ← text,
            List.append_assoc, and_self]

/-- A template falls into one more chunk of text than substitutions, and is written as they are. -/
theorem split?_spells {raw : Text} {body : Body} (h : split? raw = some body) :
    body.chunks.length = body.sources.length + 1 ∧ raw = spelling body.chunks body.sources := by
  obtain ⟨parts, found, rfl⟩ := Option.map_eq_some_iff.1 h
  have spells := partsFrom_spells found (by simp)
  obtain ⟨text, length⟩ := weave_eq_spelling spells.parity
  exact ⟨length, spells.text.symm.trans text⟩

end CoScript.Template

namespace CoScript.Scanner

theorem templateLexeme_splits {m : Mark} {rest : Text}
    (h : (templateLexeme m rest).kind = .template) :
    (Template.split? (templateLexeme m rest).literal).isSome := by
  rw [templateLexeme] at h ⊢
  split at h
  · rename_i ok
    obtain ⟨raw, close, after, rfl, -, parts, length⟩ := Template.run_closes (p := .text) ok
    have body : (raw ++ close :: after).take (1 + raw.length + 1 - 2) = raw := by
      rw [show 1 + raw.length + 1 - 2 = raw.length by omega, List.take_left]
    change (Template.run [.chunk] _ _ _).length = _ at length
    simpa [ok, length, body, Template.split?] using parts
  · cases h

theorem lexeme_splits {divides : Bool} {m : Mark} {g : Glyph} {rest : Text}
    (h : (lexeme divides m g rest).kind = .template) :
    (Template.split? (lexeme divides m g rest).literal).isSome := by
  simp only [lexeme] at h ⊢
  split_ifs at h ⊢ with quote tick hash name number slash
  · simp only [stringLexeme] at h
    split at h <;> cases h
  · exact templateLexeme_splits h
  · simp only [Token.Kind.ofWord] at h
    split at h <;> cases h
  · simp only [regexLexeme] at h
    split at h <;> cases h
  · simp only [operatorLexeme] at h
    split at h <;> cases h

/-- Every template that a scanner takes can be split. -/
theorem next_splits (s : Scanner) (h : s.next.1.kind = .template) :
    (Template.split? s.next.1.literal).isSome := by
  rw [next] at h ⊢
  generalize Trivia.skip .space false s.mark s.rest = e at h ⊢
  obtain ⟨newline, broken, m, rest⟩ := e
  cases broken with
  | true => cases h
  | false =>
      cases rest with
      | nil => cases h
      | cons g rest => exact lexeme_splits h

theorem collect_splits {limit : Nat} {s : Scanner} {t : Token} (ht : t ∈ collect limit s)
    (h : t.kind = .template) : (Template.split? t.literal).isSome := by
  induction limit generalizing s with
  | zero => cases ht
  | succ limit ih =>
      rw [collect] at ht
      dsimp only at ht
      split_ifs at ht
      · obtain rfl := List.mem_singleton.1 ht
        exact s.next_splits h
      · obtain rfl | later := List.mem_cons.1 ht
        · exact s.next_splits h
        · exact ih later

end CoScript.Scanner
