import Mathlib.Algebra.GroupWithZero.Nat
import Mathlib.Data.List.DropRight
import CoScript.Proofs.Token.Tiling

/-!
Columns. Outside of comments, strings, templates and regular expressions every glyph takes one column, and
inside of them every byte does, so what is wide there moves the rest of its line to the right. Only right
behind a backslash a wide glyph may take one column there too.
-/
namespace CoScript

/-! Texts whose glyphs take columns. -/

/-- Glyphs with the columns that each of them takes. -/
abbrev Ruled : Type :=
  List (Glyph × Nat)

namespace Text

/-- Each glyph takes one column. -/
def byGlyphs (t : Text) : Ruled :=
  t.map fun g => (g, 1)

/-- Each byte takes one column. -/
def byBytes (t : Text) : Ruled :=
  t.map fun g => (g, g.size)

/-- What stands behind the last line feed. -/
def lastLine (t : Text) : Text :=
  t.rtakeWhile fun g => !g.is '\n'

end Text

namespace Ruled

/-- The glyphs alone. -/
def text (r : Ruled) : Text :=
  r.map Prod.fst

/-- All the columns together. -/
def width (r : Ruled) : Nat :=
  (r.map Prod.snd).sum

/-- The column behind a text that starts in a column. Behind a line feed the count starts again. -/
def column (c : Nat) (r : Ruled) : Nat :=
  r.foldl (fun c p => if p.1.is '\n' then 1 else c + p.2) c

/-- What stands behind the last line feed. -/
def lastLine (r : Ruled) : Ruled :=
  r.rtakeWhile fun p => !p.1.is '\n'

/-- Every byte takes one column, but a glyph right behind a backslash may take one column as a whole.
`escaped` tells whether a backslash stands in front. -/
def Escapes (escaped : Bool) : Ruled → Prop
  | [] => True
  | (g, n) :: r => (n = g.size ∨ escaped ∧ n = 1) ∧ Escapes (g.is '\\') r

theorem text_append (r s : Ruled) : text (r ++ s) = text r ++ text s :=
  List.map_append

theorem column_append (c : Nat) (r s : Ruled) : column c (r ++ s) = column (column c r) s :=
  List.foldl_append

theorem column_singleton (c : Nat) (g : Glyph) (n : Nat) :
    column c [(g, n)] = if g.is '\n' then 1 else c + n := rfl

@[simp] theorem text_byGlyphs (t : Text) : text t.byGlyphs = t := by
  simp [text, Text.byGlyphs, Function.comp_def]

@[simp] theorem text_byBytes (t : Text) : text t.byBytes = t := by
  simp [text, Text.byBytes, Function.comp_def]

/-- The columns of a line start with one. -/
theorem column_eq (r : Ruled) : r.column 1 = 1 + r.lastLine.width := by
  induction r using List.reverseRecOn with
  | nil => rfl
  | append_singleton r p ih =>
      obtain ⟨g, n⟩ := p
      rw [column_append, column_singleton, lastLine, List.rtakeWhile_concat]
      cases g.is '\n' with
      | true => rfl
      | false =>
          change column 1 r + n = 1 + width (lastLine r ++ [(g, n)])
          rw [ih, width, width, List.map_append, List.sum_append, Nat.add_assoc]
          rfl

theorem text_lastLine (r : Ruled) : r.lastLine.text = r.text.lastLine := by
  induction r using List.reverseRecOn with
  | nil => rfl
  | append_singleton r p ih =>
      rw [text_append, lastLine, Text.lastLine, List.rtakeWhile_concat]
      change _ = List.rtakeWhile _ (text r ++ [p.1])
      rw [List.rtakeWhile_concat]
      cases p.1.is '\n' with
      | true => rfl
      | false => exact (text_append _ [p]).trans (congrArg (· ++ [p.1]) ih)

theorem Escapes.mono {escaped escaped' : Bool} {r : Ruled} (h : Escapes escaped r)
    (more : escaped → escaped') : Escapes escaped' r := by
  cases r with
  | nil => trivial
  | cons p r => exact ⟨h.1.imp_right fun one => ⟨more one.1, one.2⟩, h.2⟩

theorem escapes_byBytes (escaped : Bool) (t : Text) : Escapes escaped t.byBytes := by
  induction t generalizing escaped with
  | nil => trivial
  | cons g t ih => exact ⟨.inl rfl, ih (g.is '\\')⟩

/-- No glyph takes no column, and none takes more columns than bytes. -/
def IsModest (r : Ruled) : Prop :=
  ∀ p ∈ r, 1 ≤ p.2 ∧ p.2 ≤ p.1.size

theorem isModest_byGlyphs (t : Text) : IsModest t.byGlyphs :=
  List.forall_mem_map.2 fun g _ => ⟨Nat.le_refl 1, g.size_pos⟩

theorem isModest_byBytes (t : Text) : IsModest t.byBytes :=
  List.forall_mem_map.2 fun g _ => ⟨g.size_pos, Nat.le_refl _⟩

theorem Escapes.isModest {escaped : Bool} {r : Ruled} (h : Escapes escaped r) : IsModest r := by
  induction r generalizing escaped with
  | nil => exact List.forall_mem_nil _
  | cons p r ih =>
      refine List.forall_mem_cons.2 ⟨?_, ih h.2⟩
      obtain size | ⟨-, one⟩ := h.1
      · exact ⟨size ▸ p.1.size_pos, Nat.le_of_eq size⟩
      · exact ⟨Nat.le_of_eq one.symm, one ▸ p.1.size_pos⟩

/-- A line takes as many columns as it has glyphs only if each of them takes one. -/
theorem IsModest.width {r : Ruled} (h : r.IsModest) :
    r.text.length ≤ r.width ∧ r.width ≤ r.text.byteSize ∧
      (r.width = r.text.length ↔ ∀ p ∈ r, p.2 = 1) := by
  induction r with
  | nil => exact ⟨Nat.le_refl 0, Nat.le_refl 0, by simp [Ruled.width, text]⟩
  | cons p r ih =>
      obtain ⟨⟨pos, size⟩, others⟩ := List.forall_mem_cons.1 h
      obtain ⟨low, high, exact⟩ := ih others
      have width : Ruled.width (p :: r) = p.2 + Ruled.width r := rfl
      have length : (text (p :: r)).length = (text r).length + 1 := rfl
      have bytes : (text (p :: r)).byteSize = p.1.size + (text r).byteSize := rfl
      refine ⟨by omega, by omega, ?_⟩
      rw [List.forall_mem_cons, ← exact]
      omega

end Ruled

namespace Mark

theorem column_past (m : Mark) (g : Glyph) : (m.past g).column = Ruled.column m.column [(g, g.size)] := by
  unfold past
  rw [Ruled.column_singleton]
  split <;> rfl

theorem column_pastWhole (m : Mark) (g : Glyph) :
    (m.pastWhole g).column = Ruled.column m.column [(g, 1)] := by
  unfold pastWhole
  rw [Ruled.column_singleton]
  split <;> rfl

theorem column_pastAll (m : Mark) (t : Text) : (m.pastAll t).column = Ruled.column m.column t.byBytes := by
  induction t generalizing m with
  | nil => rfl
  | cons g t ih =>
      change ((m.past g).pastAll t).column = _
      rw [ih, column_past, ← Ruled.column_append]
      rfl

theorem column_pastAllWhole (m : Mark) (t : Text) :
    (m.pastAllWhole t).column = Ruled.column m.column t.byGlyphs := by
  induction t generalizing m with
  | nil => rfl
  | cons g t ih =>
      change ((m.pastWhole g).pastAllWhole t).column = _
      rw [ih, column_pastWhole, ← Ruled.column_append]
      rfl

end Mark

/-! Trivia. -/

namespace Trivia

/-- How the glyphs of trivia count: those of comments by bytes, and those of blank space one by one. A
comment is over, or it is open at the end. -/
inductive IsRuled : Ruled → Prop
  | nil : IsRuled []
  | space {g : Glyph} {r : Ruled} (blank : isBlank g) (rest : IsRuled r) : IsRuled ((g, 1) :: r)
  | line {body : Text} {r : Ruled} (inside : Within (txt "\n") body) (rest : IsRuled r) :
      IsRuled ((txt "//" ++ body ++ txt "\n").byBytes ++ r)
  | block {body : Text} {r : Ruled} (inside : Within (txt "*/") body) (rest : IsRuled r) :
      IsRuled ((txt "/*" ++ body ++ txt "*/").byBytes ++ r)
  | openLine {body : Text} (inside : Within (txt "\n") body) : IsRuled (txt "//" ++ body).byBytes
  | openBlock {body : Text} (inside : Within (txt "*/") body) : IsRuled (txt "/*" ++ body).byBytes

theorem IsRuled.isModest {r : Ruled} (h : IsRuled r) : r.IsModest := by
  induction h with
  | nil => exact List.forall_mem_nil _
  | @space g r blank rest ih => exact List.forall_mem_cons.2 ⟨⟨Nat.le_refl 1, g.size_pos⟩, ih⟩
  | line inside rest ih | block inside rest ih =>
      exact List.forall_mem_append.2 ⟨Ruled.isModest_byBytes _, ih⟩
  | openLine inside | openBlock inside => exact Ruled.isModest_byBytes _

/-- Trivia at the start of a text, as an extent says, that count so. -/
def Counts (m : Mark) (t : Text) (e : Extent) : Prop :=
  ∃ r, t = r.text ++ e.rest ∧ IsRuled r ∧ e.mark.column = r.column m.column

/-- Blank space and comments that are over come before other trivia. -/
theorem Counts.prepend {m m' : Mark} {t : Text} {e : Extent} (h : Counts m' t e) {r : Ruled}
    (onward : ∀ {r'}, IsRuled r' → IsRuled (r ++ r')) (leads : m'.column = r.column m.column) :
    Counts m (r.text ++ t) e := by
  obtain ⟨r', rfl, ruled, column⟩ := h
  refine ⟨r ++ r', ?_, onward ruled, ?_⟩
  · rw [Ruled.text_append, List.append_assoc]
  · rw [column, leads, Ruled.column_append]

theorem size_of_is {g : Glyph} {c : Char} (h : g.is c) : g.size = c.utf8Size := by
  rw [eq_char_of_is h]
  rfl

theorem skip_counts (newline : Bool) (m : Mark) (t : Text) :
    Counts m t (skip .space newline m t) := by
  induction long : t.length using Nat.strong_induction_on generalizing newline m t with
  | _ n ih =>
  cases t with
  | nil => exact ⟨[], rfl, .nil, rfl⟩
  | cons g rest =>
      have step {newline : Bool} {m' : Mark} (blank : isBlank g)
          (leads : m'.column = Ruled.column m.column [(g, 1)]) :
          Counts m (g :: rest) (skip .space newline m' rest) :=
        (ih rest.length (by rw [← long]; exact Nat.lt_succ_self _) newline m' rest rfl).prepend
          (.space blank) leads
      have narrow {c : Char} (one : c.utf8Size = 1) (here : g.is c) :
          (m.past g).column = Ruled.column m.column [(g, 1)] := by
        rw [m.column_past, size_of_is here, one]
      rw [skip]
      split
      · rename_i line
        refine step (by simp_all [isBlank]) ?_
        obtain here | here := Bool.or_eq_true_iff.1 line <;> exact narrow rfl here
      split
      · rename_i blank
        refine step (by simp_all [isBlank]) ?_
        simp only [Bool.or_eq_true, or_assoc] at blank
        obtain here | here | here | here := blank <;> exact narrow rfl here
      split
      · rename_i wide
        exact step (by simp [isBlank, wide]) (m.column_pastWhole g)
      split
      · rename_i opening
        obtain ⟨rest, rfl, rfl⟩ := eq_of_pair opening
        have second : skip .lineComment newline (m.past (.char '/')) (.char '/' :: rest) =
          skip .lineComment newline ((m.past (.char '/')).past (.char '/')) rest := rfl
        obtain ⟨body, tail, rfl, inside, ⟨more, rfl, finished⟩ | ⟨halts, finished⟩⟩ :=
          skip_lineComment newline ((m.past (.char '/')).past (.char '/')) rest
        · have later (m' : Mark) := ih more.length (by simp at long; omega) true m' more rfl
          have comment := (later _).prepend (m := m) (.line inside) (m.column_pastAll _)
          rw [second, finished]
          simpa [txt, Mark.pastAll] using comment
        · rw [second, finished]
          exact ⟨(txt "//" ++ body).byBytes, by simp [txt], .openLine inside,
            m.column_pastAll (txt "//" ++ body)⟩
      split
      · rename_i opening
        obtain ⟨rest, rfl, rfl⟩ := eq_of_pair opening
        have second : skip .blockOpening newline (m.past (.char '/')) (.char '*' :: rest) =
          skip .blockComment newline ((m.past (.char '/')).past (.char '*')) rest := rfl
        obtain ⟨body, tail, newline', rfl, inside, ⟨more, rfl, finished⟩ | ⟨halts, finished⟩⟩ :=
          skip_blockComment newline ((m.past (.char '/')).past (.char '*')) rest
        · have later (m' : Mark) := ih more.length (by simp at long; omega) newline' m' more rfl
          have comment := (later _).prepend (m := m) (.block inside) (m.column_pastAll _)
          rw [second, finished]
          simpa [txt, Mark.pastAll] using comment
        · rw [second, finished]
          exact ⟨(txt "/*" ++ body).byBytes, by simp [txt], .openBlock inside,
            m.column_pastAll (txt "/*" ++ body)⟩
      · exact ⟨[], rfl, .nil, rfl⟩

end Trivia

/-! Strings and templates. -/

namespace Quotation

/-- Only behind a backslash a glyph counts as a whole, and only a backslash escapes. -/
theorem step_go {quote : Char} {mode mode' : Mode} {g : Glyph} {next : Option Glyph}
    {piece : Option Piece} {whole : Bool} (h : step quote mode g next = .go mode' piece whole) :
    (whole → mode = .escape) ∧ (mode' = .escape → g.is '\\') := by
  have plain (h : plainStep quote g = .go mode' piece whole) :
      (whole → mode = .escape) ∧ (mode' = .escape → g.is '\\') := by
    unfold plainStep at h
    split_ifs at h with closes ends slash
    · cases h
      exact ⟨by rintro ⟨⟩, fun _ => slash⟩
    · cases h
      exact ⟨by rintro ⟨⟩, by rintro ⟨⟩⟩
  have digit {due value : Nat} {unicode : Bool} (h : hexStep due value unicode g = .go mode' piece whole) :
      (whole → mode = .escape) ∧ (mode' = .escape → g.is '\\') := by
    unfold hexStep at h
    split_ifs at h <;> cases h <;> exact ⟨by rintro ⟨⟩, by rintro ⟨⟩⟩
  cases mode with
  | plain => exact plain h
  | escape =>
      refine ⟨fun _ => rfl, ?_⟩
      simp only [step, escapeStep] at h
      split at h
      · cases h
        rintro ⟨⟩
      split at h
      · cases h
      split at h
      · cases h
        rintro ⟨⟩
      split_ifs at h <;> cases h <;> rintro ⟨⟩
  | afterReturn =>
      simp only [step] at h
      split_ifs at h
      · cases h
        exact ⟨by rintro ⟨⟩, by rintro ⟨⟩⟩
      · exact plain h
  | hex due value unicode => exact digit h
  | unicode =>
      simp only [step] at h
      split_ifs at h
      · cases h
        exact ⟨by rintro ⟨⟩, by rintro ⟨⟩⟩
      · exact digit h
  | braced count value =>
      simp only [step, bracedStep] at h
      split_ifs at h <;> cases h <;> exact ⟨by rintro ⟨⟩, by rintro ⟨⟩⟩

end Quotation

/-- Some glyphs at the start of a text that count so and lead to a column. -/
def Mark.Rules (m : Mark) (D : Ruled → Prop) (t : Text) (n : Nat) (m' : Mark) : Prop :=
  ∃ r : Ruled, r.text = t.take n ∧ D r ∧ m'.column = r.column m.column

namespace Mark.Rules

variable {m m' m₁ : Mark} {g : Glyph} {t : Text} {n : Nat} {escaped : Bool}

theorem none (m : Mark) (t : Text) : m.Rules (Ruled.Escapes escaped) t 0 m :=
  ⟨[], rfl, trivial, rfl⟩

/-- One more glyph in front, which may count as a whole behind a backslash. -/
theorem cons (whole : Bool) (here : whole → escaped)
    (rest : (Quotation.advance whole m g).Rules (Ruled.Escapes (g.is '\\')) t n m') :
    m.Rules (Ruled.Escapes escaped) (g :: t) (n + 1) m' := by
  obtain ⟨r, text, escapes, column⟩ := rest
  refine ⟨(g, if whole then 1 else g.size) :: r, congrArg (g :: ·) text, ⟨?_, escapes⟩, ?_⟩
  · cases whole with
    | true => exact .inr ⟨here rfl, rfl⟩
    | false => exact .inl rfl
  · rw [column]
    cases whole with
    | true => exact congrArg (Ruled.column · r) (m.column_pastWhole g)
    | false => exact congrArg (Ruled.column · r) (m.column_past g)

theorem one : m.Rules (Ruled.Escapes escaped) (g :: t) 1 (m.past g) :=
  .cons false (by rintro ⟨⟩) (.none _ t)

end Mark.Rules

theorem Quotation.run_rules (quote : Char) (mode : Mode) (escaped : Bool)
    (behind : mode = .escape → escaped) (pieces : List Piece) (length : Nat) (m : Mark) (t : Text) :
    ∃ n, (run quote mode pieces length m t).length = length + n ∧
      m.Rules (Ruled.Escapes escaped) t n (run quote mode pieces length m t).mark := by
  induction t generalizing mode escaped pieces length m with
  | nil => exact ⟨0, rfl, .none m []⟩
  | cons g rest ih =>
      rw [run]
      split
      · rename_i past _
        cases past with
        | true => exact ⟨1, rfl, .one⟩
        | false => exact ⟨0, rfl, .none m _⟩
      · exact ⟨1, rfl, .one⟩
      · rename_i mode' piece whole go
        obtain ⟨here, next⟩ := step_go go
        obtain ⟨n, long, rules⟩ :=
          ih mode' (g.is '\\') next (piece.toList ++ pieces) (length + 1) (advance whole m g)
        exact ⟨n + 1, by rw [long]; omega, .cons whole (fun h => behind (here h)) rules⟩

namespace Template

/-- Whether a frame is a string of a substitution. -/
def Frame.isQuotation : Frame → Bool
  | quotation _ _ => true
  | _ => false

/-- Whether the innermost frame is a string behind a backslash. -/
def IsEscaped (frames : List Frame) : Prop :=
  ∃ quote, frames.head? = some (.quotation quote .escape)

/-- Only the innermost frame may be a string. -/
def IsFlat (frames : List Frame) : Prop :=
  ∀ frame ∈ frames.tail, frame.isQuotation = false

theorem IsFlat.outer {frame : Frame} {outer : List Frame} (h : IsFlat (frame :: outer)) : IsFlat outer :=
  fun frame' mem => h frame' (List.mem_of_mem_tail mem)

theorem IsFlat.not_escaped {frame : Frame} {outer : List Frame} (h : IsFlat (frame :: outer)) :
    ¬ IsEscaped outer := by
  rintro ⟨quote, innermost⟩
  cases h _ (List.mem_of_head? innermost)

theorem step_go {frame : Frame} {outer frames : List Frame} {g : Glyph} {next : Option Glyph} {whole : Bool}
    (flat : IsFlat (frame :: outer)) (h : step frame outer g next = .go frames whole) :
    (whole → IsEscaped (frame :: outer)) ∧ (IsEscaped frames → g.is '\\') ∧ IsFlat frames := by
  have other {frame : Frame} {frames : List Frame} (plain : frame.isQuotation = false) :
      IsEscaped (frame :: frames) → g.is '\\' := by
    rintro ⟨quote, ⟨⟩⟩
    cases plain
  have left : IsEscaped outer → g.is '\\' := fun escaped => absurd escaped flat.not_escaped
  cases frame with
  | chunk =>
      simp only [step] at h
      split_ifs at h <;> cases h
      · exact ⟨by rintro ⟨⟩, other rfl, flat⟩
      · exact ⟨by rintro ⟨⟩, left, flat.outer⟩
      · exact ⟨by rintro ⟨⟩, other rfl, List.forall_mem_cons.2 ⟨rfl, flat⟩⟩
      · exact ⟨by rintro ⟨⟩, other rfl, flat⟩
  | chunkEscape | opening =>
      cases h
      exact ⟨by rintro ⟨⟩, other rfl, flat⟩
  | code depth =>
      simp only [step] at h
      split_ifs at h <;> cases h
      · exact ⟨by rintro ⟨⟩, other rfl, flat⟩
      · exact ⟨by rintro ⟨⟩, left, flat.outer⟩
      · exact ⟨by rintro ⟨⟩, other rfl, flat⟩
      · exact ⟨by rintro ⟨⟩, by rintro ⟨_, ⟨⟩⟩, List.forall_mem_cons.2 ⟨rfl, flat⟩⟩
      · exact ⟨by rintro ⟨⟩, other rfl, List.forall_mem_cons.2 ⟨rfl, flat⟩⟩
      · exact ⟨by rintro ⟨⟩, other rfl, flat⟩
  | quotation quote mode =>
      simp only [step] at h
      split at h
      · cases h
      · cases h
        exact ⟨by rintro ⟨⟩, left, flat.outer⟩
      · rename_i mode' piece whole' go
        cases h
        obtain ⟨here, next⟩ := Quotation.step_go go
        refine ⟨fun h => ⟨quote, by rw [here h]; rfl⟩, ?_, flat⟩
        rintro ⟨_, ⟨⟩⟩
        exact next rfl

theorem run_rules (frames : List Frame) (flat : IsFlat frames) (escaped : Bool)
    (behind : IsEscaped frames → escaped) (length : Nat) (m : Mark) (t : Text) :
    ∃ n, (run frames length m t).length = length + n ∧
      m.Rules (Ruled.Escapes escaped) t n (run frames length m t).mark := by
  induction t generalizing frames escaped length m with
  | nil => cases frames <;> exact ⟨0, rfl, .none m []⟩
  | cons g rest ih =>
      cases frames with
      | nil => exact ⟨0, rfl, .none m _⟩
      | cons frame outer =>
          rw [run]
          split
          · rename_i past _
            cases past with
            | true => exact ⟨1, rfl, .one⟩
            | false => exact ⟨0, rfl, .none m _⟩
          · rename_i frames whole go
            obtain ⟨here, next, flat⟩ := step_go flat go
            obtain ⟨n, long, rules⟩ := ih frames flat _ next (length + 1) (Quotation.advance whole m g)
            exact ⟨n + 1, by rw [long]; omega, .cons whole (fun h => behind (here h)) rules⟩

end Template

/-! Tokens. -/

/-- How the glyphs of a token count: those of words one by one, and all others by bytes. In strings and
templates a glyph may count as a whole behind a backslash, and so may one that starts no token. -/
def Token.Kind.Rules : Kind → Ruled → Prop
  | .identifier, r | .privateName, r | .keyword _, r => r = r.text.byGlyphs
  | .number, r | .regex, r | .operator _, r | .eof, r => r = r.text.byBytes
  | .string, r | .template, r => r.Escapes false
  | .illegal, r => r.Escapes false ∨ ∃ g, r = [(g, 1)]

theorem Token.Kind.Rules.isModest {r : Ruled} {k : Kind} (h : k.Rules r) : r.IsModest := by
  cases k with
  | identifier | privateName | keyword => exact h.symm ▸ Ruled.isModest_byGlyphs _
  | number | regex | operator | eof => exact h.symm ▸ Ruled.isModest_byBytes _
  | string | template => exact Ruled.Escapes.isModest h
  | illegal =>
      obtain escapes | ⟨g, rfl⟩ := h
      · exact escapes.isModest
      · exact Ruled.isModest_byGlyphs [g]

namespace Scanner

variable {g : Glyph} {rest : Text}

/-- Words take one column for each glyph. -/
theorem rules_word {k : Token.Kind} (word : ∀ r : Ruled, k.Rules r ↔ r = r.text.byGlyphs) (m : Mark)
    {raw t : Text} (start : raw <+: t) : m.Rules k.Rules t raw.length (m.pastAllWhole raw) := by
  refine ⟨raw.byGlyphs, ?_, (word _).2 (by rw [Ruled.text_byGlyphs]), m.column_pastAllWhole raw⟩
  rw [Ruled.text_byGlyphs]
  exact List.prefix_iff_eq_take.1 start

/-- Other texts take one column for each byte. -/
theorem rules_pastAll (k : Token.Kind) (plain : ∀ t : Text, k.Rules t.byBytes) (m : Mark) (t : Text)
    (n : Nat) : m.Rules k.Rules t n (m.pastAll (t.take n)) :=
  ⟨Text.byBytes (t.take n), Ruled.text_byBytes _, plain _, m.column_pastAll _⟩

theorem rules_bytes (k : Token.Kind) (plain : ∀ t : Text, k.Rules t.byBytes) (m : Mark) {raw t : Text}
    (start : raw <+: t) : m.Rules k.Rules t raw.length (m.pastAll raw) := by
  have bytes := rules_pastAll k plain m t raw.length
  rwa [← List.prefix_iff_eq_take.1 start] at bytes

theorem rules_illegal (t : Text) : Token.Kind.illegal.Rules t.byBytes :=
  .inl (Ruled.escapes_byBytes false t)

theorem stringLexeme_rules (quote : Char) (m : Mark) (rest : Text) :
    m.Rules (stringLexeme quote m rest).kind.Rules (.char quote :: rest) (stringLexeme quote m rest).length
      (stringLexeme quote m rest).stop := by
  obtain ⟨n, long, rules⟩ := Quotation.run_rules quote .plain ((Glyph.char quote).is '\\')
    (by rintro ⟨⟩) [] 1 (m.past (.char quote)) rest
  have whole : m.Rules (Ruled.Escapes false) (.char quote :: rest) (n + 1) _ :=
    .cons false (by rintro ⟨⟩) rules
  rw [Nat.add_comm, ← long] at whole
  rw [stringLexeme]
  split
  · exact whole
  · obtain ⟨r, text, escapes, column⟩ := whole
    exact ⟨r, text, .inl escapes, column⟩

theorem templateLexeme_rules (m : Mark) (rest : Text) :
    m.Rules (templateLexeme m rest).kind.Rules (.char '`' :: rest) (templateLexeme m rest).length
      (templateLexeme m rest).stop := by
  obtain ⟨n, long, rules⟩ := Template.run_rules [.chunk] (List.forall_mem_nil _) false
    (by rintro ⟨_, ⟨⟩⟩) 1 (m.past (.char '`')) rest
  have whole : m.Rules (Ruled.Escapes false) (.char '`' :: rest) (n + 1) _ :=
    .cons false (by rintro ⟨⟩) rules
  rw [Nat.add_comm, ← long] at whole
  rw [templateLexeme]
  split
  · exact whole
  · obtain ⟨r, text, escapes, column⟩ := whole
    exact ⟨r, text, .inl escapes, column⟩

theorem lexeme_rules (divides : Bool) (m : Mark) (g : Glyph) (rest : Text) :
    m.Rules (lexeme divides m g rest).kind.Rules (g :: rest) (lexeme divides m g rest).length
      (lexeme divides m g rest).stop := by
  rw [lexeme]
  dsimp only
  split
  · rename_i quote
    obtain ⟨c, rfl⟩ : ∃ c, g = .char c := by
      cases g with
      | char c => exact ⟨c, rfl⟩
      | stray b => cases quote
    exact stringLexeme_rules c m rest
  split
  · rename_i tick
    obtain rfl := Trivia.eq_char_of_is tick
    exact templateLexeme_rules m rest
  split
  · exact rules_word (fun _ => .rfl) m ((List.prefix_cons_inj g).2 (List.takeWhile_prefix _))
  split
  · refine rules_word (fun r => ?_) m (List.takeWhile_prefix _)
    unfold Token.Kind.ofWord
    split <;> exact .rfl
  split
  · exact rules_bytes .number (fun t => by rw [Token.Kind.Rules, Ruled.text_byBytes]) m (List.take_prefix _ _)
  split
  · rw [regexLexeme]
    split
    · exact rules_pastAll .regex (fun t => by rw [Token.Kind.Rules, Ruled.text_byBytes]) m _ _
    · exact rules_pastAll .illegal rules_illegal m _ _
    · exact rules_pastAll .illegal rules_illegal m _ _
  · rw [operatorLexeme]
    split
    · rename_i o left found
      obtain ⟨spelled, -, -⟩ := Operator.leading?_longest found
      exact rules_bytes (.operator o) (fun t => by rw [Token.Kind.Rules, Ruled.text_byBytes]) m
        (spelled ▸ List.prefix_append _ _)
    · exact ⟨[(g, 1)], rfl, .inr ⟨g, rfl⟩, m.column_pastWhole g⟩

/-- One call: trivia that lead to the column of a token, and the token, which leads on. -/
theorem next_rules (s : Scanner) :
    ∃ trivia token : Ruled, s.rest = trivia.text ++ (s.next.1.raw ++ s.next.2.rest) ∧
      Trivia.IsRuled trivia ∧ s.next.1.column = trivia.column s.mark.column ∧
      token.text = s.next.1.raw ∧ s.next.1.kind.Rules token ∧
      s.next.2.mark.column = token.column s.next.1.column := by
  obtain ⟨trivia, split, ruled, column⟩ := Trivia.skip_counts false s.mark s.rest
  rw [next]
  generalize Trivia.skip .space false s.mark s.rest = e at split column
  obtain ⟨newline, broken, m, rest⟩ := e
  cases broken with
  | true => exact ⟨trivia, [], split, ruled, column, rfl, .inl trivial, rfl⟩
  | false =>
      cases rest with
      | nil => exact ⟨trivia, [], split, ruled, column, rfl, rfl, rfl⟩
      | cons g rest =>
          dsimp only
          generalize s.previous.any endsOperand = divides
          obtain ⟨token, text, rules, onward⟩ := lexeme_rules divides m g rest
          refine ⟨trivia, token, ?_, ruled, column, text, rules, onward⟩
          simp only [Bool.false_eq_true, if_false]
          rw [List.take_append_drop]
          exact split

end Scanner

namespace Token

/-- How the glyphs in front of a token of a script count: trivia and the tokens before it in turn. -/
inductive RuledTo (script : List UInt8) : Nat → Ruled → Prop
  | first {r : Ruled} (trivia : Trivia.IsRuled r) : RuledTo script 0 r
  | next {i : Nat} {before token r : Ruled} (others : RuledTo script i before)
      (text : token.text = (nth script i).raw) (here : (nth script i).kind.Rules token)
      (trivia : Trivia.IsRuled r) : RuledTo script (i + 1) (before ++ token ++ r)

theorem RuledTo.isModest {script : List UInt8} {i : Nat} {r : Ruled} (h : RuledTo script i r) :
    r.IsModest := by
  induction h with
  | first trivia => exact trivia.isModest
  | next others text here trivia ih =>
      exact List.forall_mem_append.2 ⟨List.forall_mem_append.2 ⟨ih, here.isModest⟩, trivia.isModest⟩

end Token

namespace Scanner

theorem call_rules (script : List UInt8) (i : Nat) :
    let s : Scanner := { rest := Text.ofBytes script }
    ∃ before token : Ruled, Token.RuledTo script i before ∧
      Text.ofBytes script = before.text ++ ((s.call i).1.raw ++ (s.call i).2.rest) ∧
      (s.call i).1.column = before.column 1 ∧ token.text = (s.call i).1.raw ∧
      (s.call i).1.kind.Rules token ∧ (s.call i).2.mark.column = token.column (s.call i).1.column := by
  intro s
  induction i with
  | zero =>
      obtain ⟨trivia, token, split, ruled, column, text, rules, onward⟩ := s.next_rules
      exact ⟨trivia, token, .first ruled, split, column, text, rules, onward⟩
  | succ i ih =>
      obtain ⟨before, token, others, split, column, text, rules, onward⟩ := ih
      obtain ⟨trivia, token', split', ruled, column', text', rules', onward'⟩ := (s.call i).2.next_rules
      rw [← call_succ] at split' column' text' rules' onward'
      refine ⟨before ++ token ++ trivia, token', .next others text rules ruled, ?_, ?_,
        text', rules', onward'⟩
      · rw [split, split', Ruled.text_append, Ruled.text_append, text]
        simp only [List.append_assoc]
      · rw [column', onward, column, ← Ruled.column_append, ← Ruled.column_append, List.append_assoc]

end Scanner

/-- What is in front of a token of a script is read from the bytes in front of it. -/
theorem Token.Stands.front {script : List UInt8} {behind : Nat} {t : Token} (h : t.Stands script behind)
    {m : Mark} {before left : Text} (ahead : m.Ahead script left) (stop : m.offset = t.stop)
    (split : Text.ofBytes script = before ++ (t.raw ++ left)) :
    before = Text.ofBytes (script.take t.start) := by
  obtain ⟨others, bytes, -, alone⟩ := Text.ofBytes_eq_append split
  have here : Text.ofBytes before.toBytes = before := by
    have whole := alone [] List.nil_prefix
    rwa [List.append_nil, show Text.ofBytes [] = [] from rfl, List.append_nil] at whole
  have size : before.toBytes.length = t.start := by
    have sizes := congrArg Text.byteSize split
    have raw := congrArg Text.byteSize h.raw
    have behind := congrArg Text.byteSize ahead.text
    rw [Text.byteSize_append, Text.byteSize_append, Text.byteSize_ofBytes] at sizes
    rw [Text.byteSize_ofBytes, slice, List.length_take, List.length_drop] at raw
    rw [Text.byteSize_ofBytes, List.length_drop, stop] at behind
    have bounds := And.intro h.start_le h.stop_le
    rw [Text.length_toBytes]
    omega
  rw [bytes, ← size, List.take_left, here]

/-- The column of a token is one more than the columns that the glyphs in front of it on its line take, each
of them at least one and at most one for each of its bytes. It counts the glyphs exactly if each of them
takes one column. -/
theorem Token.scan_column (script : List UInt8) (i : Nat) :
    let front := Text.ofBytes (script.take (nth script i).start)
    ∃ r : Ruled, RuledTo script i r ∧ r.text = front ∧
      (nth script i).column = 1 + r.lastLine.width ∧
      1 + front.lastLine.length ≤ (nth script i).column ∧
      (nth script i).column ≤ 1 + front.lastLine.byteSize ∧
      ((nth script i).column = 1 + front.lastLine.length ↔ ∀ p ∈ r.lastLine, p.2 = 1) := by
  obtain ⟨r, -, ruled, split, column, -, -, -⟩ := Scanner.call_rules script i
  obtain ⟨stands, ahead, stop⟩ :=
    Scanner.call_stands (s := { rest := Text.ofBytes script }) (.start script) i
  have text : r.text = Text.ofBytes (script.take (nth script i).start) := stands.front ahead stop split
  have modest : r.lastLine.IsModest := fun p hp =>
    ruled.isModest p ((List.rtakeWhile_suffix _ r).subset hp)
  obtain ⟨low, high, exact⟩ := modest.width
  have columns : (nth script i).column = 1 + r.lastLine.width := column.trans r.column_eq
  rw [Ruled.text_lastLine, text] at low high exact
  refine ⟨r, ruled, text, columns, by omega, by omega, ?_⟩
  rw [← exact, columns]
  omega

/-- A wide letter in a comment takes two columns, so the name behind it is said to be in column eight,
although only six glyphs are in front of it. -/
theorem Token.comment_widens :
    let script := (txt "/*é*/ x").toBytes
    (nth script 0).kind = .identifier ∧ (nth script 0).column = 8 ∧
      (Text.ofBytes (script.take (nth script 0).start)).lastLine.length = 6 := by
  decide

end CoScript
