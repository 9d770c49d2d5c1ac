import CoScript.Proofs.Text.Bytes
import CoScript.Proofs.Text.Canonical
import CoScript.Proofs.Text.Name
import CoScript.Proofs.Token.Lexeme

/-!
How far lexemes reach. Whatever a scanner of one kind of token does on its way, a lexeme takes some of
the glyphs ahead and at least one, and the place behind it is the place its text leads to: as many bytes
on as the text has, and as many lines down as the text has line feeds. Columns are counted by bytes in
some scanners and by glyphs in others, so only their start is fixed.
-/
namespace CoScript

/-- A text leads from one place to another. -/
structure Mark.Leads (m : Mark) (t : Text) (m' : Mark) : Prop where
  offset : m'.offset = m.offset + t.byteSize
  line : m'.line = m.line + t.countP (·.is '\n')
  column : 1 ≤ m.column → 1 ≤ m'.column

namespace Mark

theorem Leads.nil (m : Mark) : m.Leads [] m :=
  ⟨rfl, rfl, id⟩

theorem Leads.trans {m m₁ m₂ : Mark} {a b : Text} (first : m.Leads a m₁) (second : m₁.Leads b m₂) :
    m.Leads (a ++ b) m₂ where
  offset := by rw [second.offset, first.offset, Text.byteSize_append, Nat.add_assoc]
  line := by rw [second.line, first.line, List.countP_append, Nat.add_assoc]
  column := second.column ∘ first.column

theorem size_newline {g : Glyph} (h : g.is '\n') : g.size = 1 := by
  cases g with
  | stray b => cases h
  | char c =>
      obtain rfl : c = '\n' := eq_of_beq h
      rfl

theorem leads_past (m : Mark) (g : Glyph) : m.Leads [g] (m.past g) := by
  rw [past]
  split
  · rename_i newline
    exact ⟨by simp [size_newline newline], by simp [newline], fun _ => Nat.le_refl 1⟩
  · rename_i other
    exact ⟨by simp, by simp [other], fun h => Nat.le_add_right_of_le h⟩

theorem leads_two (m : Mark) (g h : Glyph) : m.Leads [g, h] ((m.past g).past h) :=
  (m.leads_past g).trans (leads_past _ h)

theorem leads_pastWhole (m : Mark) (g : Glyph) : m.Leads [g] (m.pastWhole g) := by
  rw [pastWhole]
  split
  · rename_i newline
    exact ⟨by simp [size_newline newline], by simp [newline], fun _ => Nat.le_refl 1⟩
  · rename_i other
    exact ⟨by simp, by simp [other], fun h => Nat.le_add_right_of_le h⟩

theorem leads_foldl {step : Mark → Glyph → Mark} (h : ∀ m g, Leads m [g] (step m g)) (m : Mark)
    (t : Text) : m.Leads t (t.foldl step m) := by
  induction t generalizing m with
  | nil => exact .nil m
  | cons g t ih => exact (h m g).trans (ih (step m g))

theorem leads_pastAll (m : Mark) (t : Text) : m.Leads t (m.pastAll t) :=
  leads_foldl leads_past m t

theorem leads_advance (whole : Bool) (m : Mark) (g : Glyph) :
    m.Leads [g] (Quotation.advance whole m g) := by
  cases whole with
  | true => exact leads_pastWhole m g
  | false => exact leads_past m g

end Mark

/-! Strings and templates: automata that take one glyph at a time. -/

/-- Some glyphs at the start of a text that lead to a place. -/
def Mark.Reaches (m : Mark) (t : Text) (n : Nat) (m' : Mark) : Prop :=
  n ≤ t.length ∧ m.Leads (t.take n) m'

namespace Mark.Reaches

variable {m m' m₁ : Mark} {g : Glyph} {t : Text} {n : Nat}

theorem none (m : Mark) (t : Text) : m.Reaches t 0 m :=
  ⟨Nat.zero_le _, .nil m⟩

theorem cons (first : m.Leads [g] m₁) (rest : m₁.Reaches t n m') : m.Reaches (g :: t) (n + 1) m' :=
  ⟨Nat.succ_le_succ rest.1, first.trans rest.2⟩

theorem one (first : m.Leads [g] m') : m.Reaches (g :: t) 1 m' :=
  .cons first (.none m' t)

end Mark.Reaches

attribute [local simp] Quotation.step Quotation.run Template.step Template.run

theorem Quotation.run_reaches (quote : Char) (mode : Mode) (pieces : List Piece) (length : Nat)
    (m : Mark) (t : Text) : ∃ n, (run quote mode pieces length m t).length = length + n ∧
      m.Reaches t n (run quote mode pieces length m t).mark := by
  induction t generalizing mode pieces length m with
  | nil => exact ⟨0, rfl, .none m []⟩
  | cons g rest ih =>
      rw [run]
      split
      · rename_i past _
        cases past with
        | true => exact ⟨1, rfl, .one (m.leads_past g)⟩
        | false => exact ⟨0, rfl, .none m _⟩
      · exact ⟨1, rfl, .one (m.leads_past g)⟩
      · rename_i mode piece whole _
        obtain ⟨n, long, reaches⟩ := ih mode (piece.toList ++ pieces) (length + 1) (advance whole m g)
        exact ⟨n + 1, by rw [long]; omega, .cons (m.leads_advance whole g) reaches⟩

theorem Template.run_reaches (frames : List Frame) (length : Nat) (m : Mark) (t : Text) :
    ∃ n, (run frames length m t).length = length + n ∧ m.Reaches t n (run frames length m t).mark := by
  induction t generalizing frames length m with
  | nil => cases frames <;> exact ⟨0, rfl, .none m []⟩
  | cons g rest ih =>
      cases frames with
      | nil => exact ⟨0, rfl, .none m _⟩
      | cons frame outer =>
          rw [run]
          split
          · rename_i past _
            cases past with
            | true => exact ⟨1, rfl, .one (m.leads_past g)⟩
            | false => exact ⟨0, rfl, .none m _⟩
          · rename_i frames whole _
            obtain ⟨n, long, reaches⟩ := ih frames (length + 1) (Quotation.advance whole m g)
            exact ⟨n + 1, by rw [long]; omega, .cons (m.leads_advance whole g) reaches⟩

namespace Template

/-- Whether the outermost frame is the text of a template. -/
def IsOpen (frames : List Frame) : Prop :=
  frames.getLast? = some .chunk ∨ frames.getLast? = some .chunkEscape

theorem IsOpen.cons {frames : List Frame} (h : IsOpen frames) (frame : Frame) :
    IsOpen (frame :: frames) := by
  cases frames with
  | nil => simp [IsOpen] at h
  | cons inner outer => simpa only [IsOpen, List.getLast?_cons_cons] using h

theorem IsOpen.outer {frame : Frame} {outer : List Frame} (h : IsOpen (frame :: outer))
    (inner : frame ≠ .chunk ∧ frame ≠ .chunkEscape) : IsOpen outer := by
  cases outer with
  | nil => simp [IsOpen, inner] at h
  | cons _ _ => simpa only [IsOpen, List.getLast?_cons_cons] using h

theorem IsOpen.replace {frame frame' : Frame} {outer : List Frame} (h : IsOpen (frame :: outer))
    (text : frame' = .chunk ∨ frame' = .chunkEscape) : IsOpen (frame' :: outer) := by
  cases outer with
  | nil => simpa [IsOpen] using text
  | cons _ _ => simpa only [IsOpen, List.getLast?_cons_cons] using h

/-- Only a backtick ends the text of a template. -/
theorem step_open {frame : Frame} {outer frames : List Frame} {g : Glyph} {next : Option Glyph}
    {whole : Bool} (h : IsOpen (frame :: outer)) (go : step frame outer g next = .go frames whole) :
    IsOpen frames ∨ frames = [] ∧ g = .char '`' := by
  cases frame with
  | chunk =>
      simp only [step] at go
      split at go
      · cases go
        exact .inl (h.replace (.inr rfl))
      split at go
      · rename_i tick
        cases go
        cases outer with
        | nil =>
            refine .inr ⟨rfl, ?_⟩
            cases g with
            | stray b => cases tick
            | char c => rw [show c = '`' from eq_of_beq tick]
        | cons _ _ => exact .inl (by simpa only [IsOpen, List.getLast?_cons_cons] using h)
      split at go
      · cases go
        exact .inl (h.cons .opening)
      · cases go
        exact .inl h
  | chunkEscape =>
      cases go
      exact .inl (h.replace (.inl rfl))
  | opening =>
      cases go
      exact .inl ((h.outer (by simp)).cons _)
  | code depth =>
      have outside := h.outer (by simp)
      simp only [step] at go
      split at go
      · cases go
        exact .inl (outside.cons _)
      split at go
      · split at go
        · cases go
          exact .inl outside
        · cases go
          exact .inl (outside.cons _)
      split at go
      · cases go
        exact .inl (h.cons _)
      split at go
      · cases go
        exact .inl (h.cons _)
      · cases go
        exact .inl h
  | quotation quote mode =>
      have outside := h.outer (by simp)
      simp only [step] at go
      split at go
      · cases go
      · cases go
        exact .inl outside
      · cases go
        exact .inl (outside.cons _)

theorem run_ok {frames : List Frame} {length : Nat} {m : Mark} {t : Text} (h : IsOpen frames)
    (ok : (run frames length m t).ok) :
    ∃ (body rest : Text), t = body ++ Glyph.char '`' :: rest ∧
      (run frames length m t).length = length + body.length + 1 := by
  induction t generalizing frames length m with
  | nil =>
      cases frames with
      | nil => simp [IsOpen] at h
      | cons frame outer => cases ok
  | cons g rest ih =>
      cases frames with
      | nil => simp [IsOpen] at h
      | cons frame outer =>
          rw [run] at ok ⊢
          split at ok
          · cases ok
          · rename_i frames whole go
            obtain inside | ⟨rfl, rfl⟩ := step_open h go
            · obtain ⟨body, rest, rfl, long⟩ := ih inside ok
              exact ⟨g :: body, rest, rfl, by rw [long, List.length_cons]; omega⟩
            · refine ⟨[], rest, rfl, ?_⟩
              cases rest <;> rfl

end Template

/-! Regular expressions, names and operators. -/

namespace RegexLiteral

theorem flags_length (seen : List Char) (length : Nat) (t : Text) :
    length ≤ (flags seen length t).length ∧ (flags seen length t).length ≤ length + t.length := by
  fun_induction flags seen length t with
  | case1 => simp
  | case2 seen length c rest _ _ ih =>
      rw [List.length_cons]
      omega
  | case3 => simp
  | case4 => simp

theorem body_length (inBrackets : Bool) (length : Nat) (t : Text) :
    length ≤ (body inBrackets length t).length ∧
      (body inBrackets length t).length ≤ length + t.length := by
  fun_induction body inBrackets length t with
  | case1 | case2 | case3 | case4 => simp
  | case5 | case6 | case7 | case9 =>
      simp only [List.length_cons]
      omega
  | case8 inBrackets length g rest =>
      have flags := flags_length [] (length + 1) rest
      rw [List.length_cons]
      omega

end RegexLiteral

namespace Operator

/-- Whether an operator may stand at the start of a text. A question mark and a point do not belong
together before a digit. -/
def Fits (o : Operator) (t : Text) : Prop :=
  ∃ rest, t = txt o.spelling ++ rest ∧ (o = .optionalDot → ∀ g ∈ rest.head?, g.holds Char.isDigit = false)

theorem all_sorted :
    all.Pairwise fun a b => (txt b.spelling).length ≤ (txt a.spelling).length := by
  decide

/-- The longest operator that fits is taken. -/
theorem leading?_longest {t rest : Text} {o : Operator} (h : leading? t = some (o, rest)) :
    t = txt o.spelling ++ rest ∧ o.Fits t ∧
      ∀ o' : Operator, o'.Fits t → (txt o'.spelling).length ≤ (txt o.spelling).length := by
  obtain ⟨before, o₁, after, split, found, missed⟩ := List.findSome?_eq_some_iff.1 h
  split at found
  · cases found
  rename_i rest₁ reads
  obtain ⟨whole, same⟩ := Option.ite_none_left_eq_some.1 found
  obtain ⟨rfl, rfl⟩ := Prod.mk.inj (Option.some.inj same)
  have spelled := Text.after_eq_some.1 reads
  refine ⟨spelled, ⟨rest₁, spelled, fun dot g hg => ?_⟩, fun o' ⟨rest', spelled', whole'⟩ => ?_⟩
  · obtain ⟨tail, rfl⟩ : ∃ tail, rest₁ = g :: tail := by
      cases rest₁ with
      | nil => cases hg
      | cons _ tail => exact ⟨tail, by rw [Option.mem_some.1 hg]⟩
    simpa [dot] using whole
  · -- an operator that fits is not passed over, so it comes no earlier in the list
    have later : o' ∉ before := fun mem => by
      have none := missed o' mem
      rw [Text.after_eq_some.2 spelled'] at none
      cases rest' with
      | nil => simp at none
      | cons g tail =>
          obtain ⟨dot, digit⟩ : o' = .optionalDot ∧ g.holds Char.isDigit := by simpa using none
          exact absurd digit (by simp [whole' dot g rfl])
    have sorted := all_sorted
    rw [split] at sorted
    have among := mem_all o'
    rw [split, List.mem_append] at among
    obtain rfl | among := List.mem_cons.1 (among.resolve_left later)
    · exact Nat.le_refl _
    · exact (List.pairwise_cons.1 (List.pairwise_append.1 sorted).2.1).1 o' among

end Operator

/-- A point belongs to a number if a digit follows. -/
theorem Numeral.takesPoint_of_isDigit {g : Glyph} (digit : g.holds Char.isDigit) (rest : Text) :
    takesPoint (g :: rest) := by
  cases g with
  | stray b => cases digit
  | char c =>
      have digit : c.isDigit := digit
      have small : c.toNat < 0x80 := by
        simp only [Char.isDigit, Bool.and_eq_true, decide_eq_true_eq, UInt32.le_iff_toNat_le] at digit
        exact Nat.lt_of_le_of_lt (m := 57) digit.2 (by decide)
      simp only [takesPoint, Glyph.bytes, Text.encode_ascii small, Bool.not_eq_true']
      rw [UInt8.toNat_ofNat', Nat.mod_eq_of_lt (by omega), Char.ofNat_toNat]
      exact isNameStart_of_isDigit digit

theorem Numeral.length_pos {t : Text} (h : starts t) : 0 < length t := by
  cases t with
  | nil => cases h
  | cons g rest =>
      have decimal : 0 < body.decimal (g :: rest) := by
        simp only [body.decimal]
        obtain digit | point := Bool.or_eq_true_iff.1 h
        · have whole : 0 < digits Char.isDigit false (g :: rest) := by simp [digits, digit]
          omega
        · obtain ⟨dot, digit⟩ := Bool.and_eq_true_iff.1 point
          have none : digits Char.isDigit false (g :: rest) = 0 := by
            have apart : g.holds Char.isDigit = false := by
              cases g with
              | char c =>
                  obtain rfl : c = '.' := eq_of_beq dot
                  rfl
              | stray b => rfl
            simp [digits, apart]
          have part : 0 < fraction (g :: rest) := by
            cases rest with
            | nil => cases digit
            | cons d rest =>
                have digit : d.holds Char.isDigit := by simpa using digit
                simp [fraction, dot, takesPoint_of_isDigit digit rest]
          simp only [none, List.drop_zero]
          omega
      have positive : 0 < body (g :: rest) := by
        unfold body
        split
        · split
          · exact Nat.succ_pos _
          · exact decimal
        · exact decimal
      rw [length]
      split
      · exact Nat.succ_pos _
      · exact positive

namespace Scanner

variable {divides : Bool} {m : Mark} {g : Glyph} {rest : Text}

theorem nameAt_cons (h : g.holds isNameStart) : nameAt (g :: rest) = g :: nameAt rest := by
  cases g with
  | stray b => cases h
  | char c => exact List.takeWhile_cons_of_pos (isNamePart_of_isNameStart h)

theorem reaches_foldl {step : Mark → Glyph → Mark} (h : ∀ m g, Mark.Leads m [g] (step m g)) (m : Mark)
    {raw t : Text} (start : raw <+: t) : m.Reaches t raw.length (raw.foldl step m) := by
  have raw_eq := List.prefix_iff_eq_take.1 start
  exact ⟨start.length_le, raw_eq ▸ m.leads_foldl h raw⟩

theorem stringLexeme_reaches (quote : Char) (m : Mark) (rest : Text) :
    0 < (stringLexeme quote m rest).length ∧
      m.Reaches (.char quote :: rest) (stringLexeme quote m rest).length
        (stringLexeme quote m rest).stop := by
  obtain ⟨n, long, reaches⟩ :=
    Quotation.run_reaches quote .plain [] 1 (m.past (.char quote)) rest
  have whole := Mark.Reaches.cons (m.leads_past (.char quote)) reaches
  rw [Nat.add_comm, ← long] at whole
  rw [stringLexeme]
  split
  · exact ⟨by dsimp only; omega, whole⟩
  · exact ⟨by simp only [Lexeme.illegal]; omega, whole⟩

theorem templateLexeme_reaches (m : Mark) (rest : Text) :
    0 < (templateLexeme m rest).length ∧
      m.Reaches (.char '`' :: rest) (templateLexeme m rest).length (templateLexeme m rest).stop := by
  obtain ⟨n, long, reaches⟩ := Template.run_reaches [.chunk] 1 (m.past (.char '`')) rest
  have whole := Mark.Reaches.cons (m.leads_past (.char '`')) reaches
  rw [Nat.add_comm, ← long] at whole
  rw [templateLexeme]
  split
  · exact ⟨by dsimp only; omega, whole⟩
  · exact ⟨by simp only [Lexeme.illegal]; omega, whole⟩

theorem regexLexeme_reaches (m : Mark) (g : Glyph) (rest : Text) :
    0 < (regexLexeme m (g :: rest) rest).length ∧
      m.Reaches (g :: rest) (regexLexeme m (g :: rest) rest).length
        (regexLexeme m (g :: rest) rest).stop := by
  have bounds := RegexLiteral.body_length false 1 rest
  have whole : m.Reaches (g :: rest) (RegexLiteral.body false 1 rest).length
      (m.pastAll ((g :: rest).take (RegexLiteral.body false 1 rest).length)) :=
    ⟨by rw [List.length_cons]; omega, m.leads_foldl Mark.leads_past _⟩
  rw [regexLexeme]
  split
  · exact ⟨by dsimp only; omega, whole⟩
  · exact ⟨by simp only [Lexeme.illegal]; omega, whole⟩
  · exact ⟨by simp only [Lexeme.illegal]; omega, whole⟩

theorem operatorLexeme_reaches (m : Mark) (g : Glyph) (rest : Text) :
    0 < (operatorLexeme m g rest).length ∧
      m.Reaches (g :: rest) (operatorLexeme m g rest).length (operatorLexeme m g rest).stop := by
  rw [operatorLexeme]
  split
  · rename_i o left found
    obtain ⟨spelled, -, -⟩ := Operator.leading?_longest found
    refine ⟨?_, reaches_foldl Mark.leads_past m ⟨left, spelled.symm⟩⟩
    exact List.length_pos_iff.2 (by cases o <;> decide)
  · exact ⟨Nat.one_pos, .one (m.leads_pastWhole g)⟩

theorem lexeme_reaches (divides : Bool) (m : Mark) (g : Glyph) (rest : Text) :
    0 < (lexeme divides m g rest).length ∧
      m.Reaches (g :: rest) (lexeme divides m g rest).length (lexeme divides m g rest).stop := by
  rw [lexeme]
  dsimp only
  split
  · rename_i quote
    obtain ⟨c, rfl⟩ : ∃ c, g = .char c := by
      cases g with
      | char c => exact ⟨c, rfl⟩
      | stray b => cases quote
    exact stringLexeme_reaches c m rest
  split
  · rename_i tick
    obtain rfl : g = .char '`' := by
      cases g with
      | char c => rw [show c = '`' from eq_of_beq tick]
      | stray b => cases tick
    exact templateLexeme_reaches m rest
  split
  · refine ⟨Nat.succ_pos _, reaches_foldl Mark.leads_pastWhole m ?_⟩
    exact (List.prefix_cons_inj g).2 (List.takeWhile_prefix _)
  split
  · rename_i name
    refine ⟨?_, reaches_foldl Mark.leads_pastWhole m (List.takeWhile_prefix _)⟩
    rw [nameAt_cons name]
    exact Nat.succ_pos _
  split
  · rename_i number
    refine ⟨?_, reaches_foldl Mark.leads_past m (List.take_prefix _ _)⟩
    have pos := Numeral.length_pos number
    exact List.length_pos_iff.2 fun none => by simp at none; omega
  split
  · exact regexLexeme_reaches m g rest
  · exact operatorLexeme_reaches m g rest

/-- What the literal of a token is, given the text of the token and the text it stands in front of. A
string and an illegal token mean something else than how they are written. -/
def Means (raw rest literal : Text) : Token.Kind → Prop
  | .number | .regex | .keyword _ => literal = raw
  | .identifier => literal = composed raw
  | .template => raw = .char '`' :: (literal ++ [.char '`'])
  | .operator o => literal = raw ∧ raw = txt o.spelling ∧ o.Fits (raw ++ rest) ∧
      ∀ o' : Operator, o'.Fits (raw ++ rest) → (txt o'.spelling).length ≤ raw.length
  | .illegal | .eof | .privateName | .string => True

/-- A reserved word is written as it is spelled: composition makes none of anything else. -/
theorem composed_of_keyword {raw : Text} {k : Keyword} (name : ∀ g ∈ raw, g.holds isNamePart)
    (h : Token.Kind.ofWord (composed raw) = .keyword k) : composed raw = raw := by
  have known : txt k.spelling = composed raw := by
    rw [Token.Kind.ofWord] at h
    split at h
    · rename_i k' found
      obtain rfl : k' = k := by injection h
      rw [Keyword.ofText?] at found
      have same := List.find?_some found
      exact of_decide_eq_true same
    · cases h
  have chars : Text.ofChars raw.toChars = raw := by
    rw [Text.ofChars, Text.toChars, List.map_map]
    refine (List.map_congr_left fun g hg => ?_).trans (List.map_id raw)
    cases g with
    | char c => rfl
    | stray b => cases name _ hg
  have spelled : k.spelling.toList = Canonical.compose raw.toChars :=
    List.map_injective_iff.2 (fun _ _ same => Glyph.char.inj same) known
  have small : ∀ c ∈ k.spelling.toList, Canonical.isSmall c.toNat := by
    cases k <;> exact forall_mem_of_all (by decide)
  rw [composed, ← spelled, ← Canonical.eq_of_compose_small spelled.symm small, chars]

theorem lexeme_means (divides : Bool) (m : Mark) (g : Glyph) (rest : Text) :
    Means ((g :: rest).take (lexeme divides m g rest).length)
      ((g :: rest).drop (lexeme divides m g rest).length) (lexeme divides m g rest).literal
      (lexeme divides m g rest).kind := by
  rw [lexeme]
  dsimp only
  split
  · rw [stringLexeme]
    split <;> trivial
  split
  · rename_i tick
    obtain rfl : g = .char '`' := by
      cases g with
      | char c => rw [show c = '`' from eq_of_beq tick]
      | stray b => cases tick
    rw [templateLexeme]
    split
    · rename_i ok
      obtain ⟨body, left, rfl, long⟩ := Template.run_ok (.inl rfl) ok
      change List.take _ _ = _
      rw [long]
      have inside : 1 + body.length + 1 - 2 = body.length := by omega
      have outside : 1 + body.length + 1 = body.length + 2 := by omega
      rw [inside, outside, List.take_left]
      simp [List.take_append, List.take_of_length_le]
    · trivial
  split
  · trivial
  split
  · rename_i name
    have whole : (g :: rest).take (nameAt (g :: rest)).length = nameAt (g :: rest) :=
      (List.prefix_iff_eq_take.1 (List.takeWhile_prefix _)).symm
    rw [whole]
    cases kind : Token.Kind.ofWord (composed (nameAt (g :: rest))) with
    | keyword k => exact composed_of_keyword (fun g hg => List.mem_takeWhile_imp hg) kind
    | identifier => rfl
    | _ =>
      rw [Token.Kind.ofWord] at kind
      split at kind <;> cases kind
  split
  · change _ = _
    rw [List.length_take, List.take_eq_take_min]
  split
  · rw [regexLexeme]
    split
    · rfl
    · trivial
    · trivial
  · rw [operatorLexeme]
    split
    · rename_i o left found
      obtain ⟨spelled, fits, longest⟩ := Operator.leading?_longest found
      have whole : (g :: rest).take (txt o.spelling).length = txt o.spelling := by
        rw [spelled, List.take_left]
      refine ⟨whole.symm, whole, ?_, ?_⟩
      · rwa [List.take_append_drop]
      · rwa [List.take_append_drop, whole]
    · trivial

theorem lexeme_ne_eof (divides : Bool) (m : Mark) (g : Glyph) (rest : Text) :
    (lexeme divides m g rest).kind ≠ .eof := by
  cases name : g.holds isNameStart with
  | true =>
      simp only [lexeme_name name, Token.Kind.ofWord]
      split <;> rintro ⟨⟩
  | false =>
      cases number : Numeral.starts (g :: rest) with
      | true =>
          rw [lexeme_number number]
          rintro ⟨⟩
      | false =>
          intro finished
          simpa using lexeme_other name number finished

end Scanner

end CoScript
