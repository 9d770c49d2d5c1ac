import CoScript.Proofs.Token.Word

/-!
Phrases: lists of words that may be written one after another, and how they are put together.
-/
namespace CoScript

namespace Word

/-- An operator as a word. -/
def sign (o : Operator) (gap : Gap := .none) : Word :=
  ⟨.operator o, txt o.spelling, gap⟩

/-- A reserved word as a word. -/
def reserved (k : Keyword) (gap : Gap := .none) : Word :=
  ⟨.keyword k, txt k.spelling, gap⟩

/-- An operator or a reserved word, by how it is written. -/
def ofText (t : Text) (gap : Gap := .none) : Word :=
  ⟨match Operator.ofText? t with
    | some o => .operator o
    | none => .ofWord t, t, gap⟩

/-- Words with space in front of them. -/
def spaced (gap : Gap) : List Word → List Word
  | [] => []
  | w :: ws => { w with gap := gap } :: ws

/-- Words between two brackets. -/
def enclosed (opening closing : Operator) (ws : List Word) : List Word :=
  sign opening :: (ws ++ [sign closing])

/-- Words, in parentheses if a condition holds. -/
def grouped (condition : Bool) (ws : List Word) : List Word :=
  if condition then enclosed .parenOpen .parenClose ws else ws

/-- Phrases with commas between them. -/
def separated : List (List Word) → List Word
  | [] => []
  | ws :: wss => ws ++ wss.flatMap fun vs => sign .comma :: spaced .blank vs

theorem sign_sound (o : Operator) (gap : Gap) (plain : o ≠ .optionalDot ∧ o ≠ .arrow) :
    (sign o gap).Sound :=
  ⟨rfl, plain⟩

theorem reserved_sound (k : Keyword) (gap : Gap) : (reserved k gap).Sound :=
  readsAs_keyword k

/-- Whether a text is an operator or a reserved word. -/
def isKnown (t : Text) : Bool :=
  match Operator.ofText? t with
  | some o => o != .optionalDot && o != .arrow
  | none => (Keyword.ofText? t).isSome

theorem ofText_sound {t : Text} (known : isKnown t) (gap : Gap) : (ofText t gap).Sound := by
  rw [isKnown] at known
  cases operator : Operator.ofText? t with
  | some o =>
      rw [operator] at known
      have spelled : txt o.spelling = t := by simpa using List.find?_some operator
      simp only [ofText, operator]
      exact ⟨spelled.symm, by simpa using known⟩
  | none =>
      rw [operator] at known
      obtain ⟨k, word⟩ := Option.isSome_iff_exists.1 known
      have spelled : txt k.spelling = t := by simpa using List.find?_some word
      have read := readsAs_keyword k
      simp only [ofText, operator, Token.Kind.ofWord, word]
      rwa [spelled] at read

theorem Sound.spaced {w : Word} (h : w.Sound) (gap : Gap) : Sound { w with gap := gap } := h

theorem Before.of_spaced {u v : Word} {gap : Gap} (h : Before u v) : Before { u with gap := gap } v :=
  ⟨h.ends, h.divides⟩

theorem spaced_ne_nil {gap : Gap} {ws : List Word} (h : ws ≠ []) : spaced gap ws ≠ [] := by
  cases ws with
  | nil => exact absurd rfl h
  | cons w ws => exact List.cons_ne_nil _ _

@[simp] theorem length_spaced (gap : Gap) (ws : List Word) : (spaced gap ws).length = ws.length := by
  cases ws <;> rfl

/-- Words that may be written one after another. -/
structure Run (ws : List Word) : Prop where
  sound : ∀ w ∈ ws, w.Sound
  chain : ws.IsChain Before

namespace Run

theorem singleton {w : Word} (h : w.Sound) : Run [w] :=
  ⟨by simpa using h, .singleton w⟩

theorem append {ws vs : List Word} (hw : Run ws) (hv : Run vs)
    (meet : ∀ u ∈ ws.getLast?, ∀ v ∈ vs.head?, u.Before v) : Run (ws ++ vs) := by
  refine ⟨fun w hw' => ?_, List.isChain_append.2 ⟨hw.chain, hv.chain, meet⟩⟩
  exact (List.mem_append.1 hw').elim (hw.sound w) (hv.sound w)

theorem cons {w : Word} {ws : List Word} (hw : w.Sound) (h : Run ws)
    (meet : ∀ v ∈ ws.head?, w.Before v) : Run (w :: ws) := by
  refine (singleton hw).append h fun u hu v hv => ?_
  obtain rfl := Option.some.inj hu
  exact meet v hv

theorem spaced {ws : List Word} (h : Run ws) (gap : Gap) : Run (spaced gap ws) := by
  cases ws with
  | nil => exact h
  | cons w ws =>
      refine ⟨fun v hv => ?_, ?_⟩
      · obtain rfl | hv := List.mem_cons.1 hv
        · exact (h.sound w List.mem_cons_self).spaced gap
        · exact h.sound v (List.mem_cons_of_mem w hv)
      · cases ws with
        | nil => exact .singleton _
        | cons v vs =>
            obtain ⟨first, rest⟩ := List.isChain_cons_cons.1 h.chain
            exact List.isChain_cons_cons.2 ⟨first.of_spaced, rest⟩

end Run

/-- Words that may stand after a space, whatever the word before it is. -/
structure Clause (ws : List Word) : Prop extends Run ws where
  first : ∃ w ∈ ws.head?, w.divides = false ∧ w.gap = .none

namespace Clause

variable {ws vs : List Word}

theorem ne_nil (h : Clause ws) : ws ≠ [] := by
  rintro rfl
  obtain ⟨w, hw, -⟩ := h.first
  cases hw

theorem singleton {w : Word} (sound : w.Sound) (divides : w.divides = false) (gap : w.gap = .none) :
    Clause [w] :=
  ⟨.singleton sound, w, rfl, divides, gap⟩

theorem extend (h : Clause ws) (run : Run (ws ++ vs)) : Clause (ws ++ vs) := by
  obtain ⟨w, hw, first⟩ := h.first
  exact ⟨run, w, (List.head?_append_of_ne_nil _ h.ne_nil).trans hw, first⟩

/-- Words after a space. -/
theorem apart (h : Clause vs) (hw : Run ws) {gap : Gap} (space : gap ≠ .none) :
    Run (ws ++ Word.spaced gap vs) := by
  refine hw.append (h.toRun.spaced gap) fun u hu v hv => ?_
  obtain ⟨w, hw', divides, -⟩ := h.first
  cases vs with
  | nil => cases hw'
  | cons v vs =>
      obtain rfl := Option.some.inj hw'
      obtain rfl := Option.some.inj hv
      refine (hw.sound u (List.mem_of_getLast? hu)).before (fun slash => ?_) fun none => absurd none space
      exact absurd (divides.symm.trans slash) Bool.false_ne_true

theorem blank (hw : Clause ws) (hv : Clause vs) : Clause (ws ++ Word.spaced .blank vs) :=
  hw.extend (hv.apart hw.toRun nofun)

/-- A closing sign after words. -/
theorem closing (h : Clause ws) {o : Operator} (ho : o ∈ [.parenClose, .semicolon]) :
    Clause (ws ++ [sign o]) := by
  have single : o ≠ .optionalDot ∧ o ≠ .arrow := by
    revert ho
    cases o <;> decide
  refine h.extend (h.toRun.append (.singleton (sign_sound o .none single)) ?_)
  intro u hu v hv
  obtain rfl := Option.some.inj hv
  exact (h.sound u (List.mem_of_getLast? hu)).before_closing rfl rfl ho

theorem spell_spaced (h : Clause ws) (gap : Gap) : spell (Word.spaced gap ws) = gap.text ++ spell ws := by
  obtain ⟨v, hv, -, none⟩ := h.first
  cases ws with
  | nil => cases hv
  | cons w ws =>
      obtain rfl := Option.some.inj hv
      simp [Word.spaced, spell_cons, print, none, Gap.text]

end Clause

/-- Words that can be an expression. -/
structure Phrase (ws : List Word) : Prop extends Run ws where
  opens : ∃ w ∈ ws.head?, w.opens ∧ w.gap = .none
  closes : ∃ w ∈ ws.getLast?, w.closes

namespace Phrase

variable {ws vs : List Word}

theorem ne_nil (h : Phrase ws) : ws ≠ [] := by
  rintro rfl
  obtain ⟨w, hw, -⟩ := h.opens
  cases hw

theorem singleton {w : Word} (sound : w.Sound) (opens : w.opens) (closes : w.closes)
    (gap : w.gap = .none) : Phrase [w] :=
  ⟨.singleton sound, ⟨w, rfl, opens, gap⟩, ⟨w, rfl, closes⟩⟩

theorem clause (h : Phrase ws) : Clause ws := by
  obtain ⟨w, hw, opens, gap⟩ := h.opens
  exact ⟨h.toRun, w, hw, opens_not_divides opens, gap⟩

/-- What is known of the first word. -/
theorem first (h : Phrase ws) (gap : Gap) {v : Word} (hv : v ∈ (spaced gap ws).head?) :
    v.Sound ∧ v.opens ∧ v.gap = gap := by
  cases ws with
  | nil => cases hv
  | cons w ws =>
      obtain ⟨u, hu, opens, -⟩ := h.opens
      obtain rfl := Option.some.inj hu
      obtain rfl := Option.some.inj hv
      exact ⟨(h.sound w List.mem_cons_self).spaced gap, opens, rfl⟩

theorem spaced_none (h : Phrase ws) : Word.spaced .none ws = ws := by
  cases ws with
  | nil => rfl
  | cons w ws =>
      obtain ⟨u, hu, -, gap⟩ := h.opens
      obtain rfl := Option.some.inj hu
      rw [Word.spaced, ← gap]

/-- What is known of the last word. -/
theorem last (h : Phrase ws) {u : Word} (hu : u ∈ ws.getLast?) : u.Sound ∧ u.closes := by
  obtain ⟨w, hw, closes⟩ := h.closes
  obtain rfl := Option.some.inj (hu.symm.trans hw)
  exact ⟨h.sound u (List.mem_of_getLast? hu), closes⟩

theorem closes_spaced (h : Phrase ws) (gap : Gap) : ∃ w ∈ (Word.spaced gap ws).getLast?, w.closes := by
  obtain ⟨w, hw, closes⟩ := h.closes
  cases ws with
  | nil => cases hw
  | cons v vs =>
      cases vs with
      | nil =>
          obtain rfl := Option.some.inj hw
          exact ⟨_, rfl, closes⟩
      | cons u us =>
          rw [List.getLast?_cons_cons] at hw
          exact ⟨w, by rwa [Word.spaced, List.getLast?_cons_cons], closes⟩

/-- A word that goes on after a phrase, and what goes on after that. -/
theorem append (hw : Phrase ws) (hv : Run vs) (meet : ∀ u ∈ ws.getLast?, ∀ v ∈ vs.head?, u.Before v)
    (closes : ∃ w ∈ vs.getLast?, w.closes) : Phrase (ws ++ vs) := by
  refine ⟨hw.toRun.append hv meet, ?_, ?_⟩
  · obtain ⟨w, first, opens⟩ := hw.opens
    exact ⟨w, (List.head?_append_of_ne_nil _ hw.ne_nil).trans first, opens⟩
  · obtain ⟨w, last, closes⟩ := closes
    exact ⟨w, by simp [List.getLast?_append, Option.mem_def.1 last], closes⟩

/-- A blank lets a phrase follow every word. -/
theorem after {u : Word} (hu : u.Sound) (h : Phrase ws) : Run (u :: Word.spaced .blank ws) :=
  h.clause.apart (.singleton hu) nofun

/-- Two phrases with a word between them. -/
theorem between (hw : Phrase ws) (hv : Phrase vs) {w : Word} (sound : w.Sound)
    (meet : ∀ u : Word, u.Sound → u.closes → u.Before w) :
    Phrase (ws ++ w :: Word.spaced .blank vs) := by
  refine hw.append (hv.after sound) (fun u hu v hv => ?_) ?_
  · obtain rfl := Option.some.inj hv
    obtain ⟨sound, closes⟩ := hw.last hu
    exact meet u sound closes
  · obtain ⟨u, hu, closes⟩ := hv.closes_spaced .blank
    exact ⟨u, by simp [List.getLast?_cons, Option.mem_def.1 hu], closes⟩

/-- Two phrases with an operator between them that has blanks around it. -/
theorem operation (hw : Phrase ws) (hv : Phrase vs) {w : Word} (sound : w.Sound)
    (gap : w.gap = .blank) : Phrase (ws ++ w :: Word.spaced .blank vs) := by
  refine hw.between hv sound fun u hu closes => ?_
  refine hu.before (fun _ => closes_endsOperand closes) fun none => ?_
  rw [gap] at none
  contradiction

/-- A phrase after a word that goes before its operand. -/
theorem operand (h : Phrase ws) {w : Word} (opens : w.opens) (none : w.gap = .none) {gap : Gap}
    (run : Run (w :: Word.spaced gap ws)) : Phrase (w :: Word.spaced gap ws) := by
  refine ⟨run, ⟨w, rfl, opens, none⟩, ?_⟩
  obtain ⟨u, hu, closes⟩ := h.closes_spaced gap
  exact ⟨u, by simp [List.getLast?_cons, Option.mem_def.1 hu], closes⟩

end Phrase

/-- The two kinds of brackets. -/
def Brackets (opening closing : Operator) : Prop :=
  (opening = .parenOpen ∧ closing = .parenClose) ∨ (opening = .bracketOpen ∧ closing = .bracketClose)

namespace Brackets

variable {opening closing : Operator} {ws vs : List Word}

theorem run (h : Brackets opening closing) (hw : ws = [] ∨ Phrase ws) :
    Run (enclosed opening closing ws) := by
  have left : (sign opening).Sound ∧ (opening = .parenOpen ∨ opening = .bracketOpen) := by
    obtain ⟨rfl, -⟩ | ⟨rfl, -⟩ := h
    · exact ⟨sign_sound .parenOpen .none (by decide), .inl rfl⟩
    · exact ⟨sign_sound .bracketOpen .none (by decide), .inr rfl⟩
  have right : (sign closing).Sound ∧ (sign closing).divides = false ∧
      closing ∈ [.parenOpen, .parenClose, .bracketOpen, .bracketClose, .comma] := by
    obtain ⟨-, rfl⟩ | ⟨-, rfl⟩ := h
    · exact ⟨sign_sound .parenClose .none (by decide), rfl, by decide⟩
    · exact ⟨sign_sound .bracketClose .none (by decide), rfl, by decide⟩
  obtain rfl | phrase := hw
  · refine .cons left.1 (.singleton right.1) fun v hv => ?_
    obtain rfl := Option.some.inj hv
    exact left.1.bracket_before rfl left.2 right.2.1
  · refine .cons left.1 (phrase.toRun.append (.singleton right.1) fun u hu v hv => ?_) fun v hv => ?_
    · obtain rfl := Option.some.inj hv
      obtain ⟨sound, closes⟩ := phrase.last hu
      exact sound.before_bracket closes rfl rfl right.2.2
    · rw [List.head?_append_of_ne_nil _ phrase.ne_nil] at hv
      rw [← phrase.spaced_none] at hv
      exact left.1.bracket_before rfl left.2 (opens_not_divides (phrase.first .none hv).2.1)

theorem closes (h : Brackets opening closing) (ws : List Word) :
    ∃ w ∈ (enclosed opening closing ws).getLast?, w.closes := by
  refine ⟨sign closing, by simp [enclosed, List.getLast?_cons], ?_⟩
  obtain ⟨-, rfl⟩ | ⟨-, rfl⟩ := h <;> rfl

/-- Brackets after a phrase. -/
theorem following (h : Brackets opening closing) (hw : Phrase ws) (hv : vs = [] ∨ Phrase vs) :
    Phrase (ws ++ enclosed opening closing vs) := by
  refine hw.append (h.run hv) (fun u hu v hv => ?_) (h.closes vs)
  obtain rfl := Option.some.inj hv
  obtain ⟨sound, closes⟩ := hw.last hu
  refine sound.before_bracket closes rfl rfl ?_
  obtain ⟨rfl, -⟩ | ⟨rfl, -⟩ := h <;> decide

end Brackets

namespace Phrase

variable {ws : List Word}

theorem enclosed (h : Phrase ws) : Clause (Word.enclosed .parenOpen .parenClose ws) :=
  ⟨Brackets.run (.inl ⟨rfl, rfl⟩) (.inr h), sign .parenOpen, rfl, rfl, rfl⟩

theorem grouped (h : Phrase ws) (condition : Bool) : Phrase (grouped condition ws) := by
  cases condition with
  | false => exact h
  | true =>
      have parens : Brackets .parenOpen .parenClose := .inl ⟨rfl, rfl⟩
      exact ⟨parens.run (.inr h), ⟨sign .parenOpen, rfl, rfl, rfl⟩, parens.closes ws⟩

/-- Phrases with commas between them. -/
theorem separated {wss : List (List Word)} (h : ∀ ws ∈ wss, Phrase ws) :
    separated wss = [] ∨ Phrase (separated wss) := by
  cases wss with
  | nil => exact .inl rfl
  | cons ws wss =>
      refine .inr ?_
      obtain ⟨first, rest⟩ := List.forall_mem_cons.1 h
      clear h
      rw [Word.separated]
      induction wss generalizing ws with
      | nil => simpa using first
      | cons vs wss ih =>
          obtain ⟨second, rest⟩ := List.forall_mem_cons.1 rest
          have comma := first.between second (sign_sound .comma .none (by decide))
            fun u sound closes => sound.before_bracket closes rfl rfl (by decide)
          simpa using ih _ comma rest

end Phrase

end Word

end CoScript
