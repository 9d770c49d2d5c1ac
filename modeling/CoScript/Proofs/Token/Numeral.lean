import CoScript.Print.Grouping
import CoScript.Token.Numeral

/-!
Numbers before other text. Where a number ends does not depend on what follows it, as long as that is
punctuation; only a point may still be taken for a part of the number.
-/
namespace CoScript

/-- The characters that may follow a number without a blank. -/
def closers : List Char := [' ', '\n', '\r', '(', ')', '[', ']', ',', '.', ';']

/-- What is to hold of each character of a list is decided along the list: deciding it as a statement
about all characters would run through every one there is. -/
theorem forall_mem_of_all {p : Char → Prop} [DecidablePred p] {l : List Char}
    (h : l.all (decide <| p ·)) : ∀ c ∈ l, p c := by
  simpa using h

/-- A text that ends, or goes on with punctuation. -/
def Closes (rest : Text) : Prop :=
  ∀ g ∈ rest.head?, ∃ c ∈ closers, g = .char c

theorem closes_nil : Closes [] := nofun

namespace Closes

variable {rest : Text}

theorem head {g : Glyph} (h : Closes (g :: rest)) {p : Char → Bool}
    (hp : ∀ c ∈ closers, p c = false) : g.holds p = false := by
  obtain ⟨c, hc, rfl⟩ := h g rfl
  exact hp c hc

theorem head_any (h : Closes rest) {p : Char → Bool} (hp : ∀ c ∈ closers, p c = false) :
    rest.head?.any (·.holds p) = false := by
  cases rest with
  | nil => rfl
  | cons g rest => exact h.head hp

theorem head_append (h : Closes rest) (t : Text) {p : Char → Bool}
    (hp : ∀ c ∈ closers, p c = false) :
    (t ++ rest).head?.any (·.holds p) = t.head?.any (·.holds p) := by
  cases t with
  | nil => exact h.head_any hp
  | cons g t => rfl

end Closes

namespace Numeral

variable {rest : Text} (h : Closes rest)
include h

theorem digits_append {p : Char → Bool} (hp : ∀ c ∈ closers, p c = false) (afterDigit : Bool)
    (t : Text) : digits p afterDigit (t ++ rest) = digits p afterDigit t := by
  induction t generalizing afterDigit with
  | nil =>
      cases rest with
      | nil => rfl
      | cons g rest =>
          have underscore : g.is '_' = false := h.head (forall_mem_of_all (by decide))
          simp [digits, h.head hp, underscore]
  | cons g t ih =>
      simp only [List.cons_append, digits, ih, h.head_append t hp]

theorem takesPoint_append (t : Text) : takesPoint (t ++ rest) = takesPoint t := by
  cases t with
  | nil =>
      cases rest with
      | nil => rfl
      | cons g rest =>
          obtain ⟨c, hc, rfl⟩ := h g rfl
          have all : ∀ c ∈ closers, takesPoint (.char c :: rest) = true := by
            simp only [takesPoint, Glyph.bytes]
            exact forall_mem_of_all (by decide)
          exact all c hc
  | cons g t => rfl

theorem fraction_append {t : Text} (ht : t ≠ [] ∨ rest.head? ≠ some (.char '.')) :
    fraction (t ++ rest) = fraction t := by
  cases t with
  | nil =>
      cases rest with
      | nil => rfl
      | cons g rest =>
          have point : g.is '.' = false := by
            obtain ⟨c, hc, rfl⟩ := h g rfl
            simpa [Glyph.is, Glyph.holds] using ht
          simp [fraction, point]
  | cons g t =>
      have whole := digits_append h (p := Char.isDigit) (forall_mem_of_all (by decide)) false t
      simp only [List.cons_append, fraction, takesPoint_append h, whole]

theorem exponent_append (t : Text) : exponent (t ++ rest) = exponent t := by
  have sign (t : Text) : (t ++ rest).head?.any (fun g => g.is '+' || g.is '-') =
      t.head?.any fun g => g.is '+' || g.is '-' := by
    have either (g : Glyph) : (g.is '+' || g.is '-') = g.holds fun c => c == '+' || c == '-' := by
      cases g <;> rfl
    simp only [either]
    exact h.head_append t (forall_mem_of_all (by decide))
  cases t with
  | nil =>
      cases rest with
      | nil => rfl
      | cons g rest =>
          have e : g.is 'e' = false := h.head (forall_mem_of_all (by decide))
          have E : g.is 'E' = false := h.head (forall_mem_of_all (by decide))
          simp [exponent, e, E]
  | cons g t =>
      simp only [List.cons_append, exponent, sign]
      cases t with
      | nil =>
          have none := digits_append h (p := Char.isDigit) (forall_mem_of_all (by decide)) false []
          simp only [List.nil_append] at none
          simp [none]
      | cons g' t =>
          have drop : (g' :: t ++ rest).drop
              (if (g' :: t).head?.any (fun g => g.is '+' || g.is '-') then 1 else 0) =
              (g' :: t).drop (if (g' :: t).head?.any (fun g => g.is '+' || g.is '-') then 1 else 0) ++
                rest := by
            split <;> rfl
          rw [drop, digits_append h (forall_mem_of_all (by decide))]

omit h in
theorem digits_le (isDigit : Char → Bool) (afterDigit : Bool) (t : Text) :
    digits isDigit afterDigit t ≤ t.length := by
  induction t generalizing afterDigit with
  | nil => exact Nat.le_refl 0
  | cons g t ih =>
      simp only [digits, List.length_cons]
      split
      · exact Nat.succ_le_succ (ih true)
      split
      · exact Nat.succ_le_succ (ih false)
      · exact Nat.zero_le _

omit h in
theorem fraction_le (t : Text) : fraction t ≤ t.length := by
  cases t with
  | nil => exact Nat.le_refl 0
  | cons g t =>
      simp only [fraction, List.length_cons]
      split
      · exact Nat.succ_le_succ (digits_le _ _ _)
      · exact Nat.zero_le _

omit h in
/-- The glyphs of a run of digits. -/
theorem digit_of_digits {t : Text} {afterDigit : Bool}
    (all : digits Char.isDigit afterDigit t = t.length) :
    ∀ g ∈ t, g.holds (fun c => c.isDigit || c == '_') := by
  induction t generalizing afterDigit with
  | nil => exact nofun
  | cons g t ih =>
      simp only [digits, List.length_cons] at all
      rw [List.forall_mem_cons]
      split at all
      · rename_i digit
        refine ⟨?_, ih (Nat.succ.inj all)⟩
        cases g <;> simp_all [Glyph.holds]
      split at all
      · rename_i underscore
        refine ⟨?_, ih (Nat.succ.inj all)⟩
        cases g <;> simp_all [Glyph.is, Glyph.holds]
      · contradiction

omit h in
/-- A number of nothing but digits takes a point that follows. -/
theorem takesPoint_of_digits {t : Text} (ht : t ≠ []) (all : digits Char.isDigit false t = t.length)
    (u : Token) : (Node.number u t).takesPoint = true := by
  have apart {g : Glyph} (hg : g ∈ t) (letters : List Char)
      (hl : letters.all (fun c => !(c.isDigit || c == '_'))) : g.holds letters.contains = false := by
    have digit := digit_of_digits all g hg
    cases g with
    | char c =>
        refine Bool.eq_false_iff.2 fun among => ?_
        have letter := List.all_eq_true.1 hl c (List.contains_iff_mem.1 among)
        simp_all [Glyph.holds]
    | stray b => rfl
  cases t with
  | nil => exact absurd rfl ht
  | cons first rest =>
      have last : ((first :: rest).getLastD first).is 'n' = false := by
        have letter := apart (List.getLast_mem (List.cons_ne_nil first rest)) ['n'] (by decide)
        rw [List.getLastD_eq_getLast?, List.getLast?_eq_some_getLast (List.cons_ne_nil first rest)]
        cases hg : (first :: rest).getLast (List.cons_ne_nil first rest) with
        | char c => simpa [hg, Glyph.is, Glyph.holds] using letter
        | stray b => rfl
      have base : (rest.take 1).any (·.holds ['x', 'X', 'o', 'O', 'b', 'B'].contains) = false := by
        rw [List.any_eq_false]
        intro g hg
        rw [apart (List.mem_cons_of_mem _ (List.mem_of_mem_take hg)) _ (by decide)]
        exact nofun
      have point : (first :: rest).any (·.holds ['.', 'e', 'E'].contains) = false := by
        rw [List.any_eq_false]
        intro g hg
        rw [apart hg _ (by decide)]
        exact nofun
      simp only [Node.takesPoint, last, base, point, Bool.not_false, Bool.and_false, Bool.and_self]

theorem decimal_append {t : Text} {u : Token} (ht : t ≠ [])
    (point : rest.head? ≠ some (.char '.') ∨ (Node.number u t).takesPoint = false) :
    body.decimal (t ++ rest) = body.decimal t := by
  have whole := digits_append h (p := Char.isDigit) (forall_mem_of_all (by decide)) false t
  have fits := digits_le Char.isDigit false t
  have free : t.drop (digits Char.isDigit false t) ≠ [] ∨ rest.head? ≠ some (.char '.') := by
    by_cases all : digits Char.isDigit false t = t.length
    · refine .inr (point.resolve_right ?_)
      rw [takesPoint_of_digits ht all]
      exact nofun
    · refine .inl fun none => all (Nat.le_antisymm fits ?_)
      exact List.drop_eq_nil_iff.1 none
  have part := fraction_le (t.drop (digits Char.isDigit false t))
  rw [List.length_drop] at part
  simp only [body.decimal, whole]
  rw [List.drop_append_of_le_length fits, fraction_append h free,
    List.drop_append_of_le_length (by omega), exponent_append h]

omit h in
theorem base_closers {c : Char} {isDigit : Char → Bool} (h : base? c = some isDigit) :
    ∀ c ∈ closers, isDigit c = false := by
  unfold base? at h
  split at h
  · cases h
    exact forall_mem_of_all (by decide)
  split at h
  · cases h
    exact forall_mem_of_all (by decide)
  split at h
  · cases h
    exact forall_mem_of_all (by decide)
  · contradiction

omit h in
theorem body_decimal {t : Text} (h : ∀ c t', t = .char '0' :: .char c :: t' → base? c = none) :
    body t = body.decimal t := by
  unfold body
  split
  · rename_i c t'
    rw [h c t' rfl]
  · rfl

theorem body_append {t : Text} {u : Token} (ht : t ≠ [])
    (point : rest.head? ≠ some (.char '.') ∨ (Node.number u t).takesPoint = false) :
    body (t ++ rest) = body t := by
  by_cases based : ∃ c t', t = .char '0' :: .char c :: t' ∧ base? c ≠ none
  · obtain ⟨c, t', rfl, hc⟩ := based
    obtain ⟨isDigit, known⟩ := Option.ne_none_iff_exists'.1 hc
    simp only [List.cons_append, body, known, digits_append h (base_closers known)]
  · have decimal : ∀ c t', t = .char '0' :: .char c :: t' → base? c = none := by
      intro c t' heq
      cases known : base? c with
      | none => rfl
      | some isDigit => exact absurd ⟨c, t', heq, by simp [known]⟩ based
    rw [body_decimal decimal, ← decimal_append h ht point]
    refine body_decimal fun c t' heq => ?_
    match t, ht with
    | [g], _ =>
        obtain ⟨rfl, rfl⟩ := List.cons.inj heq
        have closer : c ∈ closers := by
          obtain ⟨d, hd, heq⟩ := h _ rfl
          exact Glyph.char.inj heq ▸ hd
        have all : ∀ c ∈ closers, (base? c).isNone := forall_mem_of_all (by decide)
        exact Option.isNone_iff_eq_none.1 (all c closer)
    | g :: g' :: t, _ =>
        simp only [List.cons_append, List.cons.injEq] at heq
        obtain ⟨rfl, rfl, -⟩ := heq
        exact decimal c t rfl

omit h in
theorem exponent_le (t : Text) : exponent t ≤ t.length := by
  cases t with
  | nil => exact Nat.le_refl 0
  | cons g t =>
      have run := digits_le Char.isDigit false (t.drop
        (if t.head?.any (fun g => g.is '+' || g.is '-') then 1 else 0))
      have sign : (if t.head?.any (fun g => g.is '+' || g.is '-') then 1 else 0) ≤ t.length := by
        cases t with
        | nil => simp
        | cons g t => split <;> simp
      rw [List.length_drop] at run
      simp only [exponent, List.length_cons]
      split
      · split
        · exact Nat.zero_le _
        · omega
      · exact Nat.zero_le _

omit h in
theorem body_le (t : Text) : body t ≤ t.length := by
  have decimal : body.decimal t ≤ t.length := by
    have whole := digits_le Char.isDigit false t
    have part := fraction_le (t.drop (digits Char.isDigit false t))
    have exponent := exponent_le (t.drop (digits Char.isDigit false t +
      fraction (t.drop (digits Char.isDigit false t))))
    simp only [List.length_drop] at part exponent
    simp only [body.decimal]
    omega
  unfold body
  split
  · rename_i c rest
    split
    · rename_i isDigit known
      have digits := digits_le isDigit false rest
      simp only [List.length_cons]
      omega
    · exact decimal
  · exact decimal

omit h in
theorem length_le (t : Text) : length t ≤ t.length := by
  have fits := body_le t
  simp only [length]
  split
  · rename_i mark
    cases left : t.drop (body t) with
    | nil =>
        rw [left] at mark
        contradiction
    | cons g rest =>
        have shorter := congrArg List.length left
        rw [List.length_drop, List.length_cons] at shorter
        omega
  · exact fits

theorem starts_append (t : Text) (ht : t ≠ []) : starts (t ++ rest) = starts t := by
  cases t with
  | nil => exact absurd rfl ht
  | cons g t => simp only [List.cons_append, starts, h.head_append t (p := Char.isDigit) (forall_mem_of_all (by decide))]

/-- A number is as long as it is by itself, whatever punctuation follows. A point after it belongs to
it only if the number takes one. -/
theorem length_append {t : Text} {u : Token} (ht : t ≠ [])
    (point : rest.head? ≠ some (.char '.') ∨ (Node.number u t).takesPoint = false) :
    length (t ++ rest) = length t := by
  have mark : ((t.drop (body t)) ++ rest).head?.any (·.is 'n') =
      (t.drop (body t)).head?.any (·.is 'n') := h.head_append _ (forall_mem_of_all (by decide))
  simp only [length]
  rw [body_append h ht point, List.drop_append_of_le_length (body_le t), mark]

end Numeral

end CoScript
