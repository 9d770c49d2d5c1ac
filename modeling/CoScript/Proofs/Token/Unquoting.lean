import CoScript.Proofs.Token.Sequence

/-!
Scanning undoes quoting. The bytes of a quoted text are one string token, and it means the bytes that
were quoted with each byte that is part of no encoded character replaced. What that is, is said by the
encoding of characters alone, so that the reading of bytes is not taken for granted.
-/
namespace CoScript

namespace Text

/-! An encoded character is read as the character. -/

section
variable {a b c d : UInt8} {more : List UInt8}

theorem leading?_one (first : a.toNat < 0x80) :
    leading? (a :: more) = some (Char.ofNat a.toNat, 1) := by
  simp [leading?, UInt8.lt_iff_toNat_lt, first]

theorem leading?_two (first : 0xC2 ≤ a.toNat ∧ a.toNat ≤ 0xDF)
    (second : 0x80 ≤ b.toNat ∧ b.toNat ≤ 0xBF) :
    leading? (a :: b :: more) =
      some (Char.ofNat (a.toNat % 0x20 * 0x40 + b.toNat % 0x40), 2) := by
  have beyond : ¬ a.toNat < 128 := by omega
  simp [leading?, isTail_iff.2 second, tailBits, UInt8.le_iff_toNat_le, UInt8.lt_iff_toNat_lt, beyond,
    first]

theorem leading?_three (first : 0xE0 ≤ a.toNat ∧ a.toNat ≤ 0xEF)
    (second : 0x80 ≤ b.toNat ∧ b.toNat ≤ 0xBF) (third : 0x80 ≤ c.toNat ∧ c.toNat ≤ 0xBF)
    (shortest : a.toNat ≠ 0xE0 ∨ 0xA0 ≤ b.toNat) (whole : a.toNat ≠ 0xED ∨ b.toNat ≤ 0x9F) :
    leading? (a :: b :: c :: more) =
      some (Char.ofNat (a.toNat % 0x10 * 0x1000 + b.toNat % 0x40 * 0x40 + c.toNat % 0x40), 3) := by
  have beyond : ¬ a.toNat < 128 := by omega
  have longer : ¬ a.toNat ≤ 223 := by omega
  simp [leading?, isTail_iff.2 second, isTail_iff.2 third, tailBits, UInt8.le_iff_toNat_le,
    UInt8.lt_iff_toNat_lt, ← UInt8.toNat_inj, beyond, longer, first, shortest, whole]

theorem leading?_four (first : 0xF0 ≤ a.toNat ∧ a.toNat ≤ 0xF4)
    (second : 0x80 ≤ b.toNat ∧ b.toNat ≤ 0xBF) (third : 0x80 ≤ c.toNat ∧ c.toNat ≤ 0xBF)
    (fourth : 0x80 ≤ d.toNat ∧ d.toNat ≤ 0xBF)
    (shortest : a.toNat ≠ 0xF0 ∨ 0x90 ≤ b.toNat) (last : a.toNat ≠ 0xF4 ∨ b.toNat ≤ 0x8F) :
    leading? (a :: b :: c :: d :: more) =
      some (Char.ofNat (a.toNat % 0x08 * 0x40000 + b.toNat % 0x40 * 0x1000 + c.toNat % 0x40 * 0x40 +
        d.toNat % 0x40), 4) := by
  have beyond : ¬ a.toNat < 128 := by omega
  have longer : ¬ a.toNat ≤ 223 := by omega
  have longest : ¬ a.toNat ≤ 239 := by omega
  simp [leading?, isTail_iff.2 second, isTail_iff.2 third, isTail_iff.2 fourth, tailBits,
    UInt8.le_iff_toNat_le, UInt8.lt_iff_toNat_lt, ← UInt8.toNat_inj, beyond, longer, longest, first,
    shortest, last]

end

theorem leading?_encode (c : Char) (more : List UInt8) :
    leading? (String.utf8EncodeChar c ++ more) = some (c, (String.utf8EncodeChar c).length) := by
  have valid : c.toNat.isValidChar := c.valid
  have code : String.utf8EncodeChar c = _ := c.ofNat_toNat ▸ encode_ofNat valid
  have char {v : Nat} (h : v = c.toNat) : Char.ofNat v = c := h ▸ c.ofNat_toNat
  generalize c.toNat = v at *
  simp only [Nat.isValidChar] at valid
  rw [code]
  split_ifs
  · rw [List.cons_append, leading?_one, char] <;> simp <;> omega
  · rw [List.cons_append, List.cons_append, leading?_two, char] <;> simp <;> omega
  · rw [List.cons_append, List.cons_append, List.cons_append, leading?_three, char] <;> simp <;> omega
  · rw [List.cons_append, List.cons_append, List.cons_append, List.cons_append, leading?_four, char] <;>
      simp <;> omega

theorem ofBytes_encode (c : Char) (more : List UInt8) :
    ofBytes (String.utf8EncodeChar c ++ more) = .char c :: ofBytes more :=
  ofBytes_char (leading?_encode c more) more

/-- Characters are read back from their bytes. -/
theorem ofBytes_toBytes_ofChars (cs : List Char) : ofBytes (ofChars cs).toBytes = ofChars cs := by
  induction cs with
  | nil => rfl
  | cons c cs ih =>
      change ofBytes (String.utf8EncodeChar c ++ (ofChars cs).toBytes) = _
      rw [ofBytes_encode, ih]
      rfl

/-- The first bytes of a sequence encode no character. -/
theorem leading?_eq_none {bytes : List UInt8} :
    leading? bytes = none ↔ ∀ c, ¬ String.utf8EncodeChar c <+: bytes := by
  constructor
  · rintro none c ⟨more, rfl⟩
    rw [leading?_encode] at none
    cases none
  · intro alone
    cases leads : leading? bytes with
    | none => rfl
    | some found => exact absurd (leading?_eq_some leads).2.1 (alone found.1)

/-- What becomes of bytes when each byte that is part of no encoded character is replaced. -/
inductive Repaired : List UInt8 → List UInt8 → Prop
  | nil : Repaired [] []
  | character {bytes repaired : List UInt8} (c : Char) (others : Repaired bytes repaired) :
      Repaired (String.utf8EncodeChar c ++ bytes) (String.utf8EncodeChar c ++ repaired)
  | stray {b : UInt8} {bytes repaired : List UInt8}
      (alone : ∀ c, ¬ String.utf8EncodeChar c <+: b :: bytes) (others : Repaired bytes repaired) :
      Repaired (b :: bytes) (String.utf8EncodeChar '\ufffd' ++ repaired)

theorem Repaired.eq_replaced {bytes repaired : List UInt8} (h : Repaired bytes repaired) :
    repaired = (ofBytes bytes).replaced.toBytes := by
  induction h with
  | nil => rfl
  | character c _ ih =>
      rw [ofBytes_encode, ih]
      rfl
  | stray alone _ ih =>
      rw [ofBytes_stray (leading?_eq_none.2 alone), ih]
      rfl

theorem repaired_replaced (bytes : List UInt8) : Repaired bytes (ofBytes bytes).replaced.toBytes := by
  induction long : bytes.length using Nat.strong_induction_on generalizing bytes with
  | _ n ih =>
      subst long
      by_cases encoded : ∃ c, String.utf8EncodeChar c <+: bytes
      · obtain ⟨c, more, rfl⟩ := encoded
        have shorter : more.length < (String.utf8EncodeChar c ++ more).length := by
          have one := c.utf8Size_pos
          rw [List.length_append, String.length_utf8EncodeChar]
          omega
        rw [ofBytes_encode]
        exact .character c (ih _ shorter more rfl)
      · cases bytes with
        | nil => exact .nil
        | cons b bytes =>
            have alone : ∀ c, ¬ String.utf8EncodeChar c <+: b :: bytes := not_exists.1 encoded
            rw [ofBytes_stray (leading?_eq_none.2 alone)]
            exact .stray alone (ih _ (Nat.lt_succ_self _) bytes rfl)

theorem repaired_iff {bytes repaired : List UInt8} :
    Repaired bytes repaired ↔ (ofBytes bytes).replaced.toBytes = repaired :=
  ⟨fun h => h.eq_replaced.symm, fun h => h ▸ repaired_replaced bytes⟩

/-- Nothing is replaced in a sequence of encoded characters. -/
theorem Repaired.of_chars (cs : List Char) :
    Repaired (cs.flatMap String.utf8EncodeChar) (cs.flatMap String.utf8EncodeChar) := by
  induction cs with
  | nil => exact .nil
  | cons c cs ih => exact .character c ih

end Text

/-! A quoted text has no stray bytes, so that its bytes are read as they were written. -/

namespace StringLiteral

theorem escape_ofChars (g : Glyph) : ∃ cs, escape g = .ofChars cs := by
  cases g with
  | stray => exact ⟨_, rfl⟩
  | char c =>
      simp only [escape]
      split
      case h_9 =>
          split
          · exact ⟨_, (List.map_append ..).symm⟩
          split
          · exact ⟨_, (List.map_append ..).symm⟩
          · exact ⟨[c], rfl⟩
      all_goals exact ⟨_, rfl⟩

theorem quote_ofChars (t : Text) : ∃ cs, quote t = .ofChars cs := by
  have escaped : ∃ cs, t.flatMap escape = Text.ofChars cs := by
    induction t with
    | nil => exact ⟨[], rfl⟩
    | cons g t ih =>
        obtain ⟨cs, here⟩ := escape_ofChars g
        obtain ⟨ds, others⟩ := ih
        exact ⟨cs ++ ds, by rw [List.flatMap_cons, here, others]; exact (List.map_append ..).symm⟩
  obtain ⟨cs, escaped⟩ := escaped
  exact ⟨'"' :: (cs ++ ['"']), by rw [quote, escaped]; simp [Text.ofChars]⟩

theorem ofBytes_quote (t : Text) : Text.ofBytes (quote t).toBytes = quote t := by
  obtain ⟨cs, chars⟩ := quote_ofChars t
  rw [chars, Text.ofBytes_toBytes_ofChars]

end StringLiteral

/-- The first token of a quoted text takes all of it. -/
theorem Scanner.next_quote (t : Text) :
    ∃ string s, next { rest := StringLiteral.quote t } = (string, s) ∧
      string.sign = (.string, t.replaced) ∧ string.start = 0 ∧
      string.stop = (StringLiteral.quote t).byteSize ∧ s.rest = [] := by
  obtain ⟨stop, read⟩ := lexeme_quote false {} t []
  have skipped : Trivia.skip .space false {} (StringLiteral.quote t) =
      ⟨false, false, {}, StringLiteral.quote t⟩ :=
    Trivia.skip_of_not_starts false {} rfl
  obtain ⟨broken, trivia, takes⟩ := next_takes { rest := StringLiteral.quote t }
  have next : next { rest := StringLiteral.quote t } =
      ({ kind := .string, literal := t.replaced, raw := StringLiteral.quote t, line := 1, column := 1,
         start := 0, stop := stop.offset },
       { rest := [], mark := stop, previous := some .string }) := by
    simp only [Scanner.next, skipped, Bool.false_eq_true, if_false]
    conv_lhs => rw [StringLiteral.quote, List.cons_append]
    simp only [Option.any_none, read]
    rw [← List.cons_append, ← StringLiteral.quote, List.take_length, List.drop_length]
    rfl
  rw [next] at takes ⊢
  refine ⟨_, _, rfl, rfl, rfl, ?_, rfl⟩
  have offset := takes.stop.offset
  rw [takes.stop_eq] at offset
  exact offset.trans (Nat.zero_add _)

/-- The bytes of a quoted text are one string token that takes all of them. It means the bytes that were
quoted with each byte that is part of no encoded character replaced, which leaves a sequence of encoded
characters as it is. -/
theorem Token.scan_quote (bytes : List UInt8) : ∃ string ending,
    scan (.ofBytes (StringLiteral.quote (.ofBytes bytes)).toBytes) = [string, ending] ∧
      string.kind = .string ∧ ending.kind = .eof ∧ string.start = 0 ∧
      string.stop = (StringLiteral.quote (.ofBytes bytes)).toBytes.length ∧
      (∀ meaning, string.literal.toBytes = meaning ↔ Text.Repaired bytes meaning) ∧
      ∀ cs : List Char, bytes = cs.flatMap String.utf8EncodeChar → string.literal.toBytes = bytes := by
  obtain ⟨string, s, next, sign, start, stop, empty⟩ := Scanner.next_quote (.ofBytes bytes)
  obtain ⟨kind, literal⟩ := Prod.mk.inj sign
  have ended : s.next.1.kind = .eof := by
    rw [Scanner.next, empty]
    rfl
  have means : ∀ meaning, string.literal.toBytes = meaning ↔ Text.Repaired bytes meaning := by
    intro meaning
    rw [literal, Text.repaired_iff]
  refine ⟨string, s.next.1, ?_, kind, ended, start, ?_, means, ?_⟩
  · rw [StringLiteral.ofBytes_quote, scan, Scanner.collect, next]
    simp [kind, ended, Scanner.collect, StringLiteral.quote]
  · rw [Text.length_toBytes]
    exact stop
  · rintro cs rfl
    exact (means _).2 (.of_chars cs)

end CoScript
