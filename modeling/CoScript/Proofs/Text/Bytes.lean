import Mathlib.Data.List.Basic
import CoScript.Text.Glyph

/-!
Bytes and their reading. Every byte sequence is the writing of its reading, a piece that is cut out of
a reading is the reading of its own bytes, and text in ASCII is read as it stands. So a place in a
script may be given by a number of bytes as well as by a number of glyphs.
-/
namespace CoScript

namespace Text

@[simp] theorem toBytes_nil : toBytes [] = [] := rfl

@[simp] theorem toBytes_cons (g : Glyph) (t : Text) : toBytes (g :: t) = g.bytes ++ toBytes t := rfl

@[simp] theorem toBytes_append (a b : Text) : toBytes (a ++ b) = toBytes a ++ toBytes b :=
  List.flatMap_append

@[simp] theorem byteSize_nil : byteSize [] = 0 := rfl

@[simp] theorem byteSize_cons (g : Glyph) (t : Text) : byteSize (g :: t) = g.size + byteSize t := rfl

@[simp] theorem byteSize_append (a b : Text) : byteSize (a ++ b) = byteSize a + byteSize b := by
  induction a with
  | nil => simp
  | cons g a ih =>
      rw [List.cons_append, byteSize_cons, byteSize_cons, ih]
      omega

end Text

theorem Glyph.length_bytes (g : Glyph) : g.bytes.length = g.size := by
  cases g with
  | char c => exact String.length_utf8EncodeChar c
  | stray b => rfl

theorem Glyph.size_pos (g : Glyph) : 0 < g.size := by
  cases g with
  | char c => exact Char.utf8Size_pos c
  | stray b => exact Nat.one_pos

namespace Text

theorem length_toBytes (t : Text) : t.toBytes.length = t.byteSize := by
  induction t with
  | nil => rfl
  | cons g t ih => rw [toBytes_cons, List.length_append, g.length_bytes, ih, byteSize_cons]

theorem length_le_byteSize (t : Text) : t.length ≤ t.byteSize := by
  induction t with
  | nil => exact Nat.le_refl 0
  | cons g t ih =>
      have one := g.size_pos
      rw [List.length_cons, byteSize_cons]
      omega

/-! One character. -/

theorem encode_ofNat {v : Nat} (valid : v.isValidChar) :
    String.utf8EncodeChar (Char.ofNat v) =
      if v ≤ 127 then [UInt8.ofNat v]
      else if v ≤ 2047 then [UInt8.ofNat (v / 64 % 32 + 192), UInt8.ofNat (v % 64 + 128)]
      else if v ≤ 65535 then
        [UInt8.ofNat (v / 4096 % 16 + 224), UInt8.ofNat (v / 64 % 64 + 128),
          UInt8.ofNat (v % 64 + 128)]
      else
        [UInt8.ofNat (v / 262144 % 8 + 240), UInt8.ofNat (v / 4096 % 64 + 128),
          UInt8.ofNat (v / 64 % 64 + 128), UInt8.ofNat (v % 64 + 128)] := by
  have code : (Char.ofNat v).val.toNat = v := by
    rw [Char.ofNat, dif_pos valid]
    exact UInt32.toNat_ofNatLT
  simp only [String.utf8EncodeChar, code]

private theorem byte_eq {b : UInt8} {n : Nat} (h : n = b.toNat) : UInt8.ofNat n = b := by
  rw [h, UInt8.ofNat_toNat]

section
variable {a b c d : UInt8}

theorem encode_one (first : a.toNat < 128) :
    String.utf8EncodeChar (Char.ofNat a.toNat) = [a] := by
  rw [encode_ofNat (.inl (by omega)), if_pos (by omega), byte_eq rfl]

theorem encode_two (first : 0xC2 ≤ a.toNat ∧ a.toNat ≤ 0xDF)
    (second : 0x80 ≤ b.toNat ∧ b.toNat ≤ 0xBF) :
    String.utf8EncodeChar (Char.ofNat (a.toNat % 0x20 * 0x40 + b.toNat % 0x40)) = [a, b] := by
  rw [encode_ofNat (.inl (by omega)), if_neg (by omega), if_pos (by omega),
    byte_eq (b := a) (by omega), byte_eq (b := b) (by omega)]

theorem encode_three (first : 0xE0 ≤ a.toNat ∧ a.toNat ≤ 0xEF)
    (second : 0x80 ≤ b.toNat ∧ b.toNat ≤ 0xBF) (third : 0x80 ≤ c.toNat ∧ c.toNat ≤ 0xBF)
    (shortest : a.toNat = 0xE0 → 0xA0 ≤ b.toNat) (whole : a.toNat = 0xED → b.toNat ≤ 0x9F) :
    String.utf8EncodeChar
      (Char.ofNat (a.toNat % 0x10 * 0x1000 + b.toNat % 0x40 * 0x40 + c.toNat % 0x40)) =
      [a, b, c] := by
  have valid : (a.toNat % 0x10 * 0x1000 + b.toNat % 0x40 * 0x40 + c.toNat % 0x40).isValidChar := by
    unfold Nat.isValidChar
    omega
  rw [encode_ofNat valid, if_neg (by omega), if_neg (by omega), if_pos (by omega),
    byte_eq (b := a) (by omega), byte_eq (b := b) (by omega), byte_eq (b := c) (by omega)]

theorem encode_four (first : 0xF0 ≤ a.toNat ∧ a.toNat ≤ 0xF4)
    (second : 0x80 ≤ b.toNat ∧ b.toNat ≤ 0xBF) (third : 0x80 ≤ c.toNat ∧ c.toNat ≤ 0xBF)
    (fourth : 0x80 ≤ d.toNat ∧ d.toNat ≤ 0xBF)
    (shortest : a.toNat = 0xF0 → 0x90 ≤ b.toNat) (last : a.toNat = 0xF4 → b.toNat ≤ 0x8F) :
    String.utf8EncodeChar
      (Char.ofNat (a.toNat % 0x08 * 0x40000 + b.toNat % 0x40 * 0x1000 + c.toNat % 0x40 * 0x40 +
        d.toNat % 0x40)) = [a, b, c, d] := by
  have valid : (a.toNat % 0x08 * 0x40000 + b.toNat % 0x40 * 0x1000 + c.toNat % 0x40 * 0x40 +
      d.toNat % 0x40).isValidChar := by
    unfold Nat.isValidChar
    omega
  rw [encode_ofNat valid, if_neg (by omega), if_neg (by omega), if_neg (by omega),
    byte_eq (b := a) (by omega), byte_eq (b := b) (by omega), byte_eq (b := c) (by omega),
    byte_eq (b := d) (by omega)]

end

theorem isTail_iff {b : UInt8} : isTail b ↔ 0x80 ≤ b.toNat ∧ b.toNat ≤ 0xBF := by
  simp only [isTail, Bool.and_eq_true, decide_eq_true_eq, UInt8.le_iff_toNat_le]
  rfl

private theorem within_iff {a low high : UInt8} :
    (decide (low ≤ a) && decide (a ≤ high)) = true ↔ low.toNat ≤ a.toNat ∧ a.toNat ≤ high.toNat := by
  simp [UInt8.le_iff_toNat_le]

private theorem unless_iff {a b : UInt8} {p : Bool} : (a != b || p) = true ↔ (a.toNat = b.toNat → p) := by
  simp only [Bool.or_eq_true, bne_iff_ne, ne_eq, ← UInt8.toNat_inj]
  exact Decidable.imp_iff_not_or.symm

/-- A character takes the bytes it is written as, whatever bytes follow. -/
theorem leading?_eq_some {bytes : List UInt8} {c : Char} {n : Nat}
    (h : leading? bytes = some (c, n)) :
    n = (String.utf8EncodeChar c).length ∧ String.utf8EncodeChar c <+: bytes ∧
      ∀ more, leading? (String.utf8EncodeChar c ++ more) = some (c, n) := by
  unfold leading? at h
  split at h
  · cases h
  split at h
  · rename_i first
    obtain ⟨rfl, rfl⟩ := Prod.mk.inj (Option.some.inj h)
    rw [encode_one (UInt8.lt_iff_toNat_lt.1 first)]
    refine ⟨rfl, ⟨_, rfl⟩, fun more => ?_⟩
    rw [List.cons_append, leading?.eq_def]
    exact if_pos first
  rename_i beyond
  split at h
  · cases h
  split at h
  · cases h
  rename_i second
  have second' := second
  rw [Bool.not_eq_true, Bool.not_eq_false', isTail_iff] at second'
  split at h
  · rename_i first
    obtain ⟨rfl, rfl⟩ := Prod.mk.inj (Option.some.inj h)
    rw [tailBits, encode_two (within_iff.1 first) second']
    refine ⟨rfl, ⟨_, rfl⟩, fun more => ?_⟩
    rw [leading?.eq_def]
    exact (if_neg beyond).trans ((if_neg second).trans (if_pos first))
  rename_i longer
  split at h
  · cases h
  split at h
  · cases h
  rename_i third
  have third' := third
  rw [Bool.not_eq_true, Bool.not_eq_false', isTail_iff] at third'
  split at h
  · rename_i first
    have first' := first
    rw [Bool.and_eq_true, Bool.and_eq_true, within_iff, unless_iff, unless_iff, decide_eq_true_iff,
      decide_eq_true_iff] at first'
    obtain ⟨rfl, rfl⟩ := Prod.mk.inj (Option.some.inj h)
    rw [tailBits, tailBits, encode_three first'.1.1 second' third' first'.1.2 first'.2]
    refine ⟨rfl, ⟨_, rfl⟩, fun more => ?_⟩
    rw [leading?.eq_def]
    exact (if_neg beyond).trans ((if_neg second).trans ((if_neg longer).trans
      ((if_neg third).trans (if_pos first))))
  rename_i longest
  split at h
  · cases h
  split at h
  · rename_i first
    have first' := first
    rw [Bool.and_eq_true, Bool.and_eq_true, Bool.and_eq_true, isTail_iff, within_iff, unless_iff,
      unless_iff, decide_eq_true_iff, decide_eq_true_iff] at first'
    obtain ⟨rfl, rfl⟩ := Prod.mk.inj (Option.some.inj h)
    rw [tailBits, tailBits, tailBits,
      encode_four first'.1.1.2 second' third' first'.1.1.1 first'.1.2 first'.2]
    refine ⟨rfl, ⟨_, rfl⟩, fun more => ?_⟩
    rw [leading?.eq_def]
    exact (if_neg beyond).trans ((if_neg second).trans ((if_neg longer).trans
      ((if_neg third).trans ((if_neg longest).trans (if_pos first)))))
  · cases h

theorem ofBytesFrom_eq (skip : Nat) (bytes : List UInt8) :
    ofBytesFrom skip bytes = ofBytes (bytes.drop skip) := by
  induction bytes generalizing skip with
  | nil => cases skip <;> rfl
  | cons a rest ih =>
      cases skip with
      | zero => rfl
      | succ skip => exact ih skip

theorem ofBytes_char {bytes : List UInt8} {c : Char} {n : Nat} (h : leading? bytes = some (c, n))
    (more : List UInt8) : ofBytes (String.utf8EncodeChar c ++ more) = .char c :: ofBytes more := by
  obtain ⟨length, -, again⟩ := leading?_eq_some h
  have leads := again more
  obtain ⟨a, rest, split⟩ : ∃ a rest, String.utf8EncodeChar c = a :: rest :=
    List.exists_cons_of_length_pos (by rw [String.length_utf8EncodeChar]; exact c.utf8Size_pos)
  rw [split, List.cons_append] at leads ⊢
  rw [ofBytes, ofBytesFrom, leads]
  simp [ofBytesFrom_eq, length, split]

theorem ofBytes_stray {a : UInt8} {rest : List UInt8} (h : leading? (a :: rest) = none) :
    ofBytes (a :: rest) = .stray a :: ofBytes rest := by
  rw [ofBytes, ofBytesFrom, h, ofBytes]

/-- A glyph takes the bytes it is written as, and it is read as well when the bytes behind it break off
earlier. -/
theorem ofBytes_eq_cons {bytes : List UInt8} {g : Glyph} {t : Text} (h : ofBytes bytes = g :: t) :
    ∃ rest, bytes = g.bytes ++ rest ∧ t = ofBytes rest ∧
      ∀ more, more <+: rest → ofBytes (g.bytes ++ more) = g :: ofBytes more := by
  cases bytes with
  | nil => cases h
  | cons a rest =>
      cases leads : leading? (a :: rest) with
      | none =>
          rw [ofBytes_stray leads, List.cons.injEq] at h
          obtain ⟨rfl, rfl⟩ := h
          refine ⟨rest, rfl, rfl, fun more short => ofBytes_stray ?_⟩
          change leading? (a :: more) = none
          cases early : leading? (a :: more) with
          | none => rfl
          | some found =>
              obtain ⟨shorter, rfl⟩ := short
              obtain ⟨-, ⟨tail, split⟩, again⟩ := leading?_eq_some early
              have again := again (tail ++ shorter)
              rw [← List.append_assoc, split, List.cons_append, leads] at again
              cases again
      | some found =>
          obtain ⟨c, n⟩ := found
          obtain ⟨-, ⟨tail, split⟩, -⟩ := leading?_eq_some leads
          rw [← split, ofBytes_char leads, List.cons.injEq] at h
          obtain ⟨rfl, rfl⟩ := h
          exact ⟨tail, split.symm, rfl, fun more _ => ofBytes_char leads more⟩

/-- A cut between two glyphs is a cut between their bytes. -/
theorem ofBytes_eq_append {bytes : List UInt8} {a b : Text} (h : ofBytes bytes = a ++ b) :
    ∃ rest, bytes = a.toBytes ++ rest ∧ b = ofBytes rest ∧
      ∀ more, more <+: rest → ofBytes (a.toBytes ++ more) = a ++ ofBytes more := by
  induction a generalizing bytes with
  | nil => exact ⟨bytes, rfl, h.symm, fun _ _ => rfl⟩
  | cons g a ih =>
      obtain ⟨rest, rfl, tail, here⟩ := ofBytes_eq_cons h
      obtain ⟨rest, rfl, rfl, there⟩ := ih tail.symm
      refine ⟨rest, (List.append_assoc _ _ _).symm, rfl, fun more short => ?_⟩
      rw [toBytes_cons, List.append_assoc, here _ ((List.prefix_append_right_inj _).2 short),
        there more short, List.cons_append]

theorem toBytes_ofBytes (bytes : List UInt8) : (ofBytes bytes).toBytes = bytes := by
  obtain ⟨rest, split, none, -⟩ := ofBytes_eq_append (List.append_nil (ofBytes bytes)).symm
  obtain rfl : rest = [] := by
    cases rest with
    | nil => rfl
    | cons a rest =>
        cases leads : leading? (a :: rest) with
        | none => cases none.trans (ofBytes_stray leads)
        | some found =>
            obtain ⟨-, ⟨tail, again⟩, -⟩ := leading?_eq_some leads
            rw [← again, ofBytes_char leads] at none
            cases none
  rw [← List.append_nil (ofBytes bytes).toBytes, ← split]

theorem byteSize_ofBytes (bytes : List UInt8) : (ofBytes bytes).byteSize = bytes.length := by
  rw [← length_toBytes, toBytes_ofBytes]

/-- A glyph that is read is made of bytes that are there. -/
theorem bytes_subset_of_mem {g : Glyph} {bytes : List UInt8} (hg : g ∈ ofBytes bytes) :
    g.bytes ⊆ bytes := by
  intro b hb
  rw [← toBytes_ofBytes bytes]
  exact List.mem_flatMap.2 ⟨g, hg, hb⟩

/-! Text in ASCII. -/

theorem ofBytes_ascii {a : UInt8} (small : a.toNat < 0x80) (rest : List UInt8) :
    ofBytes (a :: rest) = .char (Char.ofNat a.toNat) :: ofBytes rest := by
  have leads : leading? (a :: rest) = some (Char.ofNat a.toNat, 1) := by
    rw [leading?.eq_def]
    exact if_pos (UInt8.lt_iff_toNat_lt.2 small)
  have read := ofBytes_char leads rest
  rwa [encode_one small] at read

theorem encode_ascii {c : Char} (small : c.toNat < 0x80) :
    String.utf8EncodeChar c = [UInt8.ofNat c.toNat] := by
  simp only [String.utf8EncodeChar]
  exact if_pos (Nat.le_of_lt_succ small)

theorem ofBytes_ofChars {cs : List Char} (small : ∀ c ∈ cs, c.toNat < 0x80) (rest : List UInt8) :
    ofBytes ((ofChars cs).toBytes ++ rest) = ofChars cs ++ ofBytes rest := by
  induction cs with
  | nil => rfl
  | cons c cs ih =>
      have here := small c List.mem_cons_self
      have byte : (UInt8.ofNat c.toNat).toNat = c.toNat := by
        rw [UInt8.toNat_ofNat']
        omega
      rw [ofChars, List.map_cons, toBytes_cons, Glyph.bytes, encode_ascii here]
      rw [List.append_assoc, List.singleton_append, ofBytes_ascii (by rw [byte]; exact here), byte,
        Char.ofNat_toNat]
      exact congrArg (Glyph.char c :: ·) (ih fun d hd => small d (List.mem_cons_of_mem c hd))

/-- A byte of ASCII is part of no other character. -/
theorem eq_char_of_mem_bytes {bytes : List UInt8} {g : Glyph} (hg : g ∈ ofBytes bytes) {b : UInt8}
    (hb : b ∈ g.bytes) (small : b.toNat < 0x80) : g = .char (Char.ofNat b.toNat) := by
  cases g with
  | stray a =>
      obtain rfl : b = a := List.mem_singleton.1 hb
      obtain ⟨before, after, split⟩ := List.append_of_mem hg
      obtain ⟨rest, -, tail, -⟩ := ofBytes_eq_append split
      obtain ⟨rest, rfl, -, -⟩ := ofBytes_eq_cons tail.symm
      rw [Glyph.bytes, List.singleton_append, ofBytes_ascii small] at tail
      cases tail
  | char c =>
      rw [Glyph.bytes] at hb
      by_cases ascii : c.toNat < 0x80
      · rw [encode_ascii ascii, List.mem_singleton] at hb
        rw [hb, UInt8.toNat_ofNat', Nat.mod_eq_of_lt (by omega), Char.ofNat_toNat]
      · have large : ∀ b ∈ String.utf8EncodeChar c, 0x80 ≤ b.toNat := by
          have beyond : ¬ c.val.toNat ≤ 127 := fun h => ascii (Nat.lt_succ_of_le h)
          simp only [String.utf8EncodeChar, if_neg beyond]
          intro b hb
          split at hb
          · simp only [List.mem_cons, List.not_mem_nil, or_false] at hb
            obtain rfl | rfl := hb <;> rw [UInt8.toNat_ofNat'] <;> omega
          split at hb
          · simp only [List.mem_cons, List.not_mem_nil, or_false] at hb
            obtain rfl | rfl | rfl := hb <;> rw [UInt8.toNat_ofNat'] <;> omega
          · simp only [List.mem_cons, List.not_mem_nil, or_false] at hb
            obtain rfl | rfl | rfl | rfl := hb <;> rw [UInt8.toNat_ofNat'] <;> omega
        exact absurd (large b hb) (by omega)

/-- A byte of ASCII breaks off what is in front of it. -/
theorem ofBytes_append_ascii {b : UInt8} (small : b.toNat < 0x80) (line more : List UInt8) :
    ofBytes (line ++ b :: more) = ofBytes line ++ ofBytes (b :: more) := by
  induction long : line.length using Nat.strongRecOn generalizing line with
  | _ length ih =>
  cases read : ofBytes (line ++ b :: more) with
  | nil =>
      have none := toBytes_ofBytes (line ++ b :: more)
      rw [read] at none
      exact absurd none.symm (List.append_ne_nil_of_right_ne_nil line (List.cons_ne_nil b more))
  | cons g t =>
      obtain ⟨rest, split, rfl, again⟩ := ofBytes_eq_cons read
      have behind (left : List UInt8) (here : line = g.bytes ++ left) (after : rest = left ++ b :: more) :
          g :: ofBytes rest = ofBytes line ++ ofBytes (b :: more) := by
        have pos := g.size_pos
        rw [here, List.length_append, g.length_bytes] at long
        rw [here, after, again left (after ▸ List.prefix_append ..), ih left.length (by omega) left rfl,
          List.cons_append]
      -- the byte is in the first glyph only if nothing is in front of it
      obtain ⟨inner, here, after⟩ | ⟨left, here, after⟩ := List.append_eq_append_iff.1 split
      · cases inner with
        | nil => exact behind [] (by rw [here, List.append_nil, List.append_nil]) after.symm
        | cons b' inner =>
            obtain rfl : b = b' := (List.cons.inj after).1
            have alone := eq_char_of_mem_bytes (read ▸ List.mem_cons_self)
              (here ▸ List.mem_append_right line List.mem_cons_self) small
            obtain rfl : line = [] := by
              rw [alone, Glyph.bytes, encode_one small] at here
              obtain ⟨none, -⟩ | ⟨-, none⟩ := List.append_eq_singleton_iff.1 here.symm
              · exact none
              · cases none
            exact read.symm
      · exact behind left here after

/-- The line feeds of a script are the bytes that encode them. -/
theorem count_newline {bytes : List UInt8} {t : Text} (h : t ⊆ ofBytes bytes) :
    t.toBytes.count 0x0A = t.countP (·.is '\n') := by
  induction t with
  | nil => rfl
  | cons g t ih =>
      have here : g.bytes.count 0x0A = if g.is '\n' then 1 else 0 := by
        cases newline : g.is '\n' with
        | true =>
            cases g with
            | stray b => cases newline
            | char c =>
                obtain rfl : c = '\n' := eq_of_beq newline
                rfl
        | false =>
            refine List.count_eq_zero.2 fun mem => ?_
            rw [eq_char_of_mem_bytes (h List.mem_cons_self) mem (by decide)] at newline
            cases newline
      rw [toBytes_cons, List.count_append, here, List.countP_cons,
        ih fun x hx => h (List.mem_cons_of_mem g hx), Nat.add_comm]

end Text

end CoScript
