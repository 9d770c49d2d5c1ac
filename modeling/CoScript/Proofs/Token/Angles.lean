import CoScript.Proofs.Token.Phrase

/-!
Closing angle brackets next to each other. The scanner takes two or three of them as one token, so words
in a row may be read as fewer words, which fall apart into them again.
-/
namespace CoScript

namespace Operator

/-- Several closing angle brackets end where one does. -/
theorem endsBefore_angles {g : Glyph} (h : greater.endsBefore g) :
    shiftRight.endsBefore g ∧ shiftRightZero.endsBefore g := by
  have joined : ∀ g ∈ txt ">=", greater.endsBefore g = false := by decide
  have apart : g ∉ txt ">=" := fun mem => absurd h (Bool.eq_false_iff.1 (joined g mem))
  have two : shiftRight.continuations ⊆ txt ">=" := by decide
  have three : shiftRightZero.continuations ⊆ txt ">=" := by decide
  exact ⟨endsBefore_of (fun mem => apart (two mem)) nofun nofun,
    endsBefore_of (fun mem => apart (three mem)) nofun nofun⟩

end Operator

namespace Word

/-- The words that a word falls apart into: shifts to the right are made up of closing angle brackets. -/
def apart (w : Word) : List Word :=
  match w.kind with
  | .operator .shiftRight => [sign .greater w.gap, sign .greater]
  | .operator .shiftRightZero => [sign .greater w.gap, sign .greater, sign .greater]
  | _ => [w]

/-- Several closing angle brackets taken together. -/
def angles : List Token.Kind :=
  [.operator .shiftRight, .operator .shiftRightZero]

/-- Whether a word falls apart into nothing but itself. -/
def isWhole (w : Word) : Bool :=
  w.kind ∉ angles

theorem apart_of_isWhole {w : Word} (h : w.isWhole) : w.apart = [w] := by
  simp only [isWhole, angles, List.mem_cons, List.not_mem_nil, or_false, not_or, decide_eq_true_eq] at h
  rw [apart]
  split
  · exact absurd ‹_› h.1
  · exact absurd ‹_› h.2
  · rfl

/-- The first word that others fall apart into is one of them, or a closing angle bracket. -/
theorem apart_cons {v w : Word} {vs ws : List Word} (h : v.apart ++ vs = w :: ws) :
    (v = w ∧ vs = ws) ∨ (v.kind ∈ angles ∧ w.kind = .operator .greater) := by
  by_cases whole : v.kind ∈ angles
  · refine .inr ⟨whole, ?_⟩
    simp only [angles, List.mem_cons, List.not_mem_nil, or_false] at whole
    rcases whole with kind | kind <;>
      (rw [apart, kind] at h; rw [← (List.cons.inj h).1]; rfl)
  · rw [apart_of_isWhole (by simpa [isWhole] using whole)] at h
    exact .inl (List.cons.inj h)

theorem apart_ne_nil (w : Word) : w.apart ≠ [] := by
  rw [apart]
  split <;> simp

/-- A word that may be written before another one. Closing angle brackets may, although the scanner takes
them together. -/
def Meets (u v : Word) : Prop :=
  u.Before v ∨ (u.kind = .operator .greater ∧ v = sign .greater)

/-- Words that may be written one after another. None of them falls apart. -/
structure Row (ws : List Word) : Prop where
  sound : ∀ w ∈ ws, w.Sound
  whole : ∀ w ∈ ws, w.isWhole
  chain : ws.IsChain Meets

namespace Row

variable {u v w : Word} {ws vs : List Word}

theorem tail (h : Row (w :: ws)) : Row ws :=
  ⟨(List.forall_mem_cons.1 h.sound).2, (List.forall_mem_cons.1 h.whole).2, h.chain.tail⟩

/-- What a word is followed by. -/
theorem meets (h : Row (w :: ws)) (hv : v ∈ ws.head?) : w.Meets v := by
  cases ws with
  | nil => cases hv
  | cons u us =>
      obtain rfl := Option.some.inj hv
      exact (List.isChain_cons_cons.1 h.chain).1

theorem singleton (sound : w.Sound) (whole : w.isWhole) : Row [w] :=
  ⟨by simpa using sound, by simpa using whole, .singleton w⟩

theorem append (hw : Row ws) (hv : Row vs) (meet : ∀ u ∈ ws.getLast?, ∀ v ∈ vs.head?, u.Meets v) :
    Row (ws ++ vs) := by
  refine ⟨fun w h => ?_, fun w h => ?_, List.isChain_append.2 ⟨hw.chain, hv.chain, meet⟩⟩
  · exact (List.mem_append.1 h).elim (hw.sound w) (hv.sound w)
  · exact (List.mem_append.1 h).elim (hw.whole w) (hv.whole w)

theorem cons (sound : w.Sound) (whole : w.isWhole) (h : Row ws) (meet : ∀ v ∈ ws.head?, w.Meets v) :
    Row (w :: ws) := by
  refine (singleton sound whole).append h fun u hu v hv => ?_
  obtain rfl := Option.some.inj hu
  exact meet v hv

end Row

/-- Words that are written like other words and fall apart into them. A word that may stand before the
others may stand before them. -/
structure Gathers (vs ws : List Word) : Prop where
  run : Run vs
  spelled : spell vs = spell ws
  falls : vs.flatMap apart = ws
  front : ∀ v ∈ vs.head?, ∃ w ∈ ws.head?, v.print.head? = w.print.head? ∧ v.divides = w.divides

/-- A word is written as what it falls apart into, and starts alike. -/
theorem apart_front {w : Word} (h : w.Sound) : spell w.apart = w.print ∧
    ∃ u us, w.apart = u :: us ∧ w.print.head? = u.print.head? ∧ w.divides = u.divides := by
  obtain ⟨kind, text, gap⟩ := w
  rw [apart]
  split
  · rename_i same
    obtain rfl : _ = _ := same
    obtain ⟨rfl, -⟩ := h
    refine ⟨?_, _, _, rfl, ?_, rfl⟩
    · simp only [spell, List.flatMap_cons, List.flatMap_nil, print, sign, List.append_assoc]
      rfl
    · cases gap <;> rfl
  · rename_i same
    obtain rfl : _ = _ := same
    obtain ⟨rfl, -⟩ := h
    refine ⟨?_, _, _, rfl, ?_, rfl⟩
    · simp only [spell, List.flatMap_cons, List.flatMap_nil, print, sign, List.append_assoc]
      rfl
    · cases gap <;> rfl
  · exact ⟨by simp [spell], _, _, rfl, rfl, rfl⟩

namespace Gathers

variable {u v w : Word} {ws vs : List Word}

/-- A word that may stand before some words may stand before those that they are gathered into. -/
theorem before (h : Gathers vs ws) (before : ∀ w ∈ ws.head?, u.Before w) (hv : v ∈ vs.head?) :
    u.Before v := by
  obtain ⟨w, hw, glyph, divides⟩ := h.front v hv
  have here := before w hw
  exact ⟨fun g hg => here.ends g (glyph ▸ hg), fun slash => here.divides (divides ▸ slash)⟩

theorem cons (h : Gathers vs ws) (sound : w.Sound) (meet : ∀ v ∈ vs.head?, w.Before v) :
    Gathers (w :: vs) (w.apart ++ ws) := by
  obtain ⟨spelled, u, us, falls, glyph, divides⟩ := apart_front sound
  refine ⟨.cons sound h.run meet, ?_, ?_, ?_⟩
  · rw [spell_cons, ← spelled, h.spelled]
    exact List.flatMap_append.symm
  · rw [List.flatMap_cons, h.falls]
  · rintro v ⟨⟩
    exact ⟨u, by rw [falls]; rfl, glyph, divides⟩

/-- Two closing angle brackets taken together stand where no third one follows. -/
theorem shiftRight (h : Gathers vs ws) {gap : Gap} (meet : ∀ w ∈ ws.head?, (sign .greater).Before w) :
    Gathers (sign .shiftRight gap :: vs) (sign .greater gap :: sign .greater :: ws) := by
  refine h.cons (sign_sound .shiftRight gap (by decide)) fun v hv => ?_
  have last := h.before meet hv
  exact ⟨fun g hg => (Operator.endsBefore_angles (last.ends g hg)).1,
    fun slash => absurd (last.divides slash) Bool.false_ne_true⟩

/-- Three closing angle brackets taken together stand wherever the last one does. -/
theorem shiftRightZero (h : Gathers vs ws) {gap : Gap}
    (meet : ∀ w ∈ ws.head?, (sign .greater).Meets w) :
    Gathers (sign .shiftRightZero gap :: vs)
      (sign .greater gap :: sign .greater :: sign .greater :: ws) := by
  refine h.cons (sign_sound .shiftRightZero gap (by decide)) fun v hv => ?_
  obtain ⟨w, hw, glyph, divides⟩ := h.front v hv
  obtain last | ⟨-, rfl⟩ := meet w hw
  · exact ⟨fun g hg => (Operator.endsBefore_angles (last.ends g (glyph ▸ hg))).2,
      fun slash => absurd (last.divides (divides ▸ slash)) Bool.false_ne_true⟩
  · refine ⟨fun g hg => ?_, fun slash => absurd (divides.symm.trans slash) Bool.false_ne_true⟩
    rw [glyph] at hg
    obtain rfl := Option.some.inj hg
    rfl

end Gathers

theorem Sound.eq_sign {w : Word} {o : Operator} (h : w.Sound) (kind : w.kind = .operator o) :
    w = sign o w.gap := by
  obtain ⟨_, text, gap⟩ := w
  obtain rfl : _ = _ := kind
  obtain ⟨rfl, -⟩ := h
  rfl

/-- Words in a row are read as words that they can be gathered into. -/
theorem Row.gather {ws : List Word} (h : Row ws) : ∃ vs, Gathers vs ws := by
  induction size : ws.length using Nat.strong_induction_on generalizing ws with
  | h size ih =>
      cases ws with
      | nil => exact ⟨[], ⟨nofun, .nil⟩, rfl, rfl, nofun⟩
      | cons w ws =>
          rw [List.length_cons] at size
          have sound := h.sound w List.mem_cons_self
          by_cases second : w.kind = .operator .greater ∧ ∃ us, ws = sign .greater :: us
          · obtain ⟨kind, ws, rfl⟩ := second
            rw [sound.eq_sign kind]
            by_cases third : ∃ us, ws = sign .greater :: us
            · -- The scanner takes no more than three together.
              obtain ⟨ws, rfl⟩ := third
              obtain ⟨vs, gathers⟩ := ih ws.length (by simp only [List.length_cons] at size; omega)
                h.tail.tail.tail rfl
              exact ⟨_, gathers.shiftRightZero fun u hu => h.tail.tail.meets hu⟩
            · obtain ⟨vs, gathers⟩ := ih ws.length (by simp only [List.length_cons] at size; omega)
                h.tail.tail rfl
              refine ⟨_, gathers.shiftRight fun u hu => ?_⟩
              obtain before | ⟨-, rfl⟩ := h.tail.meets hu
              · exact before
              · exact absurd (List.head?_eq_some_iff.1 hu) third
          · obtain ⟨vs, gathers⟩ := ih ws.length (by omega) h.tail rfl
            have falls := apart_of_isWhole (h.whole w List.mem_cons_self)
            refine ⟨w :: vs, (falls ▸ gathers.cons sound fun v hv => gathers.before (fun u hu => ?_) hv :)⟩
            obtain before | ⟨kind, rfl⟩ := h.meets hu
            · exact before
            · exact absurd ⟨kind, List.head?_eq_some_iff.1 hu⟩ second

end Word

end CoScript
