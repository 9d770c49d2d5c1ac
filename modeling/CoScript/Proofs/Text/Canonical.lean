import Mathlib.Data.List.Basic
import CoScript.Text.Canonical

/-!
Composition makes no plain word of anything else. The tables take no character apart into small letters
alone and put no two characters together to a small letter, so a word of small letters is composed only
from itself.
-/
namespace CoScript.Canonical

/-- Whether a code point is that of a small letter. -/
def isSmall (code : Nat) : Bool :=
  0x61 ≤ code && code ≤ 0x7A

theorem not_isSmall_of_lt {code : Nat} (h : 0x7A < code) : isSmall code = false := by
  simp [isSmall, h]

set_option maxRecDepth 10000 in
theorem composites_not_small :
    composites.all (fun row => row.head?.all (!isSmall ·) && row.tail.any (!isSmall ·)) = true := by
  decide

set_option maxRecDepth 10000 in
theorem expansions_not_small : expansions.all (fun row => row.tail.any (!isSmall ·)) = true := by
  decide

theorem parts?_not_small {code : Nat} {parts : List Nat} (h : parts? code = some parts) :
    ∃ part ∈ parts, isSmall part = false := by
  obtain ⟨row, mem, found⟩ := List.exists_of_findSome?_eq_some h
  have any : row.tail.any (!isSmall ·) = true := by
    obtain mem | mem := List.mem_append.1 mem
    · exact (Bool.and_eq_true_iff.1 (List.all_eq_true.1 composites_not_small row mem)).2
    · exact List.all_eq_true.1 expansions_not_small row mem
  cases row with
  | nil => cases found
  | cons c parts' =>
      obtain ⟨-, same⟩ := Option.ite_none_right_eq_some.1 found
      obtain rfl := Option.some.inj same
      simpa using any

theorem decomposeTo_not_small (depth : Nat) {code : Nat} (h : isSmall code = false) :
    ∃ part ∈ decomposeTo depth code, isSmall part = false := by
  induction depth generalizing code with
  | zero => exact ⟨code, List.mem_singleton_self code, h⟩
  | succ depth ih =>
      rw [decomposeTo]
      split
      · exact ⟨code, List.mem_singleton_self code, h⟩
      split
      · exact ⟨_, List.mem_cons_self, not_isSmall_of_lt (by omega)⟩
      split
      · rename_i parts found
        obtain ⟨part, mem, large⟩ := parts?_not_small found
        obtain ⟨piece, among, large⟩ := ih large
        exact ⟨piece, List.mem_flatMap.2 ⟨part, mem, among⟩, large⟩
      · exact ⟨code, List.mem_singleton_self code, h⟩

theorem pair?_not_small {first second code : Nat} (h : pair? first second = some code) :
    isSmall code = false := by
  rw [pair?] at h
  split at h
  · obtain rfl := Option.some.inj h
    refine not_isSmall_of_lt ?_
    rw [syllableBase]
    omega
  split at h
  · rename_i within
    have syllable : syllableBase ≤ first := by
      simp only [Bool.and_eq_true, decide_eq_true_iff] at within
      exact within.1.1.1.1
    obtain rfl := Option.some.inj h
    refine not_isSmall_of_lt ?_
    rw [syllableBase] at syllable
    omega
  · obtain ⟨row, mem, found⟩ := List.exists_of_findSome?_eq_some h
    have head := (Bool.and_eq_true_iff.1 (List.all_eq_true.1 composites_not_small row mem)).1
    split at found
    · obtain ⟨-, same⟩ := Option.ite_none_right_eq_some.1 found
      obtain rfl := Option.some.inj same
      simpa using head
    · cases found

theorem mem_breakRuns {code : Nat} {codes : List Nat} (h : code ∈ codes) (run : Nat) :
    code ∈ breakRuns run codes := by
  induction codes generalizing run with
  | nil => cases h
  | cons c codes ih =>
      rw [breakRuns]
      obtain rfl | h := List.mem_cons.1 h
      · split
        · exact List.mem_cons_self
        split
        · exact List.mem_cons_of_mem _ List.mem_cons_self
        · exact List.mem_cons_self
      · split
        · exact List.mem_cons_of_mem _ (ih h _)
        split
        · exact List.mem_cons_of_mem _ (List.mem_cons_of_mem _ (ih h _))
        · exact List.mem_cons_of_mem _ (ih h _)

theorem mem_insertMark {m p : Mark} {before : List Mark} :
    p ∈ insertMark m before ↔ p = m ∨ p ∈ before := by
  induction before with
  | nil => simp [insertMark]
  | cons q before ih =>
      rw [insertMark]
      split
      · rw [List.mem_cons, ih, List.mem_cons, or_left_comm]
      · rw [List.mem_cons]

theorem mem_order {p : Mark} {marks : List Mark} : p ∈ order marks ↔ p ∈ marks := by
  have insert (before : List Mark) :
      p ∈ marks.foldl (fun before m => insertMark m before) before ↔ p ∈ before ∨ p ∈ marks := by
    induction marks generalizing before with
    | nil => simp
    | cons m marks ih =>
        rw [List.foldl_cons, ih, mem_insertMark, List.mem_cons, or_comm (a := p = m), or_assoc]
  rw [order, List.mem_reverse, insert]
  simp

theorem composeAfter_not_small {starter : Nat} {skipped marks : List Mark}
    (h : isSmall starter = false ∨ ∃ m ∈ skipped ++ marks, isSmall m.code = false) :
    ∃ code ∈ composeAfter starter skipped marks, isSmall code = false := by
  induction marks generalizing starter skipped with
  | nil =>
      simpa [composeAfter] using h
  | cons m marks ih =>
      rw [composeAfter.eq_def]
      dsimp only
      split
      · rename_i joined
        refine ih (.inl ?_)
        obtain ⟨-, joined⟩ := Option.ite_none_left_eq_some.1 joined
        exact pair?_not_small joined
      split
      · obtain large | ⟨p, mem, large⟩ := h
        · exact ⟨starter, List.mem_cons_self, large⟩
        obtain mem | mem := List.mem_append.1 mem
        · refine ⟨p.code, List.mem_cons_of_mem _ (List.mem_append_left _ ?_), large⟩
          exact List.mem_map_of_mem (List.mem_reverse.2 mem)
        · have later : ∃ code ∈ composeAfter m.code [] marks, isSmall code = false := by
            obtain rfl | mem := List.mem_cons.1 mem
            · exact ih (.inl large)
            · exact ih (.inr ⟨p, mem, large⟩)
          obtain ⟨code, mem, large⟩ := later
          exact ⟨code, List.mem_cons_of_mem _ (List.mem_append_right _ mem), large⟩
      · refine ih (h.imp_right ?_)
        rintro ⟨p, mem, large⟩
        refine ⟨p, ?_, large⟩
        simpa [or_assoc, or_left_comm] using mem

theorem composeOrdered_not_small {marks : List Mark} (h : ∃ m ∈ marks, isSmall m.code = false) :
    ∃ code ∈ composeOrdered marks, isSmall code = false := by
  induction marks with
  | nil => simp at h
  | cons m marks ih =>
      obtain ⟨p, mem, large⟩ := h
      rw [composeOrdered]
      split
      · obtain rfl | mem := List.mem_cons.1 mem
        · exact composeAfter_not_small (.inl large)
        · exact composeAfter_not_small (.inr ⟨p, mem, large⟩)
      · obtain rfl | mem := List.mem_cons.1 mem
        · exact ⟨p.code, List.mem_cons_self, large⟩
        · obtain ⟨code, mem, large⟩ := ih ⟨p, mem, large⟩
          exact ⟨code, List.mem_cons_of_mem _ mem, large⟩

/-- A word of small letters is composed only from itself. -/
theorem eq_of_compose_small {cs ds : List Char} (h : compose cs = ds)
    (small : ∀ d ∈ ds, isSmall d.toNat) : cs = ds := by
  rw [compose] at h
  split at h
  · exact h
  rename_i beyond
  obtain ⟨c, mem, wide⟩ : ∃ c ∈ cs, ¬ c.toNat < 0x80 := by simpa using beyond
  have among := mem_breakRuns (List.mem_map_of_mem (f := Char.toNat) mem) 0
  have wide : isSmall c.toNat = false := not_isSmall_of_lt (by omega)
  obtain ⟨part, piece, large⟩ := decomposeTo_not_small 4 wide
  have ordered : Mark.of part ∈
      order (((breakRuns 0 (cs.map Char.toNat)).flatMap decompose).map Mark.of) :=
    mem_order.2 (List.mem_map_of_mem (List.mem_flatMap.2 ⟨_, among, piece⟩))
  obtain ⟨code, composed, large⟩ := composeOrdered_not_small ⟨_, ordered, large⟩
  have letter := small (Char.ofNat code) (h ▸ List.mem_map_of_mem composed)
  by_cases valid : code.isValidChar
  · have same : (Char.ofNat code).toNat = code := by
      rw [Char.ofNat, dif_pos valid]
      exact UInt32.toNat_ofNatLT
    rw [same, large] at letter
    cases letter
  · rw [Char.ofNat, dif_neg valid] at letter
    cases letter

end CoScript.Canonical
