import Mathlib.Data.List.Chain
import CoScript.Text.Name

/-!
Names go on with what they may start with. Beyond ASCII this is a fact about the tables: every range of
the first one lies within a range of the second, which is found by walking along both at once.
-/
namespace CoScript

namespace Category.Bounds

/-- The ranges that are left when those at the front that lie between two bounds are taken away. -/
def beyond (first stop : Nat) : List Nat → Bounds
  | p :: q :: rest => if first ≤ p && q ≤ stop then beyond first stop rest else p :: q :: rest
  | bounds => bounds

/-- The ranges that are left when those that lie within ranges of another class are taken away. -/
def notWithin (bounds : Bounds) : List Nat → Bounds
  | first :: stop :: rest => notWithin (beyond first stop bounds) rest
  | _ => bounds

theorem contains_beyond {bounds : Bounds} {code : Nat} (h : bounds.contains code) (first stop : Nat) :
    (first ≤ code ∧ code < stop) ∨ (beyond first stop bounds).contains code := by
  fun_induction beyond first stop bounds with
  | case1 p q rest within ih =>
      simp only [Bool.and_eq_true, decide_eq_true_eq] at within
      rw [contains] at h
      split at h
      · cases h
      split at h
      · exact .inl (by omega)
      · exact ih h
  | case2 p q rest _ => exact .inr h
  | case3 bounds _ => exact .inr h

theorem contains_of_within {bounds more : Bounds} {code : Nat} (h : bounds.contains code)
    (sorted : more.IsChain (· ≤ ·)) (within : bounds.notWithin more = []) : more.contains code := by
  fun_induction notWithin bounds more with
  | case1 bounds first stop rest ih =>
      rw [contains]
      obtain ⟨ordered, sorted⟩ := List.isChain_cons_cons.1 sorted
      obtain here | there := contains_beyond h first stop
      · rw [if_neg (by omega), if_pos here.2]
      · have later := ih there sorted.tail within
        cases rest with
        | nil => cases later
        | cons p rest =>
            have gap := (List.isChain_cons_cons.1 sorted).1
            have reached : p ≤ code := by
              cases rest with
              | nil => cases later
              | cons q rest =>
                  rw [contains] at later
                  split at later
                  · cases later
                  · omega
            rw [if_neg (by omega), if_neg (by omega)]
            exact later
  | case2 bounds _ =>
      rw [within] at h
      cases h

end Category.Bounds

theorem isNamePart_of_isNameStart {c : Char} (h : isNameStart c) : isNamePart c := by
  rw [isNameStart] at h
  rw [isNamePart]
  split
  · rename_i ascii
    rw [if_pos ascii] at h
    rw [h, Bool.true_or]
  · rename_i wide
    rw [if_neg wide] at h
    exact Category.Bounds.contains_of_within h (by decide +kernel) (by decide +kernel)

/-- A text that is split has parts. -/
theorem Text.splitOn_ne_nil (separator : Char) (t : Text) : splitOn separator t ≠ [] := by
  cases t with
  | nil => simp [splitOn]
  | cons g rest =>
      rw [splitOn]
      split
      · simp
      · split <;> simp

/-- The parts of a text with the separator between them are the text. -/
theorem Text.join_splitOn (separator : Char) (t : Text) :
    join [.char separator] (splitOn separator t) = t := by
  induction t with
  | nil => rfl
  | cons g t ih =>
      rw [splitOn]
      cases parts : splitOn separator t with
      | nil => exact absurd parts (splitOn_ne_nil separator t)
      | cons part parts' =>
          rw [parts] at ih
          cases separates : g.is separator with
          | true =>
              obtain rfl : g = .char separator := by
                cases g with
                | char c => exact congrArg Glyph.char (eq_of_beq separates)
                | stray => cases separates
              exact congrArg (Glyph.char separator :: ·) ih
          | false =>
              cases parts' with
              | nil => exact congrArg (g :: ·) ih
              | cons => exact congrArg (g :: ·) ih

end CoScript
