import Mathlib.Algebra.BigOperators.Group.List.Basic
import Mathlib.Algebra.GroupWithZero.Nat
import CoScript.Proofs.Tree.Shape

/-!
The values of a tree as a list, in which a value occurs as often as it stands in the tree.
-/
namespace CoScript.Node

theorem sizeOf_lt_of_mem_positions {n c : Node} {p : Position} (h : (p, c) ∈ n.positions) :
    sizeOf c < sizeOf n := by
  have list {p : Position} {ns : List Node} {k : Nat} (h : sizeOf ns < k) :
      Throughout (fun _ c => sizeOf c < k) (each p ns) :=
    throughout_each.2 fun m hm => Nat.lt_trans (List.sizeOf_lt_of_mem hm) h
  suffices Throughout (fun _ c => sizeOf c < sizeOf n) n.positions from this p c h
  generalize size : sizeOf n = k
  cases n <;> simp at size <;>
    simp only [positions, throughout_cons, throughout_append, throughout_nil, and_true]
  all_goals repeat' first | with_reducible apply And.intro | with_reducible apply list
  all_goals omega

/-- The values of a tree, each after those below it. -/
def values (n : Node) : List Node :=
  (n.positions.attach.flatMap fun ⟨(p, c), _⟩ => if p.isValue c then c.values else []) ++ [n]
termination_by sizeOf n
decreasing_by exact sizeOf_lt_of_mem_positions ‹_›

/-- The values among nodes in positions, with all values below them. -/
def valuesOf (l : List (Position × Node)) : List Node :=
  l.flatMap fun s => if s.1.isValue s.2 then s.2.values else []

theorem values_eq (n : Node) : n.values = valuesOf n.positions ++ [n] := by
  rw [values, valuesOf, List.flatMap_subtype (g := fun s => if s.1.isValue s.2 then s.2.values else []),
    List.unattach_attach]
  exact fun _ _ => rfl

section
variable {p : Position} {c : Node} {l l' : List (Position × Node)}

@[simp] theorem valuesOf_nil : valuesOf [] = [] := rfl

@[simp] theorem valuesOf_cons :
    valuesOf ((p, c) :: l) = (if p.isValue c then c.values else []) ++ valuesOf l := rfl

@[simp] theorem valuesOf_append : valuesOf (l ++ l') = valuesOf l ++ valuesOf l' :=
  List.flatMap_append

end

theorem mem_valuesOf {m : Node} {l : List (Position × Node)} :
    m ∈ valuesOf l ↔ ∃ p c, (p, c) ∈ l ∧ p.isValue c ∧ m ∈ c.values := by
  simp only [valuesOf, List.mem_flatMap, Prod.exists]
  refine exists_congr fun p => exists_congr fun c => and_congr_right fun _ => ?_
  split <;> simp [*]

/-- The list has the values of the tree and nothing else. -/
theorem mem_values {n m : Node} : m ∈ n.values ↔ n.HasValue m := by
  rw [values_eq, List.mem_append, mem_valuesOf, List.mem_singleton, hasValue_iff]
  constructor
  · rintro (⟨p, c, hc, value, hm⟩ | rfl)
    · have smaller := sizeOf_lt_of_mem_positions hc
      exact .inr ⟨c, ⟨p, hc, value⟩, mem_values.1 hm⟩
    · exact .inl rfl
  · rintro (rfl | ⟨c, ⟨p, hc, value⟩, hm⟩)
    · exact .inr rfl
    · have smaller := sizeOf_lt_of_mem_positions hc
      exact .inl ⟨p, c, hc, value, mem_values.2 hm⟩
termination_by sizeOf n

/-! Sums over the values of a tree. -/

/-- The sum of a weight over the values of a tree. -/
def tally (w : Node → Nat) (n : Node) : Nat :=
  (n.values.map w).sum

/-- The sum of a weight over the values among nodes in positions and below them. -/
def tallyOf (w : Node → Nat) (l : List (Position × Node)) : Nat :=
  (l.map fun s => if s.1.isValue s.2 then s.2.tally w else 0).sum

theorem tally_eq (w : Node → Nat) (n : Node) : n.tally w = tallyOf w n.positions + w n := by
  have below (l : List (Position × Node)) : ((valuesOf l).map w).sum = tallyOf w l := by
    induction l with
    | nil => rfl
    | cons s l ih =>
        rw [valuesOf_cons, List.map_append, List.sum_append, ih, tallyOf, tallyOf, List.map_cons,
          List.sum_cons]
        congr 1
        split <;> rfl
  rw [tally, values_eq, List.map_append, List.sum_append, below]
  simp

section
variable {w : Node → Nat} {p : Position} {c : Node} {l l' : List (Position × Node)}

@[simp] theorem tallyOf_nil : tallyOf w [] = 0 := rfl

@[simp] theorem tallyOf_cons :
    tallyOf w ((p, c) :: l) = (if p.isValue c then c.tally w else 0) + tallyOf w l := by
  simp [tallyOf]

@[simp] theorem tallyOf_append : tallyOf w (l ++ l') = tallyOf w l + tallyOf w l' := by
  simp [tallyOf]

@[simp] theorem tallyOf_each {ns : List Node} :
    tallyOf w (each p ns) = (ns.map fun c => if p.isValue c then c.tally w else 0).sum := by
  rw [tallyOf, each, List.map_map]
  rfl

end

/-- A weight sums up to nothing if no value has any. -/
theorem tally_eq_zero {w : Node → Nat} {n : Node} :
    n.tally w = 0 ↔ ∀ m, n.HasValue m → w m = 0 := by
  simp [tally, List.sum_eq_zero_iff_forall_eq_nat, mem_values]

/-- A sum of weights is summed up weight by weight. -/
theorem tally_add (v w : Node → Nat) (n : Node) :
    n.tally (fun m => v m + w m) = n.tally v + n.tally w :=
  List.sum_map_add

end CoScript.Node
