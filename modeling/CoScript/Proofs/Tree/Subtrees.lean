import CoScript.Proofs.Tree.Shape
import CoScript.Syntax.View

/-!
The nodes of a tree, those inside of types included, follow its positions.
-/
namespace CoScript.Node

theorem map_snd_each (p : Position) (ns : List Node) : (each p ns).map Prod.snd = ns := by
  simp [each, Function.comp_def]

theorem Part.map_snd_branches_children (label : String) (ns : List Node) :
    (Part.children label ns).branches.map Prod.snd = ns := by
  simp [Part.branches, List.mapIdx_eq_zipIdx_map, Function.comp_def]

/-- The nodes below a node are those in its positions. -/
theorem map_snd_branches (n : Node) : n.branches.map Prod.snd = n.positions.map Prod.snd := by
  unfold branches parts view
  cases n <;> simp [map_snd_each, Part.map_snd_branches_children] <;> simp [Part.branches]

theorem subtrees_eq (n : Node) :
    n.subtrees = if n.isPresent then n :: (n.positions.map Prod.snd).flatMap subtrees else [] := by
  rw [subtrees, ← map_snd_branches, List.flatMap_map,
    List.flatMap_subtype (g := fun s => s.2.subtrees) fun _ _ => rfl, List.unattach_attach]

/-- The nodes of a tree are the tree itself and the nodes of its children. -/
theorem mem_subtrees {n m : Node} :
    m ∈ n.subtrees ↔ n.isPresent ∧ (m = n ∨ ∃ p c, (p, c) ∈ n.positions ∧ m ∈ c.subtrees) := by
  rw [subtrees_eq]
  cases n.isPresent with
  | false => simp
  | true =>
      simp only [if_true, List.mem_cons, List.mem_flatMap, List.mem_map, Prod.exists, true_and]
      refine or_congr_right ⟨?_, ?_⟩
      · rintro ⟨_, ⟨p, c, hc, rfl⟩, hm⟩
        exact ⟨p, c, hc, hm⟩
      · rintro ⟨p, c, hc, hm⟩
        exact ⟨c, ⟨p, c, hc, rfl⟩, hm⟩

/-- What is below a child of a node is below the node. -/
theorem mem_subtrees_of_child {n c m : Node} {p : Position} (hc : (p, c) ∈ n.positions)
    (hm : m ∈ c.subtrees) : m ∈ n.subtrees := by
  have present : n.isPresent := by
    cases n with
    | absent => cases hc
    | _ => rfl
  exact mem_subtrees.2 ⟨present, .inr ⟨p, c, hc, hm⟩⟩

theorem Shaped.subtree {n m : Node} (h : n.Shaped) (hm : m ∈ n.subtrees) : m.Shaped := by
  induction h with
  | @of n fits below ih =>
      obtain ⟨-, rfl | ⟨p, c, hc, hm⟩⟩ := mem_subtrees.1 hm
      · exact .of fits below
      · exact ih p c hc hm

/-- The values of a tree are among its nodes. -/
theorem Shaped.mem_subtrees {n m : Node} (h : n.Shaped) (hm : n.HasValue m) (present : m.isPresent) :
    m ∈ n.subtrees := by
  induction h with
  | @of n fits below ih =>
      obtain rfl | ⟨c, ⟨p, hp, -⟩, hm⟩ := hasValue_iff.1 hm
      · exact Node.mem_subtrees.2 ⟨present, .inl rfl⟩
      · exact mem_subtrees_of_child hp (ih p c hp hm)

end CoScript.Node
