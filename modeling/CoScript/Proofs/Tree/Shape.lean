import CoScript.Proofs.Tree.Position

/-!
Well-shaped trees, and the values of a tree. Both follow the children of a node by their positions, so
what a pass does to positions carries over to whole trees.
-/
namespace CoScript.Node

/-- A tree in which every node stands in a position that admits it. -/
inductive Shaped : Node → Prop
  | of {n : Node} (fits : ∀ p c, (p, c) ∈ n.positions → p.admits c)
      (below : ∀ p c, (p, c) ∈ n.positions → Shaped c) : Shaped n

/-- A well-shaped tree that may stand in a position. -/
structure FitsIn (n : Node) (p : Position) : Prop where
  admitted : p.admits n
  shaped : n.Shaped

/-- A property of all nodes in positions. -/
def Throughout (P : Position → Node → Prop) (l : List (Position × Node)) : Prop :=
  ∀ p c, (p, c) ∈ l → P p c

section
variable {P : Position → Node → Prop} {p : Position} {c : Node} {l l' : List (Position × Node)}

@[simp] theorem throughout_nil : Throughout P [] := by
  simp [Throughout]

@[simp] theorem throughout_cons : Throughout P ((p, c) :: l) ↔ P p c ∧ Throughout P l := by
  simp [Throughout, or_imp, forall_and]

@[simp] theorem throughout_append :
    Throughout P (l ++ l') ↔ Throughout P l ∧ Throughout P l' := by
  simp [Throughout, or_imp, forall_and]

@[simp] theorem throughout_each {ns : List Node} :
    Throughout P (each p ns) ↔ ∀ n ∈ ns, P p n := by
  constructor
  · exact fun h n hn => h p n (List.mem_map_of_mem hn)
  · intro h q c hc
    obtain ⟨n, hn, heq⟩ := List.mem_map.1 hc
    obtain ⟨rfl, rfl⟩ := Prod.mk.inj heq
    exact h n hn

end

/-- Nodes that each fit in the position they are listed with. -/
def Fit (l : List (Position × Node)) : Prop :=
  Throughout (fun p c => c.FitsIn p) l

/-- Nodes that all fit in positions of the same kind. -/
def AllFit (p : Position) (ns : List Node) : Prop :=
  ∀ n ∈ ns, n.FitsIn p

section
variable {p : Position} {c : Node} {l l' : List (Position × Node)}

@[simp] theorem fit_nil : Fit [] := throughout_nil

@[simp] theorem fit_cons : Fit ((p, c) :: l) ↔ c.FitsIn p ∧ Fit l := throughout_cons

@[simp] theorem fit_append : Fit (l ++ l') ↔ Fit l ∧ Fit l' := throughout_append

@[simp] theorem fit_each {ns : List Node} : Fit (each p ns) ↔ AllFit p ns := throughout_each

end

theorem allFit_nil (p : Position) : AllFit p [] := by
  simp [AllFit]

theorem AllFit.cons {p : Position} {n : Node} {ns : List Node} (h : n.FitsIn p)
    (k : AllFit p ns) : AllFit p (n :: ns) := by
  simpa [AllFit] using ⟨h, k⟩

theorem AllFit.singleton {p : Position} {n : Node} (h : n.FitsIn p) : AllFit p [n] :=
  .cons h (allFit_nil p)

theorem AllFit.append {p : Position} {ms ns : List Node} (h : AllFit p ms) (k : AllFit p ns) :
    AllFit p (ms ++ ns) := by
  intro n hn
  exact (List.mem_append.1 hn).elim (h n) (k n)

/-- Every child of a node fits in its position. -/
def ChildrenFit (n : Node) : Prop :=
  Fit n.positions

theorem ChildrenFit.shaped {n : Node} (h : n.ChildrenFit) : n.Shaped :=
  .of (fun p c hc => (h p c hc).admitted) fun p c hc => (h p c hc).shaped

theorem Shaped.childrenFit {n : Node} (h : n.Shaped) : n.ChildrenFit := by
  cases h with
  | of fits below => exact fun p c hc => ⟨fits p c hc, below p c hc⟩

theorem FitsIn.intro {n : Node} {p : Position} (admitted : p.admits n) (h : n.ChildrenFit) :
    n.FitsIn p :=
  ⟨admitted, h.shaped⟩

theorem FitsIn.childrenFit {n : Node} {p : Position} (h : n.FitsIn p) : n.ChildrenFit :=
  h.shaped.childrenFit

section
attribute [local simp] ChildrenFit

theorem ChildrenFit.leaf {n : Node} (h : n.positions = []) : n.ChildrenFit := by
  simp [h]

end

theorem absent_shaped : Shaped .absent :=
  (ChildrenFit.leaf rfl).shaped

theorem FitsIn.optional {n : Node} {p : Position} (h : n.FitsIn p) : n.FitsIn (.optional p) :=
  ⟨by simp [Position.admits, h.admitted], h.shaped⟩

theorem FitsIn.boundValue {n : Node} (h : n.FitsIn .binding) : n.FitsIn .boundValue :=
  ⟨Bool.or_eq_true_iff.2 (.inl h.admitted), h.shaped⟩

theorem FitsIn.boundElement {n : Node} (h : n.FitsIn .boundValue) : n.FitsIn .boundElement :=
  ⟨Bool.or_eq_true_iff.2 (.inl h.admitted), h.shaped⟩

theorem FitsIn.arrowBody {n : Node} (h : n.FitsIn .block) : n.FitsIn .arrowBody := by
  refine ⟨?_, h.shaped⟩
  cases n with
  | block => rfl
  | _ => cases h.admitted

theorem FitsIn.arrowValue {n : Node} (h : n.FitsIn .expression) : n.FitsIn .arrowBody :=
  ⟨canEndArrow_of_isExpression h.admitted, h.shaped⟩

theorem FitsIn.loopHead {n : Node} (h : n.FitsIn .expression) : n.FitsIn .loopHead :=
  ⟨canHeadLoop_of_isExpression h.admitted, h.shaped⟩

theorem FitsIn.blockStatement {n : Node} (h : n.FitsIn .block) : n.FitsIn .statement := by
  refine ⟨?_, h.shaped⟩
  cases n with
  | block => rfl
  | _ => cases h.admitted

theorem FitsIn.required {n : Node} {p : Position} (h : n.FitsIn (.optional p))
    (present : n.isPresent) : n.FitsIn p :=
  ⟨by simpa [Position.admits, present] using h.admitted, h.shaped⟩

theorem FitsIn.absent_or {n : Node} {p : Position} (h : n.FitsIn (.optional p)) :
    n = absent ∨ n.FitsIn p := by
  cases n with
  | absent => exact .inl rfl
  | _ => exact .inr (h.required rfl)

theorem FitsIn.functionValue {n : Node} (h : n.FitsIn .function) : n.FitsIn .expression := by
  refine ⟨?_, h.shaped⟩
  cases n with
  | function => rfl
  | _ => cases h.admitted

theorem FitsIn.templateValue {n : Node} (h : n.FitsIn .template) : n.FitsIn .expression := by
  refine ⟨?_, h.shaped⟩
  cases n with
  | template => rfl
  | _ => cases h.admitted

theorem FitsIn.inType {n : Node} {p : Position} (h : n.FitsIn p) : n.FitsIn (.inType p) :=
  ⟨h.admitted, h.shaped⟩

theorem AllFit.inType {ns : List Node} {p : Position} (h : AllFit p ns) : AllFit (.inType p) ns :=
  fun n hn => (h n hn).inType

theorem absent_fitsIn (p : Position) : absent.FitsIn (.optional p) :=
  ⟨rfl, absent_shaped⟩

/-- Replacing the children keeps a tree well shaped if each replacement fits where it is put. -/
theorem shaped_mapPositions {f : Position → Node → Node} {n : Node}
    (h : ∀ p c, (p, c) ∈ n.positions → (f p c).FitsIn p) : (n.mapPositions f).Shaped := by
  apply ChildrenFit.shaped
  intro p c hc
  rw [positions_mapPositions] at hc
  obtain ⟨s, hs, heq⟩ := List.mem_map.1 hc
  obtain ⟨rfl, rfl⟩ := Prod.mk.inj heq
  exact h s.1 s.2 hs

/-- Replacing each child by itself changes nothing. -/
theorem mapPositions_of_fixed {f : Position → Node → Node} {n : Node}
    (h : Throughout (fun p c => f p c = c) n.positions) : n.mapPositions f = n := by
  have list (p : Position) (ns : List Node) : (∀ c ∈ ns, f p c = c) ↔ ns.map (f p) = ns := by
    simpa using (List.map_inj_left (f := f p) (g := id) (l := ns)).symm
  cases n <;> simp only [positions, throughout_cons, throughout_append, throughout_each, list] at h <;>
    simp [mapPositions, h]

/-- Only replacing each child by itself changes nothing. -/
theorem fixed_of_mapPositions {f : Position → Node → Node} {n : Node} (h : n.mapPositions f = n) :
    Throughout (fun p c => f p c = c) n.positions := by
  intro p c hc
  have same := congrArg positions h
  rw [positions_mapPositions] at same
  have fixed := (List.map_inj_left (g := id)).1 (same.trans (List.map_id _).symm) (p, c) hc
  exact (Prod.mk.inj fixed).2

/-! Values. -/

/-- A node is a value directly below another one. -/
def HasChild (n c : Node) : Prop :=
  ∃ p, (p, c) ∈ n.positions ∧ p.isValue c

/-- A property of the values among nodes in positions. -/
def AllValues (P : Node → Prop) (l : List (Position × Node)) : Prop :=
  Throughout (fun p c => p.isValue c → P c) l

section
variable {P : Node → Prop} {p : Position} {c : Node} {l l' : List (Position × Node)}

@[simp] theorem allValues_nil : AllValues P [] := throughout_nil

@[simp] theorem allValues_cons :
    AllValues P ((p, c) :: l) ↔ (p.isValue c → P c) ∧ AllValues P l := throughout_cons

@[simp] theorem allValues_append :
    AllValues P (l ++ l') ↔ AllValues P l ∧ AllValues P l' := throughout_append

@[simp] theorem allValues_each {ns : List Node} :
    AllValues P (each p ns) ↔ ∀ n ∈ ns, p.isValue n → P n := throughout_each

theorem forall_hasChild {n : Node} : (∀ c, n.HasChild c → P c) ↔ AllValues P n.positions :=
  ⟨fun h p c hc value => h c ⟨p, hc, value⟩, fun h c ⟨p, hc, value⟩ => h p c hc value⟩

end

/-- A node is a value of a tree: it is the tree itself or stands in a value position of a value. -/
inductive HasValue (root : Node) : Node → Prop
  | root : HasValue root root
  | child {n c : Node} (above : HasValue root n) (below : n.HasChild c) : HasValue root c

theorem HasValue.trans {root n m : Node} (h : root.HasValue n) (k : n.HasValue m) :
    root.HasValue m := by
  induction k with
  | root => exact h
  | child _ below ih => exact .child ih below

/-- The values of a tree are the tree itself and the values of its children. -/
theorem hasValue_iff {n m : Node} :
    n.HasValue m ↔ m = n ∨ ∃ c, n.HasChild c ∧ c.HasValue m := by
  constructor
  · intro h
    induction h with
    | root => exact .inl rfl
    | child above below ih =>
        rcases ih with rfl | ⟨c, hc, hm⟩
        · exact .inr ⟨_, below, .root⟩
        · exact .inr ⟨c, hc, .child hm below⟩
  · rintro (rfl | ⟨c, hc, hm⟩)
    · exact .root
    · exact (HasValue.child .root hc).trans hm

/-- What holds of all values of a tree. -/
theorem forall_hasValue {P : Node → Prop} {n : Node} :
    (∀ m, n.HasValue m → P m) ↔
      P n ∧ AllValues (fun c => ∀ m, c.HasValue m → P m) n.positions := by
  rw [← forall_hasChild]
  constructor
  · exact fun h => ⟨h n .root, fun c hc m hm => h m (hasValue_iff.2 (.inr ⟨c, hc, hm⟩))⟩
  · rintro ⟨here, below⟩ m hm
    obtain rfl | ⟨c, hc, hm⟩ := hasValue_iff.1 hm
    · exact here
    · exact below c hc m hm

theorem Shaped.child {n c : Node} (h : n.Shaped) (hc : n.HasChild c) : c.Shaped := by
  obtain ⟨p, hp, _⟩ := hc
  exact (h.childrenFit p c hp).shaped

theorem Shaped.value {n m : Node} (h : n.Shaped) (hm : n.HasValue m) : m.Shaped := by
  induction hm with
  | root => exact h
  | child _ below ih => exact ih.child below

end CoScript.Node
