import Mathlib.Logic.Function.Iterate
import CoScript.Proofs.Parse.Grammar

/-!
What holds of the states of a single run. A condition on states that the steps of a parser keep couples
a run with itself, so the grammar keeps it.
-/
namespace CoScript.Parse

open Phase (Admits Next)

/-! Jumps of the parser are advances in a row. -/

theorem closing?_advance {s r : State} (h : s.closing? = some r) : ∃ n, r = State.advance^[n] s := by
  suffices advances : ∀ upcoming depth (s : State), s.upcoming = upcoming → ∀ last rest,
      closing? depth s.current upcoming = some (last, rest) →
      ∃ n, State.advance^[n] s = { s with current := last, upcoming := rest } by
    obtain ⟨⟨last, rest⟩, found, rfl⟩ := Option.map_eq_some_iff.1 h
    obtain ⟨n, there⟩ := advances s.upcoming 0 s rfl last rest found
    exact ⟨n, there.symm⟩
  intro upcoming
  induction upcoming with
  | nil =>
      intro depth s ended last rest found
      rw [closing?] at found
      split at found
      · cases found
        exact ⟨0, by simp [← ended]⟩
      · contradiction
  | cons t upcoming ih =>
      intro depth s ahead last rest found
      rw [closing?] at found
      split at found
      · contradiction
      split at found
      · cases found
        exact ⟨0, by simp [← ahead]⟩
      · have next : s.advance = { s with current := t, upcoming := upcoming } := by
          simp [State.advance, State.peek, ahead]
        obtain ⟨n, there⟩ := ih _ { s with current := t, upcoming := upcoming } rfl last rest found
        exact ⟨n + 1, by rw [Function.iterate_succ_apply, next, there]⟩

theorem recover_advance (s : State) : ∃ n, (recover s).2 = State.advance^[n] s := by
  suffices advances : ∀ upcoming (s : State), s.upcoming = upcoming → ∃ n, State.advance^[n] s =
      { s with
        current := (recoverFrom s.current upcoming).1
        upcoming := (recoverFrom s.current upcoming).2 } by
    obtain ⟨n, there⟩ := advances s.upcoming s rfl
    exact ⟨n, there.symm⟩
  intro upcoming
  induction upcoming with
  | nil =>
      intro s ended
      exact ⟨0, by simp [recoverFrom, ← ended]⟩
  | cons t rest ih =>
      intro s ahead
      rw [recoverFrom]
      split
      · exact ⟨0, by simp [← ahead]⟩
      · have next : s.advance = { s with current := t, upcoming := rest } := by
          simp [State.advance, State.peek, ahead]
        obtain ⟨n, there⟩ := ih { s with current := t, upcoming := rest } rfl
        exact ⟨n + 1, by rw [Function.iterate_succ_apply, next, there]⟩

/-- A condition on states, phase by phase, that the steps of a parser keep. -/
structure Invariant where
  /-- What holds of the tokens that are met. -/
  good : Token → Prop
  /-- What holds of the tokens at which something is reported. -/
  shown : Token → Prop
  shown_of_good {t : Token} : good t → shown t
  /-- Whether templates that cannot be split may be met. -/
  malformed : Prop := True
  malformed_of_good {t : Token} : good t → t.kind = .template →
    Template.split? t.literal = none → malformed := by intros; trivial
  holds : Phase → State → Prop
  current {φ s} [Admits 0 φ] : holds φ s → good s.current
  peek {φ s} : holds φ s → good s.peek
  context {φ s} (noIn : Bool) : holds φ s → holds φ { s with noIn := noIn }
  complaints {φ s} : holds φ s → ∀ c ∈ s.complaints, c.fault.isMalformed → malformed := by
    intros; trivial
  complain {φ s t} (f : Fault) : holds φ s → shown t → (f.isMalformed → malformed) →
    holds φ (s.complain t f)
  advance {φ ψ s} [Next φ ψ] : holds φ s → holds ψ s.advance
  /-- What holds further on holds within the whole phrase. -/
  back {φ ψ s r} [Next φ ψ] : holds φ s → holds ψ r → holds φ r
  splitAngle {φ s} [Admits 0 φ] {o : Operator} : o ∈ angled → s.peek.kind = .operator o →
    holds φ s → holds φ s.splitAngle
  start {t : Token} {body : Template.Body} {source : Text} : good t → t.kind = .template →
    Template.split? t.literal = some body → source ∈ body.sources → holds .moved (.start source)

namespace Invariant

variable (I : Invariant)

/-- Nothing of a token is left out of sight. -/
def look : Look where
  view := id
  good := I.good
  shown := I.shown
  shown_of_good := I.shown_of_good
  malformed := I.malformed
  malformed_of_good := I.malformed_of_good
  faithful := by
    rintro t _ rfl
    exact ⟨rfl, rfl, rfl⟩

variable {I} in
theorem node_eq {n n' : Node} (h : Related I.look n n') : n = n' := by
  have same := Node.mapTokens_eq h
  rwa [show I.look.view = id from rfl, Node.mapTokens_id, Node.mapTokens_id] at same

theorem iterate {φ : Phase} {s : State} [Admits 0 φ] (h : I.holds φ s) (n : Nat) :
    I.holds φ (State.advance^[n] s) := by
  induction n with
  | zero => exact h
  | succ n ih =>
      rw [Function.iterate_succ_apply']
      exact I.back h (I.advance ih)

/-- A run is coupled with itself. -/
def coupling : Coupling I.look where
  holds φ s s' := s = s' ∧ I.holds φ s
  current := by
    rintro φ s _ _ ⟨rfl, h⟩
    exact ⟨rfl, I.current h, I.current h⟩
  peek := by
    rintro φ s _ ⟨rfl, h⟩
    exact ⟨rfl, I.peek h, I.peek h⟩
  line := by
    rintro φ s _ ⟨rfl, -⟩
    rfl
  noIn := by
    rintro φ s _ ⟨rfl, -⟩
    rfl
  complaints := by
    rintro φ s _ ⟨rfl, h⟩
    refine List.forall₂_same.2 fun f hf => ?_
    obtain ⟨c, hc, rfl⟩ := List.mem_map.1 hf
    exact ⟨rfl, I.complaints h c hc, I.complaints h c hc⟩
  context := by
    rintro φ s _ noIn ⟨rfl, h⟩
    exact ⟨rfl, I.context noIn h⟩
  complain := by
    rintro φ s _ t _ f f' ⟨rfl, h⟩ rfl shown - same
    have equal : f.mapTokens id = f'.mapTokens id := same.eq
    rw [Fault.mapTokens_id, Fault.mapTokens_id] at equal
    exact ⟨by rw [equal]; rfl, I.complain f h shown same.good⟩
  advance := by
    rintro φ ψ s _ _ ⟨rfl, h⟩
    exact ⟨rfl, I.advance h⟩
  back := by
    rintro φ ψ s _ r _ _ ⟨rfl, h⟩ ⟨rfl, k⟩
    exact ⟨rfl, I.back h k⟩
  splitAngle := by
    rintro φ s _ _ o ho kind ⟨rfl, h⟩
    exact ⟨rfl, I.splitAngle ho kind h⟩
  closing := by
    rintro φ s _ _ ⟨rfl, h⟩
    cases found : s.closing? with
    | none => exact .none
    | some r =>
        obtain ⟨n, rfl⟩ := closing?_advance found
        exact .some ⟨rfl, I.iterate h n⟩
  recover := by
    rintro φ s _ _ ⟨rfl, h⟩
    obtain ⟨n, there⟩ := recover_advance s
    exact ⟨rfl, there ▸ I.iterate h n⟩
  start := fun same kind parts mem => ⟨rfl, I.start same.good kind parts mem⟩

end Invariant

/-- What can be reported at any token is kept by all moves, where any fault can be. -/
theorem Invariant.reaches {I : Invariant} (all : ∀ t, I.shown t) (any : I.malformed) {φ : Phase} [Admits 0 φ]
    {s s' : State} (h : Reaches s s') (holds : I.holds φ s) : I.holds φ s' := by
  refine h.preserves (fun s s' move holds => ?_) holds
  cases move with
  | advance => exact I.back holds (I.advance holds)
  | complain t f => exact I.complain f holds (all t) fun _ => any
  | context noIn => exact I.context noIn holds
  | angle =>
      obtain ⟨-, taken⟩ | ⟨o, ho, kind, taken⟩ | missed := expectAngleClose_cases s
      · rw [taken]
        exact I.back holds (I.advance holds)
      · rw [taken]
        exact I.splitAngle ho kind holds
      · rw [missed]
        exact I.complain _ holds (all _) fun _ => any

/-! Results. -/

/-- Data that are made of nodes. -/
class OfNodes (α : Type) [Data α] : Prop where
  view_id {L : Look} : L.view = id → Data.view L = (id : α → α)
  good {L : Look} : (∀ t, L.shown t) → ∀ a : α, Data.good L a

namespace OfNodes

instance : OfNodes Node where
  view_id h := funext fun n => by
    show n.mapTokens _ = n
    rw [h, Node.mapTokens_id]
  good all n t _ := all t

instance : OfNodes (List Node) where
  view_id h := by
    have view : Node.mapTokens _ = id := view_id (α := Node) h
    show List.map (Node.mapTokens _) = id
    rw [view, List.map_id_fun]
  good _ _ := trivial

instance {α β : Type} [Data α] [Data β] [OfNodes α] [OfNodes β] : OfNodes (α × β) where
  view_id h := by
    show Prod.map (Data.view _) (Data.view _) = id
    rw [view_id h, view_id h, Prod.map_id]
  good all p := ⟨good all p.1, good all p.2⟩

instance {α : Type} [Data α] [OfNodes α] : OfNodes (Option α) where
  view_id h := by
    show Option.map (Data.view _) = id
    rw [view_id h, Option.map_id]
  good all _ a _ := good all a

instance (g : Goal) : OfNodes g.Result :=
  match g with
  | .expression _ | .operators _ _ | .statement | .binding | .type _ | .typeOperators _ _
  | .typeName _ => inferInstanceAs (OfNodes Node)
  | .patternProperties => inferInstanceAs (OfNodes (List Node × Node))
  | .elements | .arguments | .properties | .programItems | .blockItems | .caseItems | .cases _
  | .declarators | .patternElements | .parameters | .typeArguments | .tupleElements | .members
  | .bases => inferInstanceAs (OfNodes (List Node))

variable {I : Invariant} {α : Type} [Data α] [OfNodes α] {a a' : α}

/-- Nothing of a token is out of sight, so related results are the same. -/
theorem eq_of_related (h : Related I.look a a') : a = a' := by
  have same := h.eq
  rwa [view_id (L := I.look) rfl] at same

theorem related_refl (all : ∀ t, I.shown t) (a : α) : Related I.look a a :=
  ⟨rfl, good all a, good all a⟩

end OfNodes

/-- Where anything can be reported, nodes that phrases go on from are related to themselves only. -/
theorem Invariant.answer_iff {I : Invariant} (all : ∀ t, I.shown t) {P : Goal → Phase → Prop}
    {r r' : Recur} :
    Answer I.coupling P r r' ↔ ∀ g φ, P g φ → Together I.coupling φ (r g) (r' g) := by
  constructor
  · intro answer g φ fits
    cases g with
    | operators level left => exact answer.operators (OfNodes.related_refl all left) fits
    | typeOperators level left => exact answer.typeOperators (OfNodes.related_refl all left) fits
    | typeName left => exact answer.typeName (OfNodes.related_refl all left) fits
    | _ => exact answer.goal rfl fits
  · intro each
    exact {
      goal := fun _ fits => each _ _ fits
      operators := fun related fits => node_eq related ▸ each (.operators _ _) _ fits
      typeOperators := fun related fits => node_eq related ▸ each (.typeOperators _ _) _ fits
      typeName := fun related fits => node_eq related ▸ each (.typeName _) _ fits }

/-- An invariant that takes no notice of the phase holds of whole runs. -/
theorem Invariant.run {I : Invariant} (even : ∀ φ ψ s, I.holds φ s → I.holds ψ s) (depth : Nat)
    {g : Goal} (free : g.left? = none) {φ : Phase} {s : State} (h : I.holds φ s) :
    I.holds φ (run depth g s).2 :=
  have answer := run_answer (C := I.coupling) (fun φ ψ s _ h => ⟨h.1, even φ ψ s h.2⟩) depth
  ((answer.goal free trivial).run ⟨rfl, h⟩).2.2

end CoScript.Parse
