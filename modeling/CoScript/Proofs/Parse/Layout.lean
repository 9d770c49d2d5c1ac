import CoScript.Proofs.Parse.Budget
import CoScript.Proofs.Token.Meaning

/-!
The parser looks at what is written of a token and at whether a line break comes before it, and not at
where it stands. So two runs on tokens that are written alike make the same of them.
-/
namespace CoScript.Parse

open Phase (Admits Next)

/-- What is written of a token. -/
def written : Look where
  view t := { kind := t.kind, literal := t.literal, raw := t.raw }
  good _ := True
  shown _ := True
  shown_of_good := id
  faithful same := by
    simpa using same

/-- Tokens that are written alike, line breaks before them included. -/
structure Echo (t t' : Token) : Prop where
  kind : t.kind = t'.kind
  literal : t.literal = t'.literal
  raw : t.raw = t'.raw
  line : t.newlineBefore = t'.newlineBefore

theorem related_written {t t' : Token} (kind : t.kind = t'.kind) (literal : t.literal = t'.literal)
    (raw : t.raw = t'.raw) : Related written t t' :=
  ⟨by simp [Data.view, written, kind, literal, raw], trivial, trivial⟩

theorem Echo.related {t t' : Token} (h : Echo t t') : Related written t t' :=
  related_written h.kind h.literal h.raw

theorem Echo.refl (t : Token) : Echo t t :=
  ⟨rfl, rfl, rfl, rfl⟩

theorem Echo.is_eq {t t' : Token} (h : Echo t t') (k : Token.Kind) : t.is k = t'.is k := by
  rw [Token.is, Token.is, h.kind]

/-- Where a jump leads to. -/
abbrev Spot (p p' : Token × List Token) : Prop :=
  Related written p.1 p'.1 ∧ List.Forall₂ Echo p.2 p'.2

theorem closing?_spot {current current' : Token} {upcoming upcoming' : List Token} (depth : Nat)
    (same : Related written current current') (ahead : List.Forall₂ Echo upcoming upcoming') :
    Option.Rel Spot (closing? depth current upcoming) (closing? depth current' upcoming') := by
  have kind : current.kind = current'.kind := Token.kind_eq (L := written)
  have deepened (depth : Nat) {t t' : Token} (kind : t.kind = t'.kind) :
      closing?.deepened depth t = closing?.deepened depth t' := by
    rw [closing?.deepened, closing?.deepened, kind]
  induction ahead generalizing depth current current' with
  | nil =>
      rw [closing?, closing?, deepened depth kind]
      split_ifs
      · exact .some ⟨same, .nil⟩
      · exact .none
  | cons first rest ih =>
      rw [closing?, closing?, deepened depth kind, Token.is, Token.is, kind]
      split_ifs
      · exact .none
      · exact .some ⟨same, .cons first rest⟩
      · exact ih _ first.related first.kind

theorem recoverFrom_spot {current current' : Token} {upcoming upcoming' : List Token}
    (same : Related written current current') (ahead : List.Forall₂ Echo upcoming upcoming') :
    Spot (recoverFrom current upcoming) (recoverFrom current' upcoming') := by
  have kind : current.kind = current'.kind := Token.kind_eq (L := written)
  induction ahead generalizing current current' with
  | nil => exact ⟨same, .nil⟩
  | cons first rest ih =>
      have same_kind (k : Token.Kind) : current.is k = current'.is k := by
        rw [Token.is, Token.is, kind]
      rw [recoverFrom, recoverFrom, same_kind, same_kind, first.is_eq, first.is_eq, first.line]
      split_ifs
      · exact ⟨same, .cons first rest⟩
      · exact ih first.related first.kind

/-- States before tokens that are written alike. Whether a line break comes before the current token is
of no account. -/
structure State.Echoes (s s' : State) : Prop where
  current : Related written s.current s'.current
  upcoming : List.Forall₂ Echo s.upcoming s'.upcoming
  ending : Echo s.ending s'.ending
  noIn : s.noIn = s'.noIn
  complaints : List.Forall₂ (Related written) (s.complaints.map (·.fault))
    (s'.complaints.map (·.fault))

namespace State.Echoes

variable {s s' : State}

theorem peek (h : s.Echoes s') : Echo s.peek s'.peek := by
  have upcoming := h.upcoming
  rw [State.peek, State.peek]
  generalize s.upcoming = tokens, s'.upcoming = tokens' at upcoming
  cases upcoming with
  | nil => exact h.ending
  | cons first _ => exact first

theorem tail (h : s.Echoes s') : List.Forall₂ Echo s.upcoming.tail s'.upcoming.tail := by
  have upcoming := h.upcoming
  generalize s.upcoming = tokens, s'.upcoming = tokens' at upcoming
  cases upcoming with
  | nil => exact .nil
  | cons _ rest => exact rest

theorem advance (h : s.Echoes s') : s.advance.Echoes s'.advance :=
  { h with current := h.peek.related, upcoming := h.tail }

theorem complain (h : s.Echoes s') (t t' : Token) {f f' : Fault} (same : Related written f f') :
    (s.complain t f).Echoes (s'.complain t' f') := by
  have long : s.complaints.length = s'.complaints.length := by
    simpa using h.complaints.length_eq
  rw [State.complain, State.complain, long]
  split
  · exact h
  · refine { h with complaints := ?_ }
    rw [List.map_append, List.map_append]
    refine List.rel_append h.complaints (.cons ?_ .nil)
    dsimp only
    split
    · exact Fault.related rfl rfl rfl
    · exact same

theorem splitAngle (h : s.Echoes s') : s.splitAngle.Echoes s'.splitAngle := by
  refine { h with
    current := related_written rfl rfl rfl
    upcoming := .cons ⟨?_, ?_, ?_, rfl⟩ h.tail }
  · simp [afterAngle, h.peek.literal]
  · simp [afterAngle, h.peek.literal]
  · simp [afterAngle, h.peek.literal]

theorem closing (h : s.Echoes s') : Option.Rel State.Echoes s.closing? s'.closing? := by
  have spots := closing?_spot 0 h.current h.upcoming
  rw [State.closing?, State.closing?]
  generalize Parse.closing? 0 s.current s.upcoming = o,
    Parse.closing? 0 s'.current s'.upcoming = o' at spots
  cases spots with
  | none => exact .none
  | some spot => exact .some { h with current := spot.1, upcoming := spot.2 }

theorem recover (h : s.Echoes s') : (recover s).2.Echoes (recover s').2 :=
  have spot := recoverFrom_spot h.current h.upcoming
  { h with current := spot.1, upcoming := spot.2 }

theorem start (source : Text) : (State.start source).Echoes (State.start source) where
  current := ⟨rfl, trivial, trivial⟩
  upcoming := List.forall₂_same.2 fun t _ => .refl t
  ending := .refl _
  noIn := rfl
  complaints := List.forall₂_same.2 fun _ _ => ⟨rfl, fun _ => trivial, fun _ => trivial⟩

end State.Echoes

/-- States that echo each other are coupled in every phase. -/
def echoing : Coupling written where
  holds _ := State.Echoes
  current h := h.current
  peek h := h.peek.related
  line h := h.peek.line
  noIn h := h.noIn
  complaints h := h.complaints
  context _ h := { h with noIn := rfl }
  complain h _ _ _ same := h.complain _ _ same
  advance h := h.advance
  back _ h := h
  splitAngle _ _ h := h.splitAngle
  closing h := h.closing
  recover h := h.recover
  start _ _ _ _ := .start _

theorem echoing_even : echoing.Even :=
  fun _ _ _ _ h => h

/-! Scripts. -/

theorem echo_getLast {tokens tokens' : List Token} (h : List.Forall₂ Echo tokens tokens')
    (some : tokens ≠ []) (some' : tokens' ≠ []) :
    Echo (tokens.getLast some) (tokens'.getLast some') := by
  induction h with
  | nil => exact absurd rfl some
  | cons first rest ih =>
      cases rest with
      | nil => exact first
      | cons => exact ih (List.cons_ne_nil _ _) (List.cons_ne_nil _ _)

theorem State.start_echoes {source source' : Text}
    (h : List.Forall₂ Echo (Token.scan source) (Token.scan source')) :
    (start source).Echoes (start source') := by
  rw [start, start]
  generalize Token.scan source = tokens, Token.scan source' = tokens' at h
  cases h with
  | nil => exact ⟨⟨rfl, trivial, trivial⟩, .nil, .refl _, rfl, .nil⟩
  | cons first rest =>
      have last := echo_getLast (.cons first rest) (List.cons_ne_nil _ _) (List.cons_ne_nil _ _)
      exact ⟨first.related, rest, { last with line := rfl }, rfl, .nil⟩

/-- Scripts whose tokens are written alike are read alike: as trees that differ in tokens only, with
as much wrong with them. -/
theorem script_echoes {source source' : Text}
    (h : List.Forall₂ Echo (Token.scan source) (Token.scan source')) :
    (script source).program.Alike (script source').program ∧
      (script source).complaints.length = (script source').complaints.length := by
  have depth := Nat.le_max_left (depthBound source) (depthBound source')
  have depth' := Nat.le_max_right (depthBound source) (depthBound source')
  have together : Together echoing .moved (run (max _ _) .programItems) (run (max _ _) .programItems) :=
    (run_answer echoing_even (max (depthBound source) (depthBound source'))).goal rfl trivial
  obtain ⟨items, states⟩ := together.run (State.start_echoes h)
  rw [run_start depth, run_start depth'] at items states
  rw [script, script]
  dsimp only
  refine ⟨?_, Together.length_complaints (C := echoing) states⟩
  obtain ⟨none, none'⟩ | ⟨both, some, some'⟩ := items.option_cases
  · rw [none, none']
    rfl
  · rw [some, some']
    have trees : both.left.map (Node.mapTokens written.view) =
        both.right.map (Node.mapTokens written.view) := both.related.eq
    have whole : Related written (Node.program both.left) (Node.program both.right) :=
      .plain (congrArg Node.program (by simpa using trees)) rfl rfl
    exact Node.alike_of_related (h := whole)

end CoScript.Parse
