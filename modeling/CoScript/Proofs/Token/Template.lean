import CoScript.Token.Template

/-!
How templates fall into parts: each chunk of text and each substitution stands in the body as it is.
-/
namespace CoScript.Template

theorem infix_cons {p t : Text} (h : p <:+: t) (g : Glyph) : p <:+: g :: t :=
  h.trans (List.suffix_cons g t).isInfix

/-- Parts stand in the text, and the first one at its start unless a substitution is to be opened. -/
structure PartsOf (place : Place) (t : Text) (parts : List Text) : Prop where
  inside : ∀ p ∈ parts, p <:+: t
  first : place ≠ .opening → ∀ p ∈ parts.head?, p <+: t

theorem PartsOf.prepend {place place' : Place} {t : Text} {parts : List Text} {g : Glyph}
    (h : PartsOf place t parts) (inside : place ≠ .opening) :
    PartsOf place' (g :: t) (prepend g parts) := by
  cases parts with
  | nil =>
      have alone : [g] <+: g :: t := ⟨t, rfl⟩
      exact ⟨by simpa [Template.prepend] using alone.isInfix, fun _ => by simp [Template.prepend]⟩
  | cons p parts =>
      have first : g :: p <+: g :: t := List.cons_prefix_cons.2 ⟨rfl, h.first inside p rfl⟩
      refine ⟨fun q hq => ?_, fun _ q hq => ?_⟩
      · obtain rfl | later := List.mem_cons.1 hq
        · exact first.isInfix
        · exact infix_cons (h.inside q (List.mem_cons_of_mem p later)) g
      · cases hq
        exact first

theorem PartsOf.behind {place place' : Place} {t : Text} {parts : List Text} (g : Glyph)
    (h : PartsOf place t parts) : PartsOf place' (g :: t) ([] :: parts) where
  inside p hp := by
    obtain rfl | later := List.mem_cons.1 hp
    · exact List.nil_infix
    · exact infix_cons (h.inside p later) g
  first _ p hp := by
    cases hp
    exact List.nil_prefix

theorem partsFrom_partsOf {place : Place} {t : Text} {parts : List Text}
    (h : partsFrom place t = some parts) : PartsOf place t parts := by
  fun_induction partsFrom place t generalizing parts with
  | case1 | case2 =>
      cases h
      exact ⟨by simp, by simp⟩
  | case3 | case4 | case10 => cases h
  | case5 _ _ _ ih | case7 _ _ _ _ ih | case8 _ _ ih | case12 _ _ _ _ _ _ _ _ ih =>
      obtain ⟨parts, found, rfl⟩ := Option.map_eq_some_iff.1 h
      exact (ih found).prepend nofun
  | case6 g _ _ _ ih | case11 _ _ g _ _ _ ih =>
      obtain ⟨parts, found, rfl⟩ := Option.map_eq_some_iff.1 h
      exact (ih found).behind g
  | case9 g rest ih => exact ⟨fun p hp => infix_cons ((ih h).inside p hp) g, fun other => absurd rfl other⟩

theorem mem_of_mem_alternate {α : Type} {a : α} {l : List α} (h : a ∈ alternate l) : a ∈ l := by
  fun_induction alternate l with
  | case1 => exact h
  | case2 => exact h
  | case3 b c rest ih =>
      obtain rfl | later := List.mem_cons.1 h
      · exact List.mem_cons_self
      · exact List.mem_cons_of_mem _ (List.mem_cons_of_mem _ (ih later))

/-- The substitutions of a template stand in its body. -/
theorem source_infix {t source : Text} {body : Body} (h : split? t = some body)
    (mem : source ∈ body.sources) : source <:+: t := by
  obtain ⟨parts, found, rfl⟩ := Option.map_eq_some_iff.1 h
  exact (partsFrom_partsOf found).inside source (List.mem_of_mem_tail (mem_of_mem_alternate mem))

end CoScript.Template
