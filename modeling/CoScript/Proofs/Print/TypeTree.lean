import CoScript.Parse.TypeExpression
import CoScript.Proofs.Print.OperatorTree
import CoScript.Proofs.Token.Angles

/-!
Type trees: types made up of names, type arguments, arrays, unions, intersections, parentheses and tuples.
They are printed as words in a row, among which closing angle brackets may be next to each other.
-/
namespace CoScript

namespace Word

/-! Words in a row that make up a type. -/

/-- Phrases with a word and a blank between them. -/
def joined (w : Word) : List (List Word) → List Word
  | [] => []
  | ws :: wss => ws ++ wss.flatMap fun vs => w :: spaced .blank vs

theorem spaced_append {ws : List Word} (h : ws ≠ []) (gap : Gap) (vs : List Word) :
    spaced gap (ws ++ vs) = spaced gap ws ++ vs := by
  cases ws with
  | nil => exact absurd rfl h
  | cons w ws => rfl

/-- Phrases in front of others. -/
theorem joined_cons (w : Word) (ws : List Word) {vs : List Word} (h : vs ≠ []) (wss : List (List Word)) :
    joined w (ws :: vs :: wss) = ws ++ w :: spaced .blank (joined w (vs :: wss)) := by
  rw [joined, joined, List.flatMap_cons, spaced_append h, List.cons_append]

/-- Whether a word may be the first one of a type. -/
def startsType (w : Word) : Bool :=
  match w.kind with
  | .identifier | .keyword _ => true
  | .operator o => o ∈ [.parenOpen, .bracketOpen]
  | _ => false

/-- Whether a word may be the last one of a type. -/
def endsType (w : Word) : Bool :=
  match w.kind with
  | .identifier | .keyword _ => true
  | .operator o => o ∈ [.parenClose, .bracketClose, .greater]
  | _ => false

/-- The punctuation that may stand behind a type or a part of it without a blank. -/
def behindType : List Operator :=
  [.comma, .parenClose, .bracketOpen, .bracketClose, .less, .greater, .dot]

theorem behindType_plain {o : Operator} (h : o ∈ behindType) :
    (sign o).divides = false ∧ (sign o).Sound ∧ (sign o).isWhole ∧
      ∃ c, txt o.spelling = [.char c] ∧ isNamePart c = false ∧
        ∀ p ∈ [Operator.parenClose, .bracketClose, .greater], ¬(p = .greater ∧ o = .greater) →
          p.endsBefore (.char c) := by
  simp only [behindType, List.mem_cons, List.not_mem_nil, or_false] at h
  rcases h with rfl | rfl | rfl | rfl | rfl | rfl | rfl <;>
    exact ⟨rfl, sign_sound _ _ (by decide), rfl, _, rfl, rfl, by decide⟩

section
variable {u v w : Word} {ws vs : List Word}

/-- Punctuation may stand behind a type, closing angle brackets behind each other. -/
theorem Sound.meets_sign (h : u.Sound) (ends : u.endsType) {o : Operator} (ho : o ∈ behindType) :
    u.Meets (sign o) := by
  obtain ⟨plain, -, -, c, spelled, name, closing⟩ := behindType_plain ho
  by_cases angles : u.kind = .operator .greater ∧ o = .greater
  · exact .inr ⟨angles.1, by rw [angles.2]⟩
  refine .inl (h.before (fun slash => absurd (plain.symm.trans slash) Bool.false_ne_true) fun _ g hg => ?_)
  obtain rfl : .char c = g := by
    rw [show (sign o).text = [.char c] from spelled] at hg
    exact Option.some.inj hg
  obtain ⟨kind, text, gap⟩ := u
  cases kind with
  | identifier | keyword => exact name
  | operator p => exact closing p (by simpa [endsType] using ends) (by simpa using angles)
  | _ => cases ends

theorem divides_of_startsType (h : w.startsType) : w.divides = false := by
  obtain ⟨kind, text, gap⟩ := w
  cases kind with
  | operator o =>
      simp only [startsType, List.mem_cons, List.not_mem_nil, or_false, decide_eq_true_eq] at h
      rcases h with rfl | rfl <;> rfl
  | _ => rfl

/-- A bracket may stand before what starts a type. -/
theorem opening_before {o : Operator} (ho : o ∈ [Operator.parenOpen, .bracketOpen, .less]) (h : v.Sound)
    (starts : v.startsType) : (sign o).Before v := by
  have single : (sign o).Sound := by
    simp only [List.mem_cons, List.not_mem_nil, or_false] at ho
    rcases ho with rfl | rfl | rfl <;> exact sign_sound _ _ (by decide)
  have joined : ∀ o ∈ [Operator.parenOpen, .bracketOpen, .less],
      o.continuations ⊆ txt "<=" ∧ o ≠ .slash ∧ o ≠ .dot := by decide
  have any : ∀ g ∉ txt "<=", o.endsBefore g := fun g apart =>
    Operator.endsBefore_of (fun mem => apart ((joined o ho).1 mem)) (absurd · (joined o ho).2.1)
      (absurd · (joined o ho).2.2)
  refine single.before (fun slash => ?_) fun _ g hg => ?_
  · exact absurd ((divides_of_startsType starts).symm.trans slash) Bool.false_ne_true
  have named (held : g.holds isNameStart) : o.endsBefore g := by
    have other : ∀ g ∈ txt "<=", g.holds isNameStart = false := by decide
    exact any g fun mem => absurd held (Bool.eq_false_iff.1 (other g mem))
  obtain ⟨kind, text, gap⟩ := v
  cases kind with
  | identifier | keyword =>
      obtain ⟨g', t, m, written, -, kind, -⟩ := ReadsAs.lexeme h (by rintro ⟨⟩) (by rintro ⟨⟩)
      obtain rfl : text = _ := written
      obtain rfl := Option.some.inj hg
      exact named (name_of_lexeme (by simp) kind)
  | operator p =>
      obtain ⟨rfl, -⟩ := h
      simp only [startsType, List.mem_cons, List.not_mem_nil, or_false, decide_eq_true_eq] at starts
      rcases starts with rfl | rfl <;>
        (obtain rfl := Option.some.inj hg; exact any _ (by decide))
  | _ => cases starts

theorem isWhole_of_startsType (h : w.startsType) : w.isWhole := by
  obtain ⟨kind, text, gap⟩ := w
  cases kind with
  | operator o =>
      simp only [startsType, List.mem_cons, List.not_mem_nil, or_false, decide_eq_true_eq] at h
      rcases h with rfl | rfl <;> rfl
  | _ => rfl

end

/-- Words that can be a type. -/
structure TypeRow (ws : List Word) : Prop extends Row ws where
  starts : ∃ w ∈ ws.head?, w.startsType ∧ w.gap = .none
  ends : ∃ w ∈ ws.getLast?, w.endsType

namespace TypeRow

variable {u v w : Word} {ws vs : List Word}

theorem ne_nil (h : TypeRow ws) : ws ≠ [] := by
  rintro rfl
  obtain ⟨w, hw, -⟩ := h.starts
  cases hw

theorem single (sound : w.Sound) (starts : w.startsType) (ends : w.endsType) (gap : w.gap = .none) :
    TypeRow [w] :=
  ⟨.singleton sound (isWhole_of_startsType starts), ⟨w, rfl, starts, gap⟩, ⟨w, rfl, ends⟩⟩

/-- What is known of the first word. -/
theorem first (h : TypeRow ws) : ∃ w us, ws = w :: us ∧ w.Sound ∧ w.startsType ∧ w.gap = .none := by
  obtain ⟨w, hw, starts, gap⟩ := h.starts
  obtain ⟨us, rfl⟩ := List.head?_eq_some_iff.1 hw
  exact ⟨w, us, rfl, h.sound w List.mem_cons_self, starts, gap⟩

/-- What is known of the last word. -/
theorem last (h : TypeRow ws) (hu : u ∈ ws.getLast?) : u.Sound ∧ u.endsType := by
  obtain ⟨w, hw, ends⟩ := h.ends
  obtain rfl := Option.some.inj (hu.symm.trans hw)
  exact ⟨h.sound u (List.mem_of_getLast? hu), ends⟩

theorem spell_spaced (h : TypeRow ws) (gap : Gap) : spell (spaced gap ws) = gap.text ++ spell ws := by
  obtain ⟨w, us, rfl, -, -, none⟩ := h.first
  simp [spaced, spell_cons, print, none, Gap.text]

theorem spaced_none (h : TypeRow ws) : spaced .none ws = ws := by
  obtain ⟨w, us, rfl, -, -, none⟩ := h.first
  rw [spaced, ← none]

/-- Types with a word between each two start with no space. -/
theorem spaced_joined {wss : List (List Word)} (h : ∀ ws ∈ wss, TypeRow ws) :
    spaced .none (Word.joined w wss) = Word.joined w wss := by
  cases wss with
  | nil => rfl
  | cons ws wss =>
      have first := h ws List.mem_cons_self
      rw [Word.joined, spaced_append first.ne_nil, first.spaced_none]

/-- Words that go on after a type. -/
theorem append (hw : TypeRow ws) (hv : Row vs) (meet : ∀ u ∈ ws.getLast?, ∀ v ∈ vs.head?, u.Meets v)
    (ends : ∃ w ∈ vs.getLast?, w.endsType) : TypeRow (ws ++ vs) := by
  refine ⟨hw.toRow.append hv meet, ?_, ?_⟩
  · obtain ⟨w, first, starts⟩ := hw.starts
    exact ⟨w, (List.head?_append_of_ne_nil _ hw.ne_nil).trans first, starts⟩
  · obtain ⟨w, last, ends⟩ := ends
    exact ⟨w, by simp [List.getLast?_append, Option.mem_def.1 last], ends⟩

/-- Words that go on with punctuation after a type. -/
theorem followed (h : TypeRow ws) {o : Operator} (ho : o ∈ behindType) (hv : Row (sign o :: vs))
    (ends : ∃ w ∈ (sign o :: vs).getLast?, w.endsType) : TypeRow (ws ++ sign o :: vs) := by
  refine h.append hv (fun u hu v hv => ?_) ends
  obtain rfl := Option.some.inj hv
  obtain ⟨sound, last⟩ := h.last hu
  exact sound.meets_sign last ho

/-- A blank lets a type follow every word. -/
theorem after (h : TypeRow ws) (sound : w.Sound) (whole : w.isWhole) : Row (w :: spaced .blank ws) := by
  obtain ⟨v, us, rfl, first, starts, -⟩ := h.first
  refine .cons sound whole ⟨?_, ?_, ?_⟩ ?_
  · exact List.forall_mem_cons.2 ⟨first.spaced .blank, (List.forall_mem_cons.1 h.sound).2⟩
  · exact List.forall_mem_cons.2 (List.forall_mem_cons.1 h.whole)
  · cases us with
    | nil => exact .singleton _
    | cons u us =>
        obtain ⟨meets, rest⟩ := List.isChain_cons_cons.1 h.chain
        exact List.isChain_cons_cons.2 ⟨meets.imp Before.of_spaced id, rest⟩
  · rintro _ ⟨⟩
    refine .inl (sound.before (fun slash => ?_) nofun)
    exact absurd ((divides_of_startsType starts).symm.trans slash) Bool.false_ne_true

/-- Two types with a word between them. -/
theorem between (hw : TypeRow ws) (hv : TypeRow vs) (sound : w.Sound) (whole : w.isWhole)
    (meet : ∀ u : Word, u.Sound → u.endsType → u.Meets w) :
    TypeRow (ws ++ w :: spaced .blank vs) := by
  refine hw.append (hv.after sound whole) (fun u hu v hv => ?_) ?_
  · obtain rfl := Option.some.inj hv
    obtain ⟨sound, ends⟩ := hw.last hu
    exact meet u sound ends
  · obtain ⟨u, hu, ends⟩ := hv.ends
    obtain ⟨v, us, rfl, -⟩ := hv.first
    cases us with
    | nil =>
        obtain rfl := Option.some.inj hu
        exact ⟨_, rfl, ends⟩
    | cons v us => exact ⟨u, by simpa [spaced, List.getLast?_cons] using hu, ends⟩

/-- Types with a word between each two. -/
theorem joined {wss : List (List Word)} (h : ∀ ws ∈ wss, TypeRow ws) (sound : w.Sound)
    (whole : w.isWhole) (meet : ∀ u : Word, u.Sound → u.endsType → u.Meets w) :
    joined w wss = [] ∨ TypeRow (joined w wss) := by
  cases wss with
  | nil => exact .inl rfl
  | cons ws wss =>
      refine .inr ?_
      obtain ⟨first, rest⟩ := List.forall_mem_cons.1 h
      clear h
      rw [Word.joined]
      induction wss generalizing ws with
      | nil => simpa using first
      | cons vs wss ih =>
          obtain ⟨second, rest⟩ := List.forall_mem_cons.1 rest
          simpa using ih _ (first.between second sound whole meet) rest

/-- The brackets of types. -/
def brackets : List (Operator × Operator) :=
  [(.parenOpen, .parenClose), (.bracketOpen, .bracketClose), (.less, .greater)]

/-- A type between brackets, or nothing. -/
theorem enclosed (opening closing : Operator) (h : (opening, closing) ∈ brackets)
    (hw : ws = [] ∨ TypeRow ws) : Row (enclosed opening closing ws) ∧
      ∃ w ∈ (enclosed opening closing ws).getLast?, w.endsType := by
  have signs : opening ∈ [.parenOpen, .bracketOpen, .less] ∧ closing ∈ behindType ∧
      (sign opening).Sound ∧ (sign opening).isWhole ∧ (sign closing).endsType ∧
      (sign opening).Before (sign closing) := by
    simp only [brackets, List.mem_cons, List.not_mem_nil, or_false, Prod.mk.injEq] at h
    rcases h with ⟨rfl, rfl⟩ | ⟨rfl, rfl⟩ | ⟨rfl, rfl⟩ <;>
      exact ⟨by decide, by decide, sign_sound _ _ (by decide), rfl, rfl, by rintro _ ⟨⟩; rfl, nofun⟩
  obtain ⟨opens, closes, sound, whole, ends, empty⟩ := signs
  obtain ⟨-, sound', whole', -⟩ := behindType_plain closes
  have last : Row [sign closing] := .singleton sound' whole'
  refine ⟨?_, sign closing, by simp [Word.enclosed, List.getLast?_cons], ends⟩
  obtain rfl | row := hw
  · refine .cons sound whole last fun v hv => ?_
    obtain rfl := Option.some.inj hv
    exact .inl empty
  · refine .cons sound whole (row.followed closes last ⟨_, rfl, ends⟩).toRow fun v hv => ?_
    obtain ⟨w, us, rfl, first, starts, -⟩ := row.first
    obtain rfl := Option.some.inj hv
    exact .inl (opening_before opens first starts)

end TypeRow

end Word

namespace Node

open Word

/-- The names of the types that are known by themselves. -/
def keywordTypes : List String :=
  Parse.builtinTypes ++ ["void", "null"]

/-- The name of a type: identifiers with points between them. -/
inductive IsTypeName : Node → Prop
  | identifier {t : Token} {name : Text} (word : ReadsAs .identifier name) :
      IsTypeName (.identifier t name)
  | qualified {t u : Token} {left : Node} {name : Text} (whole : IsTypeName left)
      (word : ReadsAs .identifier name) : IsTypeName (.qualifiedName t left (.identifier u name))

/-- Whether a name is that of a built-in type. -/
def isBuiltinType : Node → Bool
  | identifier _ name => Parse.builtinTypes.any (txt · == name)
  | _ => false

/-- The binding strength of a type. -/
def typeLevel : Node → Nat
  | unionType _ _ => Level.union
  | intersectionType _ _ => Level.intersection
  | _ => Level.intersection + 1

/-- A type made up of names, type arguments, arrays, unions, intersections, parentheses and tuples. The
element of an array is no union or intersection, the members of an intersection are neither, and those of
a union are no unions. -/
inductive IsTypeTree : Node → Prop
  | keyword {t : Token} {name : String} (known : name ∈ keywordTypes) :
      IsTypeTree (.keywordType t (txt name))
  | reference {t : Token} {name : Node} {args : List Node} (word : IsTypeName name)
      (free : name.isBuiltinType = false) (elements : ∀ a ∈ args, IsTypeTree a) :
      IsTypeTree (.typeReference t name args)
  | array {t : Token} {e : Node} (tight : Level.intersection < e.typeLevel) (element : IsTypeTree e) :
      IsTypeTree (.arrayType t e)
  | union {t : Token} {first second : Node} {others : List Node}
      (tight : ∀ e ∈ first :: second :: others, Level.union < e.typeLevel)
      (elements : ∀ e ∈ first :: second :: others, IsTypeTree e) :
      IsTypeTree (.unionType t (first :: second :: others))
  | intersection {t : Token} {first second : Node} {others : List Node}
      (tight : ∀ e ∈ first :: second :: others, Level.intersection < e.typeLevel)
      (elements : ∀ e ∈ first :: second :: others, IsTypeTree e) :
      IsTypeTree (.intersectionType t (first :: second :: others))
  | parenthesized {t : Token} {e : Node} (inner : IsTypeTree e) : IsTypeTree (.parenthesizedType t e)
  | tuple {t : Token} {es : List Node} (elements : ∀ e ∈ es, IsTypeTree e) :
      IsTypeTree (.tupleType t es)

mutual

/-- The words that a type tree is written as. -/
def typeWords : Node → List Word
  | identifier _ name => [⟨.identifier, name, .none⟩]
  | qualifiedName _ left right => left.typeWords ++ sign .dot :: right.typeWords
  | keywordType _ name => [⟨.ofWord name, name, .none⟩]
  | typeReference _ name args =>
    name.typeWords ++
      if args.isEmpty then []
      else enclosed .less .greater (joined (sign .comma) (typeWordsAll args))
  | arrayType _ e => e.typeWords ++ enclosed .bracketOpen .bracketClose []
  | unionType _ types => joined (sign .pipe .blank) (typeWordsAll types)
  | intersectionType _ types => joined (sign .ampersand .blank) (typeWordsAll types)
  | parenthesizedType _ type => enclosed .parenOpen .parenClose type.typeWords
  | tupleType _ es => enclosed .bracketOpen .bracketClose (joined (sign .comma) (typeWordsAll es))
  | _ => []

/-- The words that type trees are written as. -/
def typeWordsAll : List Node → List (List Word)
  | [] => []
  | n :: ns => n.typeWords :: typeWordsAll ns

end

attribute [local simp] typeWords typeWordsAll

theorem typeWordsAll_eq_map (ns : List Node) : typeWordsAll ns = ns.map typeWords := by
  induction ns with
  | nil => rfl
  | cons n ns ih => simp [ih]

/-- The name of a type is a row of words that starts with an identifier. -/
theorem IsTypeName.row {n : Node} (h : n.IsTypeName) : TypeRow n.typeWords := by
  have single {name : Text} (word : ReadsAs .identifier name) : TypeRow [⟨.identifier, name, .none⟩] :=
    .single word rfl rfl rfl
  induction h with
  | identifier word => exact single word
  | @qualified t u left name whole word ih =>
      refine ih.followed (o := .dot) (by decide) ?_ ⟨_, rfl, rfl⟩
      refine .cons (sign_sound .dot .none (by decide)) rfl (single word).toRow fun v hv => ?_
      obtain rfl := Option.some.inj hv
      exact .inl ((sign_sound .dot .none (by decide)).point_before rfl word rfl)

/-- The types that are known by themselves are single words. -/
theorem keywordType_row {name : String} (known : name ∈ keywordTypes) :
    TypeRow [⟨.ofWord (txt name), txt name, .none⟩] := by
  have plain : ∃ c cs, txt name = .ofChars (c :: cs) ∧ isPlainLetter c ∧
      ∀ d ∈ cs, isPlainLetter d ∨ d.isDigit := by
    simp only [keywordTypes, Parse.builtinTypes, List.cons_append, List.nil_append, List.mem_cons,
      List.not_mem_nil, or_false] at known
    rcases known with rfl | rfl | rfl | rfl | rfl | rfl | rfl | rfl | rfl | rfl | rfl | rfl <;>
      exact ⟨_, _, rfl, by decide, forall_mem_of_all (by decide)⟩
  obtain ⟨c, cs, spelled, start, parts⟩ := plain
  have read := readsAs_word start parts
  rw [← spelled] at read
  have word : ∀ k, k = .ofWord (txt name) → TypeRow [⟨k, txt name, .none⟩] := by
    intro k hk
    rw [← hk] at read
    rw [Token.Kind.ofWord] at hk
    split at hk <;> (subst hk; exact .single read rfl rfl rfl)
  exact word _ rfl

namespace IsTypeTree

/-- A type tree is a row of words. -/
theorem row {n : Node} (h : n.IsTypeTree) : TypeRow n.typeWords := by
  have all {ns : List Node} (rows : ∀ e ∈ ns, TypeRow e.typeWords) :
      ∀ ws ∈ typeWordsAll ns, TypeRow ws := by
    rw [typeWordsAll_eq_map]
    exact List.forall_mem_map.2 rows
  have commas {ns : List Node} (rows : ∀ e ∈ ns, TypeRow e.typeWords) :=
    TypeRow.joined (all rows) (sign_sound .comma .none (by decide)) rfl
      fun u sound ends => sound.meets_sign ends (by decide)
  have operators {o : Operator} {first second : Node} {others : List Node}
      (rows : ∀ e ∈ first :: second :: others, TypeRow e.typeWords) (sound : (sign o .blank).Sound)
      (whole : (sign o .blank).isWhole) (plain : (sign o .blank).divides = false) :
      TypeRow (joined (sign o .blank) (typeWordsAll (first :: second :: others))) := by
    obtain none | row := TypeRow.joined (all rows) sound whole fun u here _ =>
      .inl (here.before (fun slash => absurd (plain.symm.trans slash) Bool.false_ne_true) nofun)
    · exact absurd none (List.append_ne_nil_of_left_ne_nil (rows first List.mem_cons_self).ne_nil _)
    · exact row
  induction h with
  | keyword known => exact keywordType_row known
  | @reference t name args word free elements ih =>
      cases args with
      | nil => simpa using word.row
      | cons a args =>
          obtain ⟨row, ends⟩ := TypeRow.enclosed .less .greater (by decide) (commas ih)
          exact word.row.followed (by decide) row ends
  | @array t e tight element ih =>
      obtain ⟨row, ends⟩ := TypeRow.enclosed .bracketOpen .bracketClose (by decide) (.inl rfl)
      exact ih.followed (by decide) row ends
  | union tight elements ih => exact operators ih (sign_sound .pipe .blank (by decide)) rfl rfl
  | intersection tight elements ih => exact operators ih (sign_sound .ampersand .blank (by decide)) rfl rfl
  | @parenthesized t e inner ih =>
      obtain ⟨row, ends⟩ := TypeRow.enclosed .parenOpen .parenClose (by decide) (.inr ih)
      exact ⟨row, ⟨_, rfl, rfl, rfl⟩, ends⟩
  | @tuple t es elements ih =>
      obtain ⟨row, ends⟩ := TypeRow.enclosed .bracketOpen .bracketClose (by decide) (commas ih)
      exact ⟨row, ⟨_, rfl, rfl, rfl⟩, ends⟩

end IsTypeTree

end Node

namespace Print

open Word Node

/-- Types with a separator between each two. -/
theorem Doc.Writes.joined {ds : List Doc} {wss : List (List Word)} {w : Word} {separator : String}
    (rows : ∀ ws ∈ wss, TypeRow ws) (written : w.print ++ txt " " = txt separator)
    (h : List.Forall₂ (fun d ws => d.Writes (spell ws)) ds wss) :
    (Doc.join separator ds).Writes (spell (joined w wss)) := by
  induction h with
  | nil => exact .text []
  | @cons d ws ds wss first rest ih =>
      obtain ⟨-, others⟩ := List.forall_mem_cons.1 rows
      cases rest with
      | nil =>
          rw [Word.joined, List.flatMap_nil, List.append_nil]
          exact first
      | @cons e vs ds wss second rest =>
          have text : spell (Word.joined w (ws :: vs :: wss)) =
              spell ws ++ txt separator ++ spell (Word.joined w (vs :: wss)) := by
            simp only [Word.joined, List.flatMap_cons, spell_append, List.cons_append, spell_cons,
              (others vs List.mem_cons_self).spell_spaced, ← written, List.append_assoc]
            rfl
          rw [text]
          exact (first.append (.text _)).append (ih others)

variable {indent margin : Text}

/-- The name of a type is printed as its words. -/
theorem typeName_writes {n : Node} (h : n.IsTypeName) :
    (piece indent margin .usual n).typeName.Writes (spell n.typeWords) := by
  induction h with
  | @identifier t name =>
      rw [Node.typeWords, spell_single rfl]
      exact .text name
  | @qualified t u left name whole word ih =>
      rw [Node.typeWords, spell_append, spell_cons, Node.typeWords, spell_single rfl, ← List.append_assoc]
      exact (ih.append (.text (txt "."))).append (.text name)

/-- Where a type tree stands no parentheses are put around its parts. -/
theorem ungrouped {n : Node} (h : n.IsTypeTree) : groupsInUnion n = false ∧
    (Level.intersection < n.typeLevel → groupsInArray n = false ∧ groupsInIntersection n = false) := by
  cases h with
  | union | intersection =>
      exact ⟨rfl, fun tight => absurd tight (Nat.not_lt.2 (Nat.le_of_ble_eq_true rfl))⟩
  | _ => exact ⟨rfl, fun _ => ⟨rfl, rfl⟩⟩

/-- A type tree is printed as its words. -/
theorem type_writes {n : Node} (h : n.IsTypeTree) : (piece indent margin .usual n).Writes n.typeWords := by
  have type {e : Node} (written : (piece indent margin .usual e).Writes e.typeWords) :
      (piece indent margin .usual e).type.Writes (spell e.typeWords) := by
    rw [Piece.type, Piece.required, if_pos written.present]
    exact written.doc
  have all {ns : List Node} {print : Piece → Doc}
      (each : ∀ e ∈ ns, (print (piece indent margin .usual e)).Writes (spell e.typeWords)) :
      List.Forall₂ (fun d ws => Doc.Writes d (spell ws)) ((pieces indent margin ns).map print)
        (typeWordsAll ns) := by
    induction ns with
    | nil => exact .nil
    | cons n ns ih =>
        obtain ⟨first, rest⟩ := List.forall_mem_cons.1 each
        exact .cons first (ih rest)
  have rows {ns : List Node} (elements : ∀ e ∈ ns, IsTypeTree e) : ∀ ws ∈ typeWordsAll ns, TypeRow ws := by
    rw [typeWordsAll_eq_map]
    exact List.forall_mem_map.2 fun e he => (elements e he).row
  have operand {e : Node} {inParens : Node → Bool} (free : inParens e = false)
      (written : (piece indent margin .usual e).Writes e.typeWords) :
      ((piece indent margin .usual e).typeOperand inParens).Writes (spell e.typeWords) := by
    rw [Piece.typeOperand, piece_node, free]
    exact type written
  induction h with
  | @keyword t name known => exact .of_text rfl (.text (txt name)) (spell_single rfl)
  | @reference t name args word free elements ih =>
      refine .of_text rfl ((typeName_writes word).append (.when
        (((Doc.Writes.text (txt "<")).append (.joined (rows elements) (w := sign .comma) rfl
          (all fun e he => type (ih e he)))).append (.text (txt ">"))))) ?_
      rw [Node.typeWords, spell_append]
      cases args with
      | nil => rfl
      | cons a args => exact congrArg _ (spell_enclosed ..)
  | @array t e tight element ih =>
      refine .of_text rfl ((operand ((ungrouped element).2 tight).1 ih).append (.text (txt "[]"))) ?_
      rw [Node.typeWords, spell_append, spell_enclosed]
      rfl
  | @union t first second others tight elements ih =>
      exact .of_text rfl (.joined (rows elements) (w := sign .pipe .blank) rfl
        (all fun e he => operand (ungrouped (elements e he)).1 (ih e he))) rfl
  | @intersection t first second others tight elements ih =>
      exact .of_text rfl (.joined (rows elements) (w := sign .ampersand .blank) rfl
        (all fun e he => operand ((ungrouped (elements e he)).2 (tight e he)).2 (ih e he))) rfl
  | @parenthesized t e inner ih =>
      exact .of_text rfl (((Doc.Writes.text (txt "(")).append (type ih)).append (.text (txt ")")))
        (spell_enclosed ..)
  | @tuple t es elements ih =>
      exact .of_text rfl (((Doc.Writes.text (txt "[")).append (.joined (rows elements) (w := sign .comma)
        rfl (all fun e he => type (ih e he)))).append (.text (txt "]"))) (spell_enclosed ..)

end Print

/-- A type tree can be printed, and its text is made up of its words. -/
theorem Node.IsTypeTree.print {n : Node} (h : n.IsTypeTree) (indent : Text) :
    n.print indent = .ok (Word.spell n.typeWords) := by
  have written : (Print.piece indent [] .usual n).doc false = .ok (Word.spell n.typeWords, false) :=
    (Print.type_writes h).doc
  rw [Node.print, Print.Doc.run, written]
  rfl

end CoScript
