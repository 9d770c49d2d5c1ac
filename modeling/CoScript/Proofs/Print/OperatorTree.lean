import CoScript.Proofs.Print.Success
import CoScript.Proofs.Token.Phrase

/-!
Operator trees: expressions made up of names, numbers, operators, calls and properties. They are
printed as words that are read one by one as they are.
-/
namespace CoScript

namespace Node

open Word

/-- The operators before their operand. -/
def prefixOperators : List String := ["!", "-", "+", "~", "typeof", "void", "delete"]

/-- The operators that increment and decrement. -/
def updateOperators : List String := ["++", "--"]

/-- The operators that assign. -/
def assignOperators : List String :=
  ["=", "+=", "-=", "*=", "/=", "%=", "**=", "&&=", "||=", "??=", "&=", "|=", "^=", "<<=", ">>=",
   ">>>="]

/-- The operators between two operands. -/
def binaryOperators : List String :=
  Level.binary?.table.flatMap (·.2)

/-- Whether an expression is a name or a property. -/
def isPlace : Node → Bool
  | identifier _ _ | member _ _ _ _ _ => true
  | _ => false

/-- Whether an expression is a sequence. -/
def isSequence : Node → Bool
  | sequence _ _ => true
  | _ => false

/-- An expression made up of names, numbers, operators, calls and properties. Names are those that are
read as identifiers, such as all names of plain letters and digits that are not reserved, and numbers
those that are read as they are written. -/
inductive IsOperatorTree : Node → Prop
  | identifier {t : Token} {name : Text} (word : ReadsAs .identifier name)
      (sync : name ≠ txt "async") : IsOperatorTree (.identifier t name)
  | number {t : Token} {raw : Text} (word : ReadsAs .number raw) : IsOperatorTree (.number t raw)
  | unary {t : Token} {operator : String} {e : Node} (known : operator ∈ prefixOperators)
      (operand : IsOperatorTree e) : IsOperatorTree (.unary t (txt operator) e)
  | update {t : Token} {operator : String} {e : Node} {before : Bool}
      (known : operator ∈ updateOperators) (place : e.isPlace) (operand : IsOperatorTree e) :
      IsOperatorTree (.update t (txt operator) e before)
  | binary {t : Token} {operator : String} {left right : Node} (known : operator ∈ binaryOperators)
      (first : IsOperatorTree left) (second : IsOperatorTree right) :
      IsOperatorTree (.binary t left (txt operator) right)
  | conditional {t : Token} {c a b : Node} (test : IsOperatorTree c) (yes : IsOperatorTree a)
      (no : IsOperatorTree b) : IsOperatorTree (.conditional t c a b)
  | assignment {t : Token} {operator : String} {target value : Node}
      (known : operator ∈ assignOperators) (place : target.isPlace) (first : IsOperatorTree target)
      (second : IsOperatorTree value) : IsOperatorTree (.assignment t (txt operator) target value)
  | sequence {t : Token} {first second : Node} {others : List Node} (flat : first.isSequence = false)
      (elements : ∀ e ∈ first :: second :: others, IsOperatorTree e) :
      IsOperatorTree (.sequence t (first :: second :: others))
  | await {t : Token} {e : Node} (operand : IsOperatorTree e) : IsOperatorTree (.await t e)
  | call {t : Token} {f : Node} {args : List Node} (callee : IsOperatorTree f)
      (elements : ∀ e ∈ args, IsOperatorTree e) : IsOperatorTree (.call t f args false)
  | new {t : Token} {f : Node} {args : List Node} (callee : IsOperatorTree f)
      (elements : ∀ e ∈ args, IsOperatorTree e) : IsOperatorTree (.new t f args)
  | property {t u : Token} {o : Node} {name : Text} (whole : IsOperatorTree o)
      (word : ReadsAs .identifier name) : IsOperatorTree (.member t o (.identifier u name) false false)
  | index {t : Token} {o key : Node} (whole : IsOperatorTree o) (part : IsOperatorTree key) :
      IsOperatorTree (.member t o key true false)

/-- Whether a blank stands between an operator and the operand after it. -/
def needsGap (operator : Text) (operand : Node) : Bool :=
  (["typeof", "void", "delete"].any fun s => txt s = operator) ||
    ((operator == txt "-" || operator == txt "+") && operand.fuses operator)

mutual

/-- The words that an operator tree is written as. -/
def words : Node → List Word
  | identifier _ name => [⟨.identifier, name, .none⟩]
  | number _ raw => [⟨.number, raw, .none⟩]
  | unary _ operator e =>
    ofText operator ::
      spaced (if needsGap operator e then .blank else .none) (grouped (e.level < Level.unary) e.words)
  | update _ operator e before =>
    if before then ofText operator :: grouped (e.level < Level.unary) e.words
    else grouped (e.level < Level.suffix) e.words ++ [ofText operator]
  | binary _ left operator right =>
    let level := (Level.binary? operator).getD 0
    let groupsRight := operator == txt "**"
    grouped (left.mixes operator || left.level < (if groupsRight then Level.suffix else level))
        left.words ++
      ofText operator .blank ::
      spaced .blank (grouped
        (right.mixes operator || right.level < (if groupsRight then level else level + 1)) right.words)
  | conditional _ c a b =>
    (grouped (c.level < Level.conditional + 1) c.words ++
        sign .question .blank :: spaced .blank (grouped (a.level < Level.assignment) a.words)) ++
      sign .colon .blank :: spaced .blank (grouped (b.level < Level.assignment) b.words)
  | assignment _ operator target value =>
    grouped (target.level < Level.suffix) target.words ++
      ofText operator .blank :: spaced .blank (grouped (value.level < Level.assignment) value.words)
  | sequence _ es => separated (elementWords es)
  | await _ e => ofText (txt "await") :: spaced .blank (grouped (e.level < Level.unary) e.words)
  | call _ f args _ =>
    grouped (f.level < Level.call) f.words ++
      enclosed .parenOpen .parenClose (separated (elementWords args))
  | new _ f args =>
    ofText (txt "new") :: (spaced .blank (grouped (f.callsOnTheWay || f.level < Level.member) f.words) ++
      enclosed .parenOpen .parenClose (separated (elementWords args)))
  | member _ o key computed _ =>
    if computed then
      grouped (o.level < Level.call) o.words ++ enclosed .bracketOpen .bracketClose key.words
    else grouped (o.takesPoint || o.level < Level.call) o.words ++ sign .dot :: key.words
  | _ => []

/-- The words that the elements of a list are written as. -/
def elementWords : List Node → List (List Word)
  | [] => []
  | n :: ns => grouped (n.level < Level.assignment) n.words :: elementWords ns

end

theorem elementWords_eq_map (ns : List Node) :
    elementWords ns = ns.map fun n => grouped (n.level < Level.assignment) n.words := by
  induction ns with
  | nil => rfl
  | cons n ns ih => rw [elementWords, ih, List.map_cons]

/-! Operators. -/

theorem prefix_known : ∀ s ∈ prefixOperators, isKnown (txt s) ∧ (ofText (txt s)).opens := by
  decide

theorem update_known : ∀ s ∈ updateOperators, isKnown (txt s) ∧ (ofText (txt s)).opens ∧
    (ofText (txt s)).closes ∧ ∃ o ∈ [Operator.increment, .decrement],
      ofText (txt s) = sign o := by
  simp only [updateOperators, List.forall_mem_cons]
  refine ⟨⟨by decide, by decide, by decide, .increment, by decide, rfl⟩,
    ⟨by decide, by decide, by decide, .decrement, by decide, rfl⟩, nofun⟩

theorem assign_known : ∀ s ∈ assignOperators, isKnown (txt s) := by
  decide

theorem binary_known : ∀ s ∈ binaryOperators, isKnown (txt s) := by
  decide

/-- The binding strength of operators between two operands. -/
theorem binary_level : ∀ s ∈ binaryOperators, ∃ p ∈ List.range' 5 12,
    Level.binary? (txt s) = some p := by
  decide

/-! First and last words. -/

theorem mem_head_grouped {b : Bool} {ws vs : List Word} (h : ws ≠ []) {w : Word}
    (hw : w ∈ (grouped b ws ++ vs).head?) : w = sign .parenOpen ∨ b = false ∧ w ∈ ws.head? := by
  cases b with
  | true => exact .inl (Option.some.inj hw).symm
  | false =>
      rw [grouped, if_neg Bool.false_ne_true, List.head?_append_of_ne_nil _ h] at hw
      exact .inr ⟨rfl, hw⟩

theorem mem_last_grouped {b : Bool} {ws : List Word} {w : Word} (hw : w ∈ (grouped b ws).getLast?) :
    w = sign .parenClose ∨ b = false ∧ w ∈ ws.getLast? := by
  cases b with
  | true =>
      simp only [grouped, enclosed, if_true, List.getLast?_cons, List.getLast?_append] at hw
      exact .inl (Option.some.inj hw).symm
  | false => exact .inr ⟨rfl, hw⟩

theorem level_binary {t : Token} {left right : Node} {s : String} (h : s ∈ binaryOperators) :
    ∃ p, 5 ≤ p ∧ p ≤ 16 ∧ Level.binary? (txt s) = some p ∧
      (Node.binary t left (txt s) right).level = p := by
  obtain ⟨p, hp, level⟩ := binary_level s h
  rw [List.mem_range'_1] at hp
  exact ⟨p, hp.1, by omega, level, congrArg (Option.getD · Level.lowest) level⟩

theorem lowest_le_level (n : Node) : Level.lowest ≤ n.level := by
  cases n with
  | binary t left operator right =>
      change Level.lowest ≤ (Level.binary? operator).getD Level.lowest
      cases known : Level.binary? operator with
      | none => exact Nat.le_refl _
      | some p =>
          obtain ⟨row, found, rfl⟩ := Option.map_eq_some_iff.1 known
          have levels : ∀ row ∈ Level.binary?.table, Level.lowest ≤ row.1 := by decide
          exact levels row (List.mem_of_find?_eq_some found)
  | update t operator e before => cases before <;> exact Nat.le_of_ble_eq_true rfl
  | _ => exact Nat.le_of_ble_eq_true rfl

theorem place_level {n : Node} (h : n.isPlace) : Level.call ≤ n.level := by
  cases n with
  | identifier | member => exact Nat.le_of_ble_eq_true rfl
  | _ => cases h

namespace IsOperatorTree

variable {n : Node}

section
attribute [local simp] words elementWords separated enclosed

theorem words_ne_nil (h : IsOperatorTree n) : n.words ≠ [] := by
  cases h with
  | update =>
      rw [words]
      split
      · exact List.cons_ne_nil _ _
      · exact List.append_ne_nil_of_right_ne_nil _ (List.cons_ne_nil _ _)
  | _ => simp

end

/-- What binds more tightly than operators before their operand does not start with a sign. -/
theorem first_plain (h : IsOperatorTree n) (level : Level.suffix ≤ n.level) {w : Word}
    (hw : w ∈ n.words.head?) :
    w.kind ∈ [.identifier, .number, .operator .parenOpen, .keyword .new] := by
  have head {o : Node} {b : Bool} {vs : List Word} (ho : IsOperatorTree o)
      (ih : Level.suffix ≤ o.level → w ∈ o.words.head? →
        w.kind ∈ [.identifier, .number, .operator .parenOpen, .keyword .new])
      (tight : b = false → Level.suffix ≤ o.level) (hw : w ∈ (grouped b o.words ++ vs).head?) :
      w.kind ∈ [.identifier, .number, .operator .parenOpen, .keyword .new] := by
    obtain rfl | ⟨bare, hw⟩ := mem_head_grouped ho.words_ne_nil hw
    · decide
    · exact ih (tight bare) hw
  induction h with
  | identifier | number =>
      obtain rfl := Option.some.inj hw
      simp
  | new =>
      obtain rfl := Option.some.inj hw
      decide
  | @update t operator e before known place operand ih =>
      cases before with
      | true => exact absurd level (Nat.not_le_of_lt (Nat.le_of_ble_eq_true rfl))
      | false =>
          rw [words, if_neg Bool.false_ne_true] at hw
          exact head operand ih (by simp) hw
  | call callee elements ih =>
      rw [words] at hw
      refine head callee ih (fun tight => ?_) hw
      exact Nat.le_trans (by decide) (Nat.not_lt.1 (of_decide_eq_false tight))
  | property whole word ih =>
      rw [words, if_neg Bool.false_ne_true] at hw
      refine head whole ih (fun tight => ?_) hw
      have tight := (Bool.or_eq_false_iff.1 tight).2
      exact Nat.le_trans (by decide) (Nat.not_lt.1 (of_decide_eq_false tight))
  | index whole part ih =>
      rw [words, if_pos rfl] at hw
      refine head whole ih (fun tight => ?_) hw
      exact Nat.le_trans (by decide) (Nat.not_lt.1 (of_decide_eq_false tight))
  | binary known =>
      obtain ⟨p, -, top, -, strength⟩ := level_binary known
      rw [strength] at level
      exact absurd (Nat.le_trans level top) (by decide)
  | unary | conditional | assignment | sequence | await =>
      exact absurd level (Nat.not_le_of_lt (Nat.le_of_ble_eq_true rfl))

/-- What binds as tightly as a call ends with a number only if it is one. -/
theorem last_number (h : IsOperatorTree n) (level : Level.call ≤ n.level) {w : Word}
    (hw : w ∈ n.words.getLast?) (number : w.kind = .number) : ∃ t, n = .number t w.text := by
  have bracket {o : Operator} {vs : List Word} (hw : w ∈ (vs ++ [sign o]).getLast?) : False := by
    rw [List.getLast?_concat] at hw
    obtain rfl := Option.some.inj hw
    cases number
  cases h with
  | number =>
      obtain rfl := Option.some.inj hw
      exact ⟨_, rfl⟩
  | identifier =>
      obtain rfl := Option.some.inj hw
      cases number
  | call | index =>
      simp only [words, if_true, enclosed, ← List.cons_append, ← List.append_assoc] at hw
      exact (bracket hw).elim
  | new =>
      simp only [words, enclosed, ← List.cons_append, ← List.append_assoc] at hw
      exact (bracket hw).elim
  | property =>
      simp only [words, if_neg Bool.false_ne_true, List.getLast?_append, List.getLast?_cons,
        List.getLast?_nil] at hw
      obtain rfl := Option.some.inj hw
      cases number
  | @update t operator e before =>
      cases before with
      | true => exact absurd level (Nat.not_le_of_lt (Nat.le_of_ble_eq_true rfl))
      | false => exact absurd level (Nat.not_le_of_lt (Nat.le_of_ble_eq_true rfl))
  | binary known =>
      obtain ⟨p, -, top, -, strength⟩ := level_binary known
      rw [strength] at level
      exact absurd (Nat.le_trans level top) (by decide)
  | unary | conditional | assignment | sequence | await =>
      exact absurd level (Nat.not_le_of_lt (Nat.le_of_ble_eq_true rfl))

/-- An operand that does not fuse with a sign in front of it starts with another word. -/
theorem first_apart (h : IsOperatorTree n) {w : Word}
    (hw : w ∈ (grouped (n.level < Level.unary) n.words).head?) :
    (n.fuses (txt "+") = false → w.kind ≠ .operator .plus ∧ w.kind ≠ .operator .increment) ∧
      (n.fuses (txt "-") = false → w.kind ≠ .operator .minus ∧ w.kind ≠ .operator .decrement) := by
  have plain (h : w.kind ∈ [.identifier, .number, .operator .parenOpen, .keyword .new]) :
      (w.kind ≠ .operator .plus ∧ w.kind ≠ .operator .increment) ∧
        w.kind ≠ .operator .minus ∧ w.kind ≠ .operator .decrement := by
    simp only [List.mem_cons, List.not_mem_nil, or_false] at h
    rcases h with h | h | h | h <;> simp [h]
  rw [← List.append_nil (grouped _ _)] at hw
  obtain rfl | ⟨bare, hw⟩ := mem_head_grouped h.words_ne_nil hw
  · have apart := plain (by decide)
    exact ⟨fun _ => apart.1, fun _ => apart.2⟩
  have level := Nat.not_lt.1 (of_decide_eq_false bare)
  by_cases tight : Level.suffix ≤ n.level
  · have apart := plain (h.first_plain tight hw)
    exact ⟨fun _ => apart.1, fun _ => apart.2⟩
  cases h with
  | unary known =>
      have apart : ∀ s ∈ prefixOperators,
          ((txt s == txt "+") = false → (ofText (txt s)).kind ≠ .operator .plus ∧
            (ofText (txt s)).kind ≠ .operator .increment) ∧
          ((txt s == txt "-") = false → (ofText (txt s)).kind ≠ .operator .minus ∧
            (ofText (txt s)).kind ≠ .operator .decrement) := by decide
      obtain rfl := Option.some.inj hw
      exact apart _ known
  | @update t operator e before known =>
      have apart : ∀ s ∈ updateOperators,
          (((txt s).take 1 == txt "+") = false → (ofText (txt s)).kind ≠ .operator .plus ∧
            (ofText (txt s)).kind ≠ .operator .increment) ∧
          (((txt s).take 1 == txt "-") = false → (ofText (txt s)).kind ≠ .operator .minus ∧
            (ofText (txt s)).kind ≠ .operator .decrement) := by decide
      cases before with
      | true =>
          obtain rfl := Option.some.inj hw
          exact apart _ known
      | false => exact absurd (Nat.le_refl _) tight
  | await =>
      obtain rfl := Option.some.inj hw
      exact ⟨fun _ => by decide, fun _ => by decide⟩
  | binary known =>
      obtain ⟨p, -, top, -, strength⟩ := level_binary known
      rw [strength] at level
      exact absurd (Nat.le_trans level top) (by decide)
  | conditional | assignment | sequence =>
      exact absurd level (Nat.not_le_of_lt (Nat.le_of_ble_eq_true rfl))
  | identifier | number | call | new | property | index =>
      exact absurd (show Level.suffix ≤ _ from Nat.le_of_ble_eq_true rfl) tight

/-- An operator before its operand may be written in front of it. -/
theorem unary_before (h : IsOperatorTree n) (phrase : Phrase n.words) {s : String}
    (known : s ∈ prefixOperators) {v : Word}
    (hv : v ∈ (spaced (if needsGap (txt s) n then .blank else .none)
      (grouped (n.level < Level.unary) n.words)).head?) : (ofText (txt s)).Before v := by
  have sound := ofText_sound (prefix_known s known).1 .none
  obtain ⟨first, opens, gap⟩ := (phrase.grouped _).first _ hv
  by_cases spaced : needsGap (txt s) n
  · rw [if_pos spaced] at gap
    refine sound.before (fun slash => ?_) fun none => ?_
    · rw [opens_not_divides opens] at slash
      contradiction
    · rw [gap] at none
      contradiction
  · rw [if_neg spaced, (phrase.grouped _).spaced_none] at hv
    have apart := h.first_apart hv
    have signs : ∀ s ∈ prefixOperators, ¬ (["typeof", "void", "delete"].any fun t => txt t = txt s) →
        ∃ o ∈ [Operator.bang, .tilde, .plus, .minus, .increment, .decrement],
          (ofText (txt s)).kind = .operator o ∧ (o = .plus → txt s = txt "+") ∧
            (o = .minus → txt s = txt "-") := by decide
    rw [needsGap, Bool.or_eq_true, not_or] at spaced
    obtain ⟨o, ho, kind, plus, minus⟩ := signs s known spaced.1
    refine sound.prefix_before kind ho first opens (fun same _ => apart.1 ?_) fun same _ => apart.2 ?_
    · simpa [plus same] using spaced.2
    · simpa [minus same] using spaced.2

/-- An operator tree is written as words that may follow each other. -/
theorem phrase (h : IsOperatorTree n) : Phrase n.words := by
  have elements {ns : List Node} (ih : ∀ e ∈ ns, Phrase e.words) :
      separated (elementWords ns) = [] ∨ Phrase (separated (elementWords ns)) := by
    refine Phrase.separated fun ws hws => ?_
    rw [elementWords_eq_map] at hws
    obtain ⟨e, he, rfl⟩ := List.mem_map.1 hws
    exact (ih e he).grouped _
  have parens : Brackets .parenOpen .parenClose := .inl ⟨rfl, rfl⟩
  have brackets : Brackets .bracketOpen .bracketClose := .inr ⟨rfl, rfl⟩
  induction h with
  | identifier word => exact .singleton word rfl rfl rfl
  | number word => exact .singleton word rfl rfl rfl
  | unary known operand ih =>
      obtain ⟨known', opens⟩ := prefix_known _ known
      exact (ih.grouped _).operand opens rfl (.cons (ofText_sound known' _)
        ((ih.grouped _).toRun.spaced _) fun v hv => operand.unary_before ih known hv)
  | @update t operator e before known place operand ih =>
      obtain ⟨known', opens, closes, o, ho, word⟩ := update_known _ known
      have sound := ofText_sound known' .none
      rw [words]
      split
      · rw [← (ih.grouped _).spaced_none]
        refine (ih.grouped _).operand opens rfl (.cons sound ((ih.grouped _).toRun.spaced _) ?_)
        intro v hv
        obtain ⟨first, opens, -⟩ := (ih.grouped _).first _ hv
        refine sound.prefix_before (o := o) (by rw [word]; rfl) ?_ first opens ?_ ?_ <;>
          (simp only [List.mem_cons, List.not_mem_nil, or_false] at ho; rcases ho with rfl | rfl <;> simp)
      · refine (ih.grouped _).append (.singleton sound) (fun u hu v hv => ?_) ⟨_, rfl, closes⟩
        obtain rfl := Option.some.inj hv
        obtain ⟨sound, closes⟩ := (ih.grouped _).last hu
        have text : (ofText (txt operator)).text = txt o.spelling := by rw [word]; rfl
        refine sound.before_update closes (fun number => ?_) text (by simpa using ho)
        obtain rfl | ⟨bare, hu⟩ := mem_last_grouped hu
        · cases number
        · obtain ⟨t, rfl⟩ := operand.last_number (place_level place) hu number
          cases place
  | binary known first second ihl ihr =>
      exact (ihl.grouped _).operation (ihr.grouped _) (ofText_sound (binary_known _ known) _) rfl
  | conditional test yes no ihc iha ihb =>
      exact ((ihc.grouped _).operation (iha.grouped _)
        (sign_sound .question _ (by decide)) rfl).operation (ihb.grouped _)
        (sign_sound .colon _ (by decide)) rfl
  | assignment known place first second ihl ihr =>
      exact (ihl.grouped _).operation (ihr.grouped _) (ofText_sound (assign_known _ known) _) rfl
  | sequence flat es ih => exact (elements ih).resolve_left (by simp [elementWords, separated])
  | await operand ih =>
      exact (ih.grouped _).operand (by decide) rfl ((ih.grouped _).after (ofText_sound (by decide) _))
  | call callee es ihf ih => exact parens.following (ihf.grouped _) (elements ih)
  | new callee es ihf ih =>
      have created (b : Bool) := (ihf.grouped b).operand (by decide) rfl
        ((ihf.grouped b).after (ofText_sound (t := txt "new") (by decide) .none))
      exact parens.following (created _) (elements ih)
  | @property t u o name whole word ih =>
      have dot := sign_sound .dot .none (by decide)
      have name : Word.Sound ⟨.identifier, name, .none⟩ := word
      rw [words, if_neg Bool.false_ne_true]
      refine (ih.grouped _).append (.cons dot (.singleton name) fun v hv => ?_) (fun u hu v hv => ?_)
        ⟨_, rfl, rfl⟩
      · obtain rfl := Option.some.inj hv
        exact dot.point_before rfl name rfl
      · obtain rfl := Option.some.inj hv
        obtain ⟨sound, closes⟩ := (ih.grouped _).last hu
        refine sound.before_point closes (fun number => ?_) rfl rfl
        obtain rfl | ⟨bare, hu⟩ := mem_last_grouped hu
        · cases number
        · obtain ⟨free, tight⟩ := Bool.or_eq_false_iff.1 bare
          obtain ⟨t, rfl⟩ :=
            whole.last_number (Nat.not_lt.1 (of_decide_eq_false tight)) hu number
          exact free
  | index whole part ih ihk =>
      rw [words, if_pos rfl]
      exact brackets.following (ih.grouped _) (.inr ihk)

end IsOperatorTree

end Node

/-! Texts. -/

namespace Word

theorem spell_append (ws vs : List Word) : spell (ws ++ vs) = spell ws ++ spell vs :=
  List.flatMap_append

@[simp] theorem spell_nil : spell [] = [] := rfl

theorem spell_single {w : Word} (h : w.gap = .none) : spell [w] = w.text := by
  simp [spell_cons, print, h, Gap.text]

theorem spell_enclosed (opening closing : Operator) (ws : List Word) :
    spell (enclosed opening closing ws) =
      txt opening.spelling ++ spell ws ++ txt closing.spelling := by
  simp [enclosed, spell_cons, spell_append, sign, print, Gap.text]

theorem spell_parens (ws : List Word) :
    spell (grouped true ws) = txt "(" ++ spell ws ++ txt ")" :=
  spell_enclosed .parenOpen .parenClose ws

end Word

namespace Print

open Word

/-- A piece of text that is printed as a text, where `in` needs no parentheses. -/
def Doc.Writes (d : Doc) (t : Text) : Prop :=
  d false = .ok (t, false)

namespace Doc.Writes

variable {d e : Doc} {t u : Text}

theorem text (t : Text) : (Doc.text t).Writes t := rfl

theorem append (hd : d.Writes t) (he : e.Writes u) : (d ++ e).Writes (t ++ u) := by
  have hd : d false = .ok (t, false) := hd
  have he : e false = .ok (u, false) := he
  change Doc.append d e false = _
  simp only [Doc.append, hd, he]

theorem when {condition : Bool} (h : d.Writes t) :
    (Doc.when condition d).Writes (if condition then t else []) := by
  cases condition with
  | false => exact text []
  | true => exact h

theorem enclosed (opening closing : String) (h : d.Writes t) :
    (Doc.enclosed opening d closing).Writes (txt opening ++ t ++ txt closing) := by
  have whole : (opening ++ d ++ closing : Doc) false = .ok (txt opening ++ t ++ txt closing, false) :=
    ((text (txt opening)).append h).append (text (txt closing))
  change Doc.enclosed opening d closing false = _
  simp only [Doc.enclosed, whole]

end Doc.Writes

/-- A piece that is printed as words. -/
structure Piece.Writes (p : Piece) (ws : List Word) : Prop where
  present : p.node.isPresent
  doc : p.doc.Writes (spell ws)

namespace Piece.Writes

variable {p : Piece} {ws : List Word}

theorem of_text {t : Text} (present : p.node.isPresent) (h : p.doc.Writes t) (ht : spell ws = t) :
    p.Writes ws :=
  ⟨present, ht ▸ h⟩

theorem inParens (h : p.Writes ws) : (Doc.enclosed "(" p.doc ")").Writes (spell (grouped true ws)) := by
  rw [spell_parens]
  exact h.doc.enclosed "(" ")"

theorem atLevel (h : p.Writes ws) (level : Nat) :
    (p.atLevel level).Writes (spell (grouped (p.node.level < level) ws)) := by
  rw [Piece.atLevel, if_neg (by simp [h.present])]
  by_cases weak : p.node.level < level
  · rw [if_pos weak, decide_eq_true weak]
    exact h.inParens
  · rw [if_neg weak, decide_eq_false weak]
    split
    · exact h.doc
    · exact h.doc

theorem anyLevel (h : p.Writes ws) : p.anyLevel.Writes (spell ws) := by
  have written := h.atLevel Level.lowest
  rwa [decide_eq_false (Nat.not_lt.2 p.node.lowest_le_level)] at written

theorem parenthesizedIf (h : p.Writes ws) (condition : Bool) (level : Nat) :
    (p.parenthesizedIf condition (p.atLevel level)).Writes
      (spell (grouped (condition || p.node.level < level) ws)) := by
  cases condition with
  | true =>
      rw [Bool.true_or, spell_parens]
      exact ((Doc.Writes.text (txt "(")).append h.anyLevel).append (.text (txt ")"))
  | false => exact h.atLevel level

theorem binaryOperand (h : p.Writes ws) (operator : Text) (level : Nat) :
    (p.binaryOperand operator level).Writes
      (spell (grouped (p.node.mixes operator || p.node.level < level) ws)) := by
  rw [Piece.binaryOperand]
  cases p.node.mixes operator with
  | true =>
      rw [Bool.true_or, spell_parens]
      exact h.anyLevel.enclosed "(" ")"
  | false => exact h.atLevel level

theorem object (h : p.Writes ws) (computed : Bool) :
    (p.object computed).Writes
      (spell (grouped ((!computed && p.node.takesPoint) || p.node.level < Level.call) ws)) := by
  rw [Piece.object]
  cases !computed && p.node.takesPoint with
  | true =>
      rw [Bool.true_or, spell_parens]
      exact ((Doc.Writes.text (txt "(")).append h.doc).append (.text (txt ")"))
  | false => exact h.atLevel Level.call

end Piece.Writes

/-- Phrases with commas between them. -/
theorem Doc.Writes.join {ds : List Doc} {wss : List (List Word)} (phrases : ∀ ws ∈ wss, Phrase ws)
    (h : List.Forall₂ (fun d ws => d.Writes (spell ws)) ds wss) :
    (Doc.join ", " ds).Writes (spell (separated wss)) := by
  induction h with
  | nil => exact .text []
  | @cons d ws ds wss first rest ih =>
      obtain ⟨-, others⟩ := List.forall_mem_cons.1 phrases
      cases rest with
      | nil =>
          rw [separated, List.flatMap_nil, List.append_nil]
          exact first
      | @cons e vs ds wss second rest =>
          have text : spell (separated (ws :: vs :: wss)) =
              spell ws ++ txt ", " ++ spell (separated (vs :: wss)) := by
            simp [separated, spell_append, spell_cons, sign, print, Gap.text,
              (others vs List.mem_cons_self).clause.spell_spaced]
            rfl
          rw [text]
          exact (first.append (.text _)).append (ih others)

open Node (IsOperatorTree elementWords elementWords_eq_map)

section
variable {indent margin : Text} {ns : List Node}
  (h : ∀ n ∈ ns, (piece indent margin .usual n).Writes n.words)
include h

theorem elements_write : List.Forall₂ (fun d ws => Doc.Writes d (spell ws))
    ((pieces indent margin ns).map (·.element)) (elementWords ns) := by
  induction ns with
  | nil => exact .nil
  | cons n ns ih =>
      obtain ⟨first, rest⟩ := List.forall_mem_cons.1 h
      have written := first.atLevel Level.assignment
      rw [piece_node] at written
      exact .cons written (ih rest)

theorem argumentList_writes (phrases : ∀ ws ∈ elementWords ns, Phrase ws) :
    (argumentList (pieces indent margin ns)).Writes
      (spell (enclosed .parenOpen .parenClose (separated (elementWords ns)))) := by
  rw [spell_enclosed]
  exact (Doc.Writes.join phrases (elements_write h)).enclosed "(" ")"

end

theorem elements_phrases {ns : List Node} (h : ∀ n ∈ ns, IsOperatorTree n) :
    ∀ ws ∈ elementWords ns, Phrase ws := by
  intro ws hws
  rw [elementWords_eq_map] at hws
  obtain ⟨n, hn, rfl⟩ := List.mem_map.1 hws
  exact (h n hn).phrase.grouped _

/-- An operator tree is printed as its words. -/
theorem piece_writes {n : Node} (h : IsOperatorTree n) (indent margin : Text) (place : Place) :
    (piece indent margin place n).Writes n.words := by
  have operand {e : Node} (ih : ∀ place, (piece indent margin place e).Writes e.words) (level : Nat) :
      ((piece indent margin .usual e).atLevel level).Writes (spell (grouped (e.level < level) e.words)) := by
    have written := (ih .usual).atLevel level
    rwa [piece_node] at written
  induction h generalizing place with
  | @identifier t name => exact .of_text rfl (.text name) (spell_single rfl)
  | @number t raw => exact .of_text rfl (.text raw) (spell_single rfl)
  | @unary t s e known tree ih =>
      refine .of_text rfl (((Doc.Writes.text (txt s)).append (.when (.text (txt " ")))).append
        (operand ih Level.unary)) ?_
      rw [Node.words, spell_cons, (tree.phrase.grouped _).clause.spell_spaced, List.append_assoc]
      change txt s ++ _ = txt s ++ _
      congr 2
      change _ = if Node.needsGap (txt s) e then txt " " else []
      split <;> rfl
  | @update t s e before known place tree ih =>
      cases before with
      | true =>
          refine .of_text rfl ((Doc.Writes.text (txt s)).append (operand ih Level.unary)) ?_
          rw [Node.words, if_pos rfl, spell_cons]
          rfl
      | false =>
          refine .of_text rfl ((operand ih Level.suffix).append (.text (txt s))) ?_
          rw [Node.words, if_neg Bool.false_ne_true, spell_append, spell_single rfl]
          rfl
  | @binary t s left right known first second ihl ihr =>
      have l := (ihl .usual).binaryOperand (txt s)
        (if txt s == txt "**" then Level.suffix else (Level.binary? (txt s)).getD 0)
      have r := (ihr .usual).binaryOperand (txt s)
        (if txt s == txt "**" then (Level.binary? (txt s)).getD 0 else (Level.binary? (txt s)).getD 0 + 1)
      rw [piece_node] at l r
      refine .of_text rfl (((l.append (.text (txt " "))).append (.text (txt s))).append
        (.text (txt " ")) |>.append r) ?_
      rw [Node.words, spell_append, spell_cons, (second.phrase.grouped _).clause.spell_spaced]
      simp only [List.append_assoc]
      rfl
  | @conditional t c a b test yes no ihc iha ihb =>
      refine .of_text rfl ((((operand ihc (Level.conditional + 1)).append (.text (txt " ? "))).append
        (operand iha Level.assignment)).append (.text (txt " : ")) |>.append
        (operand ihb Level.assignment)) ?_
      rw [Node.words, spell_append, spell_append, spell_cons, spell_cons,
        (yes.phrase.grouped _).clause.spell_spaced, (no.phrase.grouped _).clause.spell_spaced]
      simp only [List.append_assoc]
      rfl
  | @assignment t s target value known place first second ihl ihr =>
      have whole : target.isDestructuring = false := by
        cases first with
        | identifier | property | index => rfl
        | _ => cases place
      have l : (piece indent margin .usual target).target.Writes
          (spell (grouped (target.level < Level.suffix) target.words)) := by
        rw [Piece.target, piece_node, whole]
        exact operand ihl Level.suffix
      refine .of_text rfl (((l.append (.text (txt " "))).append (.text (txt s))).append
        (.text (txt " ")) |>.append (operand ihr Level.assignment)) ?_
      rw [Node.words, spell_append, spell_cons, (second.phrase.grouped _).clause.spell_spaced]
      simp only [List.append_assoc]
      rfl
  | @sequence t first second others flat elements ih =>
      exact .of_text rfl (.join (elements_phrases elements) (elements_write fun e he => ih e he .usual)) rfl
  | @await t e tree ih =>
      refine .of_text rfl ((Doc.Writes.text (txt "await ")).append (operand ih Level.unary)) ?_
      rw [Node.words, spell_cons, (tree.phrase.grouped _).clause.spell_spaced]
      rfl
  | @call t f args callee elements ihf ih =>
      refine .of_text rfl (((operand ihf Level.call).append (.text [])).append
        (argumentList_writes (fun e he => ih e he .usual) (elements_phrases elements))) ?_
      rw [Node.words, spell_append, List.append_nil]
  | @new t f args callee elements ihf ih =>
      have created := (ihf .usual).parenthesizedIf f.callsOnTheWay Level.member
      rw [piece_node] at created
      refine .of_text rfl (((Doc.Writes.text (txt "new ")).append created).append
        (argumentList_writes (fun e he => ih e he .usual) (elements_phrases elements))) ?_
      rw [Node.words, spell_cons, spell_append, (callee.phrase.grouped _).clause.spell_spaced]
      simp only [← List.append_assoc]
      rfl
  | @property t u o name whole word ih =>
      have written := (ih .usual).object false
      rw [piece_node] at written
      refine .of_text rfl (written.append ((Doc.Writes.text (txt ".")).append (.text name))) ?_
      rw [Node.words, if_neg Bool.false_ne_true, spell_append, spell_cons, Node.words, spell_single rfl]
      rfl
  | @index t o key whole part ih ihk =>
      have written := (ih .usual).object true
      rw [piece_node] at written
      refine .of_text rfl (written.append ((Doc.Writes.text []).append
        ((ihk .usual).anyLevel.enclosed "[" "]"))) ?_
      rw [Node.words, if_pos rfl, spell_append, spell_enclosed]
      rfl

end Print

namespace Node

/-- An operator tree can be printed, and its text is made up of its words. -/
theorem IsOperatorTree.print {n : Node} (h : IsOperatorTree n) (indent : Text) :
    n.print indent = .ok (Word.spell n.words) := by
  have written : (Print.piece indent [] .usual n).doc false = .ok (Word.spell n.words, false) :=
    (Print.piece_writes h indent [] .usual).doc
  rw [Node.print, Print.Doc.run, written]
  rfl

end Node

end CoScript
