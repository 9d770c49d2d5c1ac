import CoScript.Parse.Program
import CoScript.Proofs.Tree.Tokens

/-!
Data that two runs of the parser have in common. What of a token is compared is up to a look; trees
are compared by the looks of their tokens. Whatever the parser computes from tokens and trees it
computes alike from related data: one instance for each operation and each kind of node says so.
-/
namespace CoScript

namespace Node

mutual

/-- A tree with a function applied to all tokens. -/
def mapTokens (f : Token → Token) : Node → Node
  | absent => absent
  | program body => program (mapTokensAll f body)
  | block t body => block (f t) (mapTokensAll f body)
  | expressionStatement t e => expressionStatement (f t) (e.mapTokens f)
  | declaration t keyword ds => declaration (f t) keyword (mapTokensAll f ds)
  | declarator t target definite type value =>
    declarator (f t) (target.mapTokens f) definite (type.mapTokens f) (value.mapTokens f)
  | functionDeclaration t g => functionDeclaration (f t) (g.mapTokens f)
  | interfaceDeclaration t name bases members =>
    interfaceDeclaration (f t) (name.mapTokens f) (mapTokensAll f bases) (mapTokensAll f members)
  | typeAlias t name type => typeAlias (f t) (name.mapTokens f) (type.mapTokens f)
  | ifStatement t c a b => ifStatement (f t) (c.mapTokens f) (a.mapTokens f) (b.mapTokens f)
  | forStatement t init c u body =>
    forStatement (f t) (init.mapTokens f) (c.mapTokens f) (u.mapTokens f) (body.mapTokens f)
  | forIn t left right body => forIn (f t) (left.mapTokens f) (right.mapTokens f) (body.mapTokens f)
  | forOf t awaits left right body =>
    forOf (f t) awaits (left.mapTokens f) (right.mapTokens f) (body.mapTokens f)
  | whileStatement t c body => whileStatement (f t) (c.mapTokens f) (body.mapTokens f)
  | doWhile t body c => doWhile (f t) (body.mapTokens f) (c.mapTokens f)
  | returnStatement t value => returnStatement (f t) (value.mapTokens f)
  | breakStatement t label => breakStatement (f t) (label.mapTokens f)
  | continueStatement t label => continueStatement (f t) (label.mapTokens f)
  | throwStatement t value => throwStatement (f t) (value.mapTokens f)
  | tryStatement t b handler finalizer =>
    tryStatement (f t) (b.mapTokens f) (handler.mapTokens f) (finalizer.mapTokens f)
  | catchClause t param type body =>
    catchClause (f t) (param.mapTokens f) (type.mapTokens f) (body.mapTokens f)
  | switchStatement t discriminant cases =>
    switchStatement (f t) (discriminant.mapTokens f) (mapTokensAll f cases)
  | switchCase t test body => switchCase (f t) (test.mapTokens f) (mapTokensAll f body)
  | labeled t label body => labeled (f t) (label.mapTokens f) (body.mapTokens f)
  | emptyStatement t => emptyStatement (f t)
  | identifier t name => identifier (f t) name
  | privateName t name => privateName (f t) name
  | number t raw => number (f t) raw
  | string t value raw => string (f t) value raw
  | boolean t value => boolean (f t) value
  | null t => null (f t)
  | regex t pattern flags => regex (f t) pattern flags
  | template t chunks es => template (f t) chunks (mapTokensAll f es)
  | this t => this (f t)
  | array t es => array (f t) (mapTokensAll f es)
  | object t ps => object (f t) (mapTokensAll f ps)
  | property t key computed value shorthand method =>
    property (f t) (key.mapTokens f) computed (value.mapTokens f) shorthand method
  | spread t e => spread (f t) (e.mapTokens f)
  | parameter t target optional rest type default =>
    parameter (f t) (target.mapTokens f) optional rest (type.mapTokens f) (default.mapTokens f)
  | function t async name ps r body =>
    function (f t) async (name.mapTokens f) (mapTokensAll f ps) (r.mapTokens f) (body.mapTokens f)
  | arrow t async ps r body =>
    arrow (f t) async (mapTokensAll f ps) (r.mapTokens f) (body.mapTokens f)
  | taggedTemplate t tag quasi => taggedTemplate (f t) (tag.mapTokens f) (quasi.mapTokens f)
  | call t g args optional => call (f t) (g.mapTokens f) (mapTokensAll f args) optional
  | new t g args => new (f t) (g.mapTokens f) (mapTokensAll f args)
  | member t whole key computed optional =>
    member (f t) (whole.mapTokens f) (key.mapTokens f) computed optional
  | assignment t operator target value =>
    assignment (f t) operator (target.mapTokens f) (value.mapTokens f)
  | binary t left operator right => binary (f t) (left.mapTokens f) operator (right.mapTokens f)
  | unary t operator e => unary (f t) operator (e.mapTokens f)
  | update t operator e before => update (f t) operator (e.mapTokens f) before
  | conditional t c a b => conditional (f t) (c.mapTokens f) (a.mapTokens f) (b.mapTokens f)
  | sequence t es => sequence (f t) (mapTokensAll f es)
  | await t e => await (f t) (e.mapTokens f)
  | assertion t e type satisfies => assertion (f t) (e.mapTokens f) (type.mapTokens f) satisfies
  | nonNull t e => nonNull (f t) (e.mapTokens f)
  | arrayPattern t es => arrayPattern (f t) (mapTokensAll f es)
  | objectPattern t ps rest => objectPattern (f t) (mapTokensAll f ps) (rest.mapTokens f)
  | patternProperty t key computed value shorthand =>
    patternProperty (f t) (key.mapTokens f) computed (value.mapTokens f) shorthand
  | assignmentPattern t target default =>
    assignmentPattern (f t) (target.mapTokens f) (default.mapTokens f)
  | restElement t target => restElement (f t) (target.mapTokens f)
  | propertySignature t key computed optional readonly type =>
    propertySignature (f t) (key.mapTokens f) computed optional readonly (type.mapTokens f)
  | methodSignature t key computed optional ps r =>
    methodSignature (f t) (key.mapTokens f) computed optional (mapTokensAll f ps) (r.mapTokens f)
  | indexSignature t readonly param keyType valueType =>
    indexSignature (f t) readonly (param.mapTokens f) (keyType.mapTokens f) (valueType.mapTokens f)
  | keywordType t name => keywordType (f t) name
  | arrayType t element => arrayType (f t) (element.mapTokens f)
  | unionType t types => unionType (f t) (mapTokensAll f types)
  | intersectionType t types => intersectionType (f t) (mapTokensAll f types)
  | parenthesizedType t type => parenthesizedType (f t) (type.mapTokens f)
  | typeReference t name args => typeReference (f t) (name.mapTokens f) (mapTokensAll f args)
  | qualifiedName t left right => qualifiedName (f t) (left.mapTokens f) (right.mapTokens f)
  | literalType t literal => literalType (f t) (literal.mapTokens f)
  | tupleType t es => tupleType (f t) (mapTokensAll f es)
  | functionType t ps r => functionType (f t) (mapTokensAll f ps) (r.mapTokens f)
  | objectType t members => objectType (f t) (mapTokensAll f members)

/-- Trees with a function applied to all tokens. -/
def mapTokensAll (f : Token → Token) : List Node → List Node
  | [] => []
  | n :: ns => n.mapTokens f :: mapTokensAll f ns

end

@[simp] theorem mapTokensAll_eq_map (f : Token → Token) (ns : List Node) :
    mapTokensAll f ns = ns.map (mapTokens f) := by
  induction ns with
  | nil => rfl
  | cons n ns ih => rw [mapTokensAll, ih, List.map_cons]

theorem mapTokens_id (n : Node) : n.mapTokens id = n := by
  apply @Node.rec (fun n => n.mapTokens id = n) (fun ns => ns.map (mapTokens id) = ns)
  all_goals intros
  -- One step of the recursion at the root. Its equations would be slow: there is one for each node.
  all_goals conv => lhs; whnf
  all_goals simp_all only [mapTokensAll_eq_map, id]

theorem withoutTokens_mapTokens (f : Token → Token) (n : Node) :
    (n.mapTokens f).withoutTokens = n.withoutTokens := by
  apply @Node.rec (fun n => (n.mapTokens f).withoutTokens = n.withoutTokens)
    (fun ns => (ns.map (mapTokens f)).map withoutTokens = ns.map withoutTokens)
  all_goals intros
  all_goals conv => lhs; whnf
  all_goals conv => rhs; whnf
  all_goals simp_all only [mapTokensAll_eq_map, withoutTokensAll_eq_map]

theorem isAssignable_mapTokens (f : Token → Token) (n : Node) :
    (n.mapTokens f).isAssignable = n.isAssignable :=
  Alike.isAssignable (withoutTokens_mapTokens f n)

theorem isDestructuring_mapTokens (f : Token → Token) (n : Node) :
    (n.mapTokens f).isDestructuring = n.isDestructuring := by
  cases n <;> rfl

theorem isPresent_mapTokens (f : Token → Token) (n : Node) :
    (n.mapTokens f).isPresent = n.isPresent := by
  cases n <;> rfl

/-- The token that a declaration was read from. -/
def declaring? : Node → Option Token
  | declaration t _ _ => some t
  | _ => none

theorem declaring?_mapTokens (f : Token → Token) (n : Node) :
    (n.mapTokens f).declaring? = n.declaring?.map f := by
  cases n <;> rfl

theorem eq_of_declaring? {n : Node} {t : Token} (h : n.declaring? = some t) :
    ∃ keyword ds, n = declaration t keyword ds := by
  unfold declaring? at h
  split at h
  · cases h
    exact ⟨_, _, rfl⟩
  · cases h

end Node

/-- What of tokens is compared, and what has to be known of them. -/
structure Look where
  view : Token → Token
  /-- What is known of the tokens that a run meets. -/
  good : Token → Prop
  /-- What is known of the tokens at which something may be reported. -/
  shown : Token → Prop
  shown_of_good {t : Token} : good t → shown t
  /-- Whether a run may meet templates that cannot be split. -/
  malformed : Prop := True
  malformed_of_good {t : Token} : good t → t.kind = .template →
    Template.split? t.literal = none → malformed := by intros; trivial
  faithful {t t' : Token} : view t = view t' →
    t.kind = t'.kind ∧ t.literal = t'.literal ∧ t.raw = t'.raw

/-- Data that may hold tokens. -/
class Data (α : Type) where
  view : Look → α → α
  good : Look → α → Prop := fun _ _ => True

instance : Data Bool := { view := fun _ => id }
instance : Data Nat := { view := fun _ => id }
instance : Data Unit := { view := fun _ => id }
instance : Data Text := { view := fun _ => id }
instance : Data (List Text) := { view := fun _ => id }
instance : Data Token.Kind := { view := fun _ => id }
instance : Data Token := { view := Look.view, good := Look.good }
instance : Data Node where
  view L := Node.mapTokens L.view
  good L n := ∀ t ∈ n.declaring?, L.shown t
instance : Data (List Node) := { view := fun L => List.map (Node.mapTokens L.view) }
instance {α : Type} [Data α] : Data (Option α) where
  view L := Option.map (Data.view L)
  good L o := ∀ a ∈ o, Data.good L a
instance {α β : Type} [Data α] [Data β] : Data (α × β) where
  view L := Prod.map (Data.view L) (Data.view L)
  good L p := Data.good L p.1 ∧ Data.good L p.2

/-- The same to a look. -/
class Related (L : Look) {α : Type} [Data α] (a a' : α) : Prop where
  eq : Data.view L a = Data.view L a'
  good : Data.good L a
  good' : Data.good L a'

theorem related_iff {L : Look} {α : Type} [Data α] {a a' : α} :
    Related L a a' ↔ Data.view L a = Data.view L a' ∧ Data.good L a ∧ Data.good L a' :=
  ⟨fun h => ⟨h.eq, h.good, h.good'⟩, fun h => ⟨h.1, h.2.1, h.2.2⟩⟩

/-- Related data, as two runs get them. -/
structure Pair (L : Look) (α : Type) [Data α] where
  left : α
  right : α
  related : Related L left right

instance {L : Look} {α : Type} [Data α] (x : Pair L α) : Related L x.left x.right := x.related

namespace Related

variable {L : Look}

instance refl_bool (b : Bool) : Related L b b := ⟨rfl, trivial, trivial⟩
instance refl_nat (n : Nat) : Related L n n := ⟨rfl, trivial, trivial⟩
instance refl_unit (u : Unit) : Related L u u := ⟨rfl, trivial, trivial⟩
instance refl_text (x : Text) : Related L x x := ⟨rfl, trivial, trivial⟩

/-- Of a node that is no declaration, nothing has to be known. -/
theorem plain {n n' : Node} (h : n.mapTokens L.view = n'.mapTokens L.view)
    (free : n.declaring? = none) (free' : n'.declaring? = none) : Related L n n' :=
  ⟨h, by simp [Data.good, free], by simp [Data.good, free']⟩

instance absent : Related L Node.absent Node.absent := plain rfl rfl rfl
instance nil : Related L ([] : List Node) [] := ⟨rfl, trivial, trivial⟩

section
variable {a a' b b' : Bool} [h : Related L a a'] [k : Related L b b']

theorem bool_eq {a a' : Bool} (h : Related L a a') : a = a' := h.eq

instance and : Related L (a && b) (a' && b') := by rw [h.bool_eq, k.bool_eq]; infer_instance

instance or : Related L (a || b) (a' || b') := by rw [h.bool_eq, k.bool_eq]; infer_instance

omit k in
instance not : Related L (!a) (!a') := by rw [h.bool_eq]; infer_instance

end

section
variable {x x' : Text} [h : Related L x x']
include h

theorem text_eq : x = x' := h.eq

instance drop (n : Nat) : Related L (x.drop n) (x'.drop n) := by
  rw [text_eq (h := h)]
  infer_instance

instance beq (y : Text) : Related L (x == y) (x' == y) := by
  rw [text_eq (h := h)]
  infer_instance

instance any_beq (words : List String) :
    Related L (words.any (txt · == x)) (words.any (txt · == x')) := by
  rw [text_eq (h := h)]
  infer_instance

end

instance decide_lt (l : Nat) {m m' : Nat} [h : Related L m m'] :
    Related L (decide (l < m)) (decide (l < m')) := by
  obtain rfl : m = m' := h.eq
  infer_instance

section
variable {α β : Type} [Data α] [Data β] {a a' : α} {b b' : β}

instance pair [h : Related L a a'] [k : Related L b b'] : Related L (a, b) (a', b') :=
  ⟨Prod.ext h.eq k.eq, ⟨h.good, k.good⟩, ⟨h.good', k.good'⟩⟩

theorem of_pair (h : Related L (a, b) (a', b')) : Related L a a' ∧ Related L b b' :=
  ⟨⟨congrArg Prod.fst h.eq, h.good.1, h.good'.1⟩, ⟨congrArg Prod.snd h.eq, h.good.2, h.good'.2⟩⟩

instance nothing : Related L (none : Option α) none :=
  ⟨rfl, by simp [Data.good], by simp [Data.good]⟩

instance just [h : Related L a a'] : Related L (some a) (some a') where
  eq := congrArg some h.eq
  good := by
    rintro _ ⟨⟩
    exact h.good
  good' := by
    rintro _ ⟨⟩
    exact h.good'

theorem of_some (h : Related L (some a) (some a')) : Related L a a' :=
  ⟨Option.some.inj h.eq, h.good a rfl, h.good' a' rfl⟩

/-- Related options are both there or both missing. -/
theorem option_cases {o o' : Option α} (h : Related L o o') :
    (o = none ∧ o' = none) ∨ ∃ x : Pair L α, o = some x.left ∧ o' = some x.right := by
  cases o with
  | none =>
      cases o' with
      | none => exact .inl ⟨rfl, rfl⟩
      | some a' => cases h.eq
  | some a =>
      cases o' with
      | none => cases h.eq
      | some a' => exact .inr ⟨⟨a, a', h.of_some⟩, rfl, rfl⟩

end

section
variable {m m' : Node} {ms ms' ns ns' : List Node}

instance cons [h : Related L m m'] [k : Related L ms ms'] : Related L (m :: ms) (m' :: ms') :=
  ⟨List.cons_eq_cons.2 ⟨h.eq, k.eq⟩, trivial, trivial⟩

instance append [h : Related L ms ms'] [k : Related L ns ns'] : Related L (ms ++ ns) (ms' ++ ns') :=
  ⟨by rw [related_iff] at h k; simp_all [Data.view], trivial, trivial⟩

instance toList {o o' : Option Node} [h : Related L o o'] : Related L o.toList o'.toList := by
  obtain ⟨rfl, rfl⟩ | ⟨x, rfl, rfl⟩ := h.option_cases
  · exact nil
  · exact cons (k := nil)

end

end Related

namespace Token

variable {L : Look} {t t' : Token}

section
variable [h : Related L t t']
include h

theorem kind_eq : t.kind = t'.kind := (L.faithful h.eq).1

theorem literal_eq : t.literal = t'.literal := (L.faithful h.eq).2.1

theorem raw_eq : t.raw = t'.raw := (L.faithful h.eq).2.2

instance : Related L t.kind t'.kind := ⟨kind_eq (h := h), trivial, trivial⟩

instance : Related L t.literal t'.literal := ⟨literal_eq (h := h), trivial, trivial⟩

instance : Related L t.raw t'.raw := ⟨raw_eq (h := h), trivial, trivial⟩

theorem is_eq (k : Kind) : t.is k = t'.is k := by
  simp only [is, kind_eq (h := h)]

instance (k : Kind) : Related L (t.is k) (t'.is k) := ⟨is_eq k (h := h), trivial, trivial⟩

instance (word : String) : Related L (t.isWord word) (t'.isWord word) :=
  ⟨by simp only [Data.view, isWord, kind_eq (h := h), literal_eq (h := h)], trivial, trivial⟩

instance : Related L t.namesProperty t'.namesProperty :=
  ⟨by simp only [Data.view, namesProperty, kind_eq (h := h)], trivial, trivial⟩

instance : Related L (Parse.startsKey t) (Parse.startsKey t') := by
  unfold Parse.startsKey
  infer_instance

end

end Token

namespace Node
section
variable {L : Look} {t t' : Token} {x x' y y' : Text} {a a' b b' c c' : Bool}
  {m m' n n' o o' p p' : Node} {ms ms' ns ns' : List Node} [Related L t t'] [Related L x x']
  [Related L y y'] [Related L a a'] [Related L b b'] [Related L c c'] [Related L m m']
  [Related L n n'] [Related L o o'] [Related L p p'] [Related L ms ms'] [Related L ns ns']

open Related (plain)

attribute [local simp] Data.view

instance : Related L (block t ms) (block t' ms') := plain (by (conv => congr <;> whnf); simp_all [related_iff]) rfl rfl
instance : Related L (expressionStatement t m) (expressionStatement t' m') :=
  plain (by (conv => congr <;> whnf); simp_all [related_iff]) rfl rfl
instance : Related L (declarator t m a n o) (declarator t' m' a' n' o') :=
  plain (by (conv => congr <;> whnf); simp_all [related_iff]) rfl rfl
instance : Related L (functionDeclaration t m) (functionDeclaration t' m') :=
  plain (by (conv => congr <;> whnf); simp_all [related_iff]) rfl rfl
instance : Related L (interfaceDeclaration t m ms ns) (interfaceDeclaration t' m' ms' ns') :=
  plain (by (conv => congr <;> whnf); simp_all [related_iff]) rfl rfl
instance : Related L (typeAlias t m n) (typeAlias t' m' n') :=
  plain (by (conv => congr <;> whnf); simp_all [related_iff]) rfl rfl
instance : Related L (ifStatement t m n o) (ifStatement t' m' n' o') :=
  plain (by (conv => congr <;> whnf); simp_all [related_iff]) rfl rfl
instance : Related L (forStatement t m n o p) (forStatement t' m' n' o' p') :=
  plain (by (conv => congr <;> whnf); simp_all [related_iff]) rfl rfl
instance : Related L (forIn t m n o) (forIn t' m' n' o') :=
  plain (by (conv => congr <;> whnf); simp_all [related_iff]) rfl rfl
instance : Related L (forOf t a m n o) (forOf t' a' m' n' o') :=
  plain (by (conv => congr <;> whnf); simp_all [related_iff]) rfl rfl
instance : Related L (whileStatement t m n) (whileStatement t' m' n') :=
  plain (by (conv => congr <;> whnf); simp_all [related_iff]) rfl rfl
instance : Related L (doWhile t m n) (doWhile t' m' n') := plain (by (conv => congr <;> whnf); simp_all [related_iff]) rfl rfl
instance : Related L (returnStatement t m) (returnStatement t' m') :=
  plain (by (conv => congr <;> whnf); simp_all [related_iff]) rfl rfl
instance : Related L (breakStatement t m) (breakStatement t' m') :=
  plain (by (conv => congr <;> whnf); simp_all [related_iff]) rfl rfl
instance : Related L (continueStatement t m) (continueStatement t' m') :=
  plain (by (conv => congr <;> whnf); simp_all [related_iff]) rfl rfl
instance : Related L (throwStatement t m) (throwStatement t' m') :=
  plain (by (conv => congr <;> whnf); simp_all [related_iff]) rfl rfl
instance : Related L (tryStatement t m n o) (tryStatement t' m' n' o') :=
  plain (by (conv => congr <;> whnf); simp_all [related_iff]) rfl rfl
instance : Related L (catchClause t m n o) (catchClause t' m' n' o') :=
  plain (by (conv => congr <;> whnf); simp_all [related_iff]) rfl rfl
instance : Related L (switchStatement t m ms) (switchStatement t' m' ms') :=
  plain (by (conv => congr <;> whnf); simp_all [related_iff]) rfl rfl
instance : Related L (switchCase t m ms) (switchCase t' m' ms') :=
  plain (by (conv => congr <;> whnf); simp_all [related_iff]) rfl rfl
instance : Related L (labeled t m n) (labeled t' m' n') := plain (by (conv => congr <;> whnf); simp_all [related_iff]) rfl rfl
instance : Related L (emptyStatement t) (emptyStatement t') :=
  plain (by (conv => congr <;> whnf); simp_all [related_iff]) rfl rfl
instance : Related L (identifier t x) (identifier t' x') :=
  plain (by (conv => congr <;> whnf); simp_all [related_iff]) rfl rfl
instance : Related L (privateName t x) (privateName t' x') :=
  plain (by (conv => congr <;> whnf); simp_all [related_iff]) rfl rfl
instance : Related L (number t x) (number t' x') := plain (by (conv => congr <;> whnf); simp_all [related_iff]) rfl rfl
instance : Related L (string t x y) (string t' x' y') := plain (by (conv => congr <;> whnf); simp_all [related_iff]) rfl rfl
instance : Related L (boolean t a) (boolean t' a') := plain (by (conv => congr <;> whnf); simp_all [related_iff]) rfl rfl
instance : Related L (null t) (null t') := plain (by (conv => congr <;> whnf); simp_all [related_iff]) rfl rfl
instance : Related L (regex t x y) (regex t' x' y') := plain (by (conv => congr <;> whnf); simp_all [related_iff]) rfl rfl
instance {xs : List Text} : Related L (template t xs ms) (template t' xs ms') :=
  plain (by (conv => congr <;> whnf); simp_all [related_iff]) rfl rfl
instance : Related L (this t) (this t') := plain (by (conv => congr <;> whnf); simp_all [related_iff]) rfl rfl
instance : Related L (array t ms) (array t' ms') := plain (by (conv => congr <;> whnf); simp_all [related_iff]) rfl rfl
instance : Related L (object t ms) (object t' ms') := plain (by (conv => congr <;> whnf); simp_all [related_iff]) rfl rfl
instance : Related L (property t m a n b c) (property t' m' a' n' b' c') :=
  plain (by (conv => congr <;> whnf); simp_all [related_iff]) rfl rfl
instance : Related L (spread t m) (spread t' m') := plain (by (conv => congr <;> whnf); simp_all [related_iff]) rfl rfl
instance : Related L (parameter t m a b n o) (parameter t' m' a' b' n' o') :=
  plain (by (conv => congr <;> whnf); simp_all [related_iff]) rfl rfl
instance : Related L (function t a m ms n o) (function t' a' m' ms' n' o') :=
  plain (by (conv => congr <;> whnf); simp_all [related_iff]) rfl rfl
instance : Related L (arrow t a ms m n) (arrow t' a' ms' m' n') :=
  plain (by (conv => congr <;> whnf); simp_all [related_iff]) rfl rfl
instance : Related L (taggedTemplate t m n) (taggedTemplate t' m' n') :=
  plain (by (conv => congr <;> whnf); simp_all [related_iff]) rfl rfl
instance : Related L (call t m ms a) (call t' m' ms' a') :=
  plain (by (conv => congr <;> whnf); simp_all [related_iff]) rfl rfl
instance : Related L (new t m ms) (new t' m' ms') := plain (by (conv => congr <;> whnf); simp_all [related_iff]) rfl rfl
instance : Related L (member t m n a b) (member t' m' n' a' b') :=
  plain (by (conv => congr <;> whnf); simp_all [related_iff]) rfl rfl
instance : Related L (assignment t x m n) (assignment t' x' m' n') :=
  plain (by (conv => congr <;> whnf); simp_all [related_iff]) rfl rfl
instance : Related L (binary t m x n) (binary t' m' x' n') :=
  plain (by (conv => congr <;> whnf); simp_all [related_iff]) rfl rfl
instance : Related L (unary t x m) (unary t' x' m') := plain (by (conv => congr <;> whnf); simp_all [related_iff]) rfl rfl
instance : Related L (update t x m a) (update t' x' m' a') :=
  plain (by (conv => congr <;> whnf); simp_all [related_iff]) rfl rfl
instance : Related L (conditional t m n o) (conditional t' m' n' o') :=
  plain (by (conv => congr <;> whnf); simp_all [related_iff]) rfl rfl
instance : Related L (sequence t ms) (sequence t' ms') := plain (by (conv => congr <;> whnf); simp_all [related_iff]) rfl rfl
instance : Related L (await t m) (await t' m') := plain (by (conv => congr <;> whnf); simp_all [related_iff]) rfl rfl
instance : Related L (assertion t m n a) (assertion t' m' n' a') :=
  plain (by (conv => congr <;> whnf); simp_all [related_iff]) rfl rfl
instance : Related L (nonNull t m) (nonNull t' m') := plain (by (conv => congr <;> whnf); simp_all [related_iff]) rfl rfl
instance : Related L (arrayPattern t ms) (arrayPattern t' ms') :=
  plain (by (conv => congr <;> whnf); simp_all [related_iff]) rfl rfl
instance : Related L (objectPattern t ms m) (objectPattern t' ms' m') :=
  plain (by (conv => congr <;> whnf); simp_all [related_iff]) rfl rfl
instance : Related L (patternProperty t m a n b) (patternProperty t' m' a' n' b') :=
  plain (by (conv => congr <;> whnf); simp_all [related_iff]) rfl rfl
instance : Related L (assignmentPattern t m n) (assignmentPattern t' m' n') :=
  plain (by (conv => congr <;> whnf); simp_all [related_iff]) rfl rfl
instance : Related L (restElement t m) (restElement t' m') :=
  plain (by (conv => congr <;> whnf); simp_all [related_iff]) rfl rfl
instance : Related L (propertySignature t m a b c n) (propertySignature t' m' a' b' c' n') :=
  plain (by (conv => congr <;> whnf); simp_all [related_iff]) rfl rfl
instance : Related L (methodSignature t m a b ms n) (methodSignature t' m' a' b' ms' n') :=
  plain (by (conv => congr <;> whnf); simp_all [related_iff]) rfl rfl
instance : Related L (indexSignature t a m n o) (indexSignature t' a' m' n' o') :=
  plain (by (conv => congr <;> whnf); simp_all [related_iff]) rfl rfl
instance : Related L (keywordType t x) (keywordType t' x') :=
  plain (by (conv => congr <;> whnf); simp_all [related_iff]) rfl rfl
instance : Related L (arrayType t m) (arrayType t' m') := plain (by (conv => congr <;> whnf); simp_all [related_iff]) rfl rfl
instance : Related L (unionType t ms) (unionType t' ms') :=
  plain (by (conv => congr <;> whnf); simp_all [related_iff]) rfl rfl
instance : Related L (intersectionType t ms) (intersectionType t' ms') :=
  plain (by (conv => congr <;> whnf); simp_all [related_iff]) rfl rfl
instance : Related L (parenthesizedType t m) (parenthesizedType t' m') :=
  plain (by (conv => congr <;> whnf); simp_all [related_iff]) rfl rfl
instance : Related L (typeReference t m ms) (typeReference t' m' ms') :=
  plain (by (conv => congr <;> whnf); simp_all [related_iff]) rfl rfl
instance : Related L (qualifiedName t m n) (qualifiedName t' m' n') :=
  plain (by (conv => congr <;> whnf); simp_all [related_iff]) rfl rfl
instance : Related L (literalType t m) (literalType t' m') :=
  plain (by (conv => congr <;> whnf); simp_all [related_iff]) rfl rfl
instance : Related L (tupleType t ms) (tupleType t' ms') :=
  plain (by (conv => congr <;> whnf); simp_all [related_iff]) rfl rfl
instance : Related L (functionType t ms m) (functionType t' ms' m') :=
  plain (by (conv => congr <;> whnf); simp_all [related_iff]) rfl rfl
instance : Related L (objectType t ms) (objectType t' ms') :=
  plain (by (conv => congr <;> whnf); simp_all [related_iff]) rfl rfl

instance [h : Related L t t'] : Related L (declaration t x ms) (declaration t' x' ms') where
  eq := by
    change declaration _ _ (mapTokensAll _ _) = declaration _ _ (mapTokensAll _ _)
    simp_all [related_iff]
  good := by
    rintro _ ⟨⟩
    exact L.shown_of_good h.good
  good' := by
    rintro _ ⟨⟩
    exact L.shown_of_good h.good'

end

section
variable {L : Look} {n n' : Node}

theorem mapTokens_eq (h : Related L n n') : n.mapTokens L.view = n'.mapTokens L.view :=
  h.eq

variable [h : Related L n n']
include h

theorem alike_of_related : n.Alike n' := by
  have same := congrArg withoutTokens (mapTokens_eq h)
  rwa [withoutTokens_mapTokens, withoutTokens_mapTokens] at same

instance : Related L n.isAssignable n'.isAssignable :=
  ⟨(alike_of_related (h := h)).isAssignable, trivial, trivial⟩

instance : Related L n.isDestructuring n'.isDestructuring where
  eq := by
    have same := congrArg isDestructuring (mapTokens_eq h)
    rwa [isDestructuring_mapTokens, isDestructuring_mapTokens] at same
  good := trivial
  good' := trivial

instance : Related L n.isPresent n'.isPresent where
  eq := by
    have same := congrArg isPresent (mapTokens_eq h)
    rwa [isPresent_mapTokens, isPresent_mapTokens] at same
  good := trivial
  good' := trivial

end

end Node
end CoScript
