import ImageSelect.Proofs.Filter.Attach
import ImageSelect.Proofs.Filter.Grammar

/-!
# The trees that expressions stand for

`Denotes` says which tree an expression stands for in a context that supplies
values of a type, given the extractor for metadata look-ups.  It lists the
checks: each symbol is known and takes its parameter, a test has a literal
that it can prepare, and a composite has children, as many as it admits, each
of which consumes what the composite supplies.

Compiling visits an outline from left to right and stops at the first check
that fails.  `Outline.compile_eq_ok_iff` says that the order does not matter
for what compiles.  `compileTokens_eq_ok_iff` is the statement for whole token
lists.
-/

namespace ImageSelect.Filter

mutual

/-- The tree that an expression stands for in a context. -/
inductive Denotes (extractor : Option Extractor) : ValueType → Expr → Tree → Prop where
  | literal {context : ValueType} {name : String} {param : Option String} (l : LiteralTest)
      (made : Makes extractor context name param (.test l.test)) :
      Denotes extractor context (.literal name param l.literal) (.leaf l)
  | composite {context : ValueType} {name : String} {param : Option String} {c : Composite}
      {operands : List Expr} {children : List Tree}
      (made : Makes extractor context name param (.composite c))
      (inner : DenotesAll extractor c.output operands children)
      (admitted : c.admits children.length = true) (fed : c.Feeds children) :
      Denotes extractor context (.composite name param operands) (.branch c children)

/-- The trees that operands stand for in a context. -/
inductive DenotesAll (extractor : Option Extractor) :
    ValueType → List Expr → List Tree → Prop where
  | nil {context : ValueType} : DenotesAll extractor context [] []
  | cons {context : ValueType} {e : Expr} {t : Tree} {es : List Expr} {ts : List Tree}
      (head : Denotes extractor context e t) (tail : DenotesAll extractor context es ts) :
      DenotesAll extractor context (e :: es) (t :: ts)

end

/-- Operands stand for as many trees. -/
theorem DenotesAll.length_eq {extractor : Option Extractor} {context : ValueType}
    {es : List Expr} {ts : List Tree} (h : DenotesAll extractor context es ts) :
    ts.length = es.length := by
  induction es generalizing ts with
  | nil =>
    cases h
    rfl
  | cons e es ih =>
    cases h with
    | cons head tail => rw [List.length_cons, List.length_cons, ih tail]

mutual

/-- An expression stands for one tree in a context. -/
theorem Denotes.unique {extractor : Option Extractor} {context : ValueType} {e : Expr}
    {t t' : Tree} (h : Denotes extractor context e t) (h' : Denotes extractor context e t') :
    t = t' := by
  cases h with
  | literal l made =>
    generalize htext : l.literal = text at h'
    cases h' with
    | literal l' made' =>
      obtain htest := Shape.test.inj (made.unique made')
      rw [LiteralTest.ext htest htext]
  | composite made inner admitted fed =>
    cases h' with
    | composite made' inner' admitted' fed' =>
      obtain rfl := Shape.composite.inj (made.unique made')
      rw [inner.unique inner']

/-- Operands stand for one list of trees in a context. -/
theorem DenotesAll.unique {extractor : Option Extractor} {context : ValueType} {es : List Expr}
    {ts ts' : List Tree} (h : DenotesAll extractor context es ts)
    (h' : DenotesAll extractor context es ts') : ts = ts' := by
  cases h with
  | nil =>
    cases h'
    rfl
  | cons head tail =>
    cases h' with
    | cons head' tail' => rw [head.unique head', tail.unique tail']

end

section
variable (extractor : Option Extractor)

/-- Parentheses leave no mark on what operands compile to. -/
theorem Operands.compile_bare (context : ValueType) (operand : Outline) (more : Operands) :
    (Operands.bare operand more).compile extractor context =
      (Operands.group operand more).compile extractor context := by
  rw [Operands.compile, Operands.compile]

theorem Operands.compile_group_eq_ok_iff {context : ValueType} {operand : Outline}
    {more : Operands}
    (ih1 : ∀ t, operand.compile extractor context = .ok t ↔
      ∃ e, operand.expr? = some e ∧ Denotes extractor context e t)
    (ih2 : ∀ ts, more.compile extractor context = .ok ts ↔
      ∃ es, more.exprs? = some es ∧ DenotesAll extractor context es ts) (ts : List Tree) :
    (Operands.group operand more).compile extractor context = .ok ts ↔
      ∃ es, (Operands.group operand more).exprs? = some es ∧
        DenotesAll extractor context es ts := by
  simp only [Operands.compile, Except.bind_eq_ok_iff, ih1, ih2]
  constructor
  · intro h
    obtain ⟨t, ⟨e, he, hd⟩, ts, ⟨es, hes, hall⟩, h⟩ := h
    obtain rfl := Except.ok.inj h
    exact ⟨e :: es, Operands.exprs?_group he hes, .cons hd hall⟩
  · intro h
    obtain ⟨es, hes, h⟩ := h
    obtain ⟨e, es, he, htail, rfl⟩ := Operands.exprs?_group_eq_some hes
    cases h with
    | cons head tail => exact ⟨_, ⟨e, he, head⟩, _, ⟨es, htail, tail⟩, rfl⟩

mutual

/-- What compiles is the outlines that hold no offending spot and whose
expression stands for a tree. -/
theorem Outline.compile_eq_ok_iff (context : ValueType) :
    ∀ (o : Outline) (t : Tree), o.compile extractor context = .ok t ↔
      ∃ e, o.expr? = some e ∧ Denotes extractor context e t
  | .missing, t => by simp [Outline.compile, Outline.expr?]
  | .misplaced token, t => by simp [Outline.compile, Outline.expr?]
  | .withLiteral name param position text, t => by
    simp only [Outline.compile, Outline.expr?, Except.bind_eq_ok_iff, makeShape_eq_ok_iff,
      Except.mapError_eq_ok_iff, attachLiteral_eq_ok_iff, Option.some.injEq]
    constructor
    · intro h
      obtain ⟨shape, hmade, l, rfl, rfl, rfl⟩ := h
      exact ⟨_, rfl, .literal l hmade⟩
    · intro h
      obtain ⟨e, rfl, h⟩ := h
      cases h with
      | literal l made => exact ⟨_, made, l, rfl, rfl, rfl⟩
  | .withOperands name param position operands, t => by
    rw [Outline.compile, Except.bind_eq_ok_iff]
    constructor
    · intro h
      obtain ⟨shape, hmade, h⟩ := h
      rw [makeShape_eq_ok_iff] at hmade
      cases shape with
      | test test => simp at h
      | composite c =>
        simp only [Except.bind_eq_ok_iff, attachOperands_eq_ok_iff] at h
        obtain ⟨children, hchildren, hadmits, hfeeds, rfl⟩ := h
        obtain ⟨es, hes, hall⟩ :=
          (Operands.compile_eq_ok_iff c.output operands children).1 hchildren
        have hne : es ≠ [] := by
          intro h
          subst h
          have hpos := Composite.pos_of_admits hmade.isKnown hadmits
          rw [hall.length_eq] at hpos
          simp at hpos
        exact ⟨_, Outline.expr?_withOperands hes hne, .composite hmade hall hadmits hfeeds⟩
    · intro h
      obtain ⟨e, he, h⟩ := h
      obtain ⟨es, hes, -, rfl⟩ := Outline.expr?_withOperands_eq_some he
      cases h with
      | composite made inner admitted fed =>
        refine ⟨_, makeShape_eq_ok_iff.2 made, ?_⟩
        simp only [Except.bind_eq_ok_iff, attachOperands_eq_ok_iff]
        exact ⟨_, (Operands.compile_eq_ok_iff _ operands _).2 ⟨es, hes, inner⟩, admitted,
          fed, rfl⟩

/-- What compiles is the operands that hold no offending spot and whose
expressions stand for trees. -/
theorem Operands.compile_eq_ok_iff (context : ValueType) :
    ∀ (operands : Operands) (ts : List Tree), operands.compile extractor context = .ok ts ↔
      ∃ es, operands.exprs? = some es ∧ DenotesAll extractor context es ts
  | .done, ts => by
    simp only [Operands.compile, Operands.exprs?, Option.some.injEq]
    constructor
    · intro h
      obtain rfl := Except.ok.inj h
      exact ⟨[], rfl, .nil⟩
    · intro h
      obtain ⟨es, rfl, h⟩ := h
      cases h
      rfl
  | .bare operand more, ts => by
    rw [Operands.compile_bare, Operands.exprs?_bare]
    exact Operands.compile_group_eq_ok_iff extractor (Outline.compile_eq_ok_iff context operand)
      (Operands.compile_eq_ok_iff context more) ts
  | .group operand more, ts =>
    Operands.compile_group_eq_ok_iff extractor (Outline.compile_eq_ok_iff context operand)
      (Operands.compile_eq_ok_iff context more) ts
  | .unclosed position operand, ts => by
    simp [Operands.compile, Operands.exprs?, Except.bind_eq_ok_iff]
  | .stray text position, ts => by simp [Operands.compile, Operands.exprs?]

end

end

theorem settle_eq_ok_iff {candidates : ValueType} {extra : Option Token} {t t' : Tree} :
    settle candidates extra t = .ok t' ↔
      extra = none ∧ t.shape.accepts (some candidates) = true ∧ t = t' := by
  cases extra with
  | none => by_cases h : t.shape.accepts (some candidates) = true <;> simp [settle, h]
  | some token => simp [settle]

/-- What compiles, for candidates of a type, is the token lists that derive an
expression which stands for a tree that consumes this type. -/
theorem compileTokens_eq_ok_iff {extractor : Option Extractor} {candidates : ValueType}
    {tokens : List Token} {t : Tree} :
    compileTokens extractor candidates tokens = .ok t ↔
      ∃ e, Derives (lexemes tokens) e ∧ Denotes extractor candidates e t ∧
        t.shape.accepts (some candidates) = true := by
  cases tokens with
  | nil =>
    constructor
    · intro h
      simp [compileTokens] at h
    · intro h
      obtain ⟨e, h, -⟩ := h
      cases h
  | cons token tokens =>
    have hcompile : compileTokens extractor candidates (token :: tokens) =
        (outlineAll (token :: tokens)).1.compile extractor candidates >>=
          settle candidates (outlineAll (token :: tokens)).2 := rfl
    simp only [hcompile, Except.bind_eq_ok_iff, settle_eq_ok_iff, Outline.compile_eq_ok_iff]
    constructor
    · intro h
      obtain ⟨t, ⟨e, he, hd⟩, hextra, haccepts, rfl⟩ := h
      exact ⟨e, (outlineAll_iff_derives _ e).1 ⟨he, hextra⟩, hd, haccepts⟩
    · intro h
      obtain ⟨e, hder, hd, haccepts⟩ := h
      obtain ⟨he, hextra⟩ := (outlineAll_iff_derives _ e).2 hder
      exact ⟨t, ⟨e, he, hd⟩, hextra, haccepts, rfl⟩

end ImageSelect.Filter
