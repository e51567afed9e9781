import ImageSelect.Proofs.Filter.Denotation

/-!
# Well-formed trees

A tree is well-formed if each of its predicates is one that can be made, each
composite has as many children as it admits, and each child consumes what its
parent supplies.  Every tree that an expression stands for is well-formed.

The metadata look-ups of a tree are listed by `Tree.lookUps`.  All look-ups of
a tree that an expression stands for use the extractor that was given.
-/

namespace ImageSelect.Filter

/-! ## Trees -/

/-- Every predicate is one that can be made, and every child consumes what its
parent supplies. -/
inductive Tree.WellFormed : Tree → Prop where
  | leaf {l : LiteralTest} (known : (Shape.test l.test).IsKnown) : WellFormed (.leaf l)
  | branch {c : Composite} {children : List Tree} (known : (Shape.composite c).IsKnown)
      (admitted : c.admits children.length = true) (fed : c.Feeds children)
      (below : ∀ t ∈ children, WellFormed t) : WellFormed (.branch c children)

mutual

/-- What an expression stands for is well-formed. -/
theorem Denotes.wellFormed {extractor : Option Extractor} {context : ValueType} {e : Expr}
    {t : Tree} (h : Denotes extractor context e t) : t.WellFormed := by
  cases h with
  | literal l made => exact .leaf made.isKnown
  | composite made inner admitted fed =>
    exact .branch made.isKnown admitted fed inner.wellFormed

theorem DenotesAll.wellFormed {extractor : Option Extractor} {context : ValueType}
    {es : List Expr} {ts : List Tree} (h : DenotesAll extractor context es ts) :
    ∀ t ∈ ts, t.WellFormed := by
  cases h with
  | nil => simp
  | cons head tail => exact List.forall_mem_cons.2 ⟨head.wellFormed, tail.wellFormed⟩

end

/-- Tokens that compile give a well-formed tree that consumes the type of the
candidates. -/
theorem wellFormed_of_compileTokens {extractor : Option Extractor} {candidates : ValueType}
    {tokens : List Token} {t : Tree} (h : compileTokens extractor candidates tokens = .ok t) :
    t.WellFormed ∧ t.shape.accepts (some candidates) = true := by
  obtain ⟨e, -, hd, haccepts⟩ := compileTokens_eq_ok_iff.1 h
  exact ⟨hd.wellFormed, haccepts⟩

theorem compileText_eq_ok_iff {extractor : Option Extractor} {candidates : ValueType}
    {text : String} {t : Tree} :
    compileText extractor candidates text = .ok t ↔
      ∃ tokens, tokenize text = .ok tokens ∧ compileTokens extractor candidates tokens = .ok t := by
  unfold compileText
  cases tokenize text <;> simp

/-- A text that compiles gives a well-formed tree that consumes the type of
the candidates. -/
theorem wellFormed_of_compileText {extractor : Option Extractor} {candidates : ValueType}
    {text : String} {t : Tree} (h : compileText extractor candidates text = .ok t) :
    t.WellFormed ∧ t.shape.accepts (some candidates) = true := by
  obtain ⟨tokens, -, h⟩ := compileText_eq_ok_iff.1 h
  exact wellFormed_of_compileTokens h

mutual

/-- The metadata look-ups of a tree: their keys and extractors. -/
def Tree.lookUps : Tree → List (String × Extractor)
  | .leaf _ => []
  | .branch (.metadata key source) children => (key, source) :: lookUpsAll children
  | .branch _ children => lookUpsAll children

/-- The metadata look-ups of trees. -/
def lookUpsAll : List Tree → List (String × Extractor)
  | [] => []
  | t :: ts => t.lookUps ++ lookUpsAll ts

end

theorem lookUpsAll_eq_flatMap (ts : List Tree) : lookUpsAll ts = ts.flatMap Tree.lookUps := by
  induction ts with
  | nil => rfl
  | cons t ts ih => rw [lookUpsAll, ih, List.flatMap_cons]

/-- The look-ups of a composite are its own and those of its children. -/
theorem Tree.mem_lookUps_branch_iff {c : Composite} {children : List Tree} {key : String}
    {source : Extractor} :
    (key, source) ∈ (Tree.branch c children).lookUps ↔
      c = .metadata key source ∨ (key, source) ∈ lookUpsAll children := by
  cases c with
  | metadata key' source' =>
    rw [Tree.lookUps, List.mem_cons, Prod.mk.injEq, Composite.metadata.injEq, eq_comm,
      eq_comm (a := source)]
  | connective c domain => simp [Tree.lookUps]
  | feature f => simp [Tree.lookUps]
  | quorum least most => simp [Tree.lookUps]

/-- The look-ups of a child are among those of its parent. -/
theorem Tree.mem_lookUps_of_mem {c : Composite} {children : List Tree} {t : Tree}
    {key : String} {source : Extractor} (ht : t ∈ children) (h : (key, source) ∈ t.lookUps) :
    (key, source) ∈ (Tree.branch c children).lookUps := by
  rw [Tree.mem_lookUps_branch_iff, lookUpsAll_eq_flatMap]
  exact .inr (List.mem_flatMap.2 ⟨t, ht, h⟩)

mutual

/-- The look-ups of a tree that an expression stands for use the extractor
that was given. -/
theorem Denotes.source_eq {extractor : Option Extractor} {context : ValueType} {e : Expr}
    {t : Tree} (h : Denotes extractor context e t) {key : String} {source : Extractor}
    (hmem : (key, source) ∈ t.lookUps) : source = lookUpSource extractor := by
  cases h with
  | literal l made => simp [Tree.lookUps] at hmem
  | composite made inner admitted fed =>
    rcases Tree.mem_lookUps_branch_iff.1 hmem with heq | hmem
    · subst heq
      exact (Makes.metadata_iff.1 made).2.2.2.2
    · exact inner.source_eq hmem

theorem DenotesAll.source_eq {extractor : Option Extractor} {context : ValueType}
    {es : List Expr} {ts : List Tree} (h : DenotesAll extractor context es ts) {key : String}
    {source : Extractor} (hmem : (key, source) ∈ lookUpsAll ts) :
    source = lookUpSource extractor := by
  cases h with
  | nil => simp [lookUpsAll] at hmem
  | cons head tail =>
    rcases List.mem_append.1 hmem with hmem | hmem
    · exact head.source_eq hmem
    · exact tail.source_eq hmem

end

theorem source_eq_of_compileText {extractor : Option Extractor} {candidates : ValueType}
    {text : String} {t : Tree} (h : compileText extractor candidates text = .ok t) {key : String}
    {source : Extractor} (hmem : (key, source) ∈ t.lookUps) :
    source = lookUpSource extractor := by
  obtain ⟨tokens, -, htokens⟩ := compileText_eq_ok_iff.1 h
  obtain ⟨e, -, hd, -⟩ := compileTokens_eq_ok_iff.1 htokens
  exact hd.source_eq hmem

end ImageSelect.Filter
