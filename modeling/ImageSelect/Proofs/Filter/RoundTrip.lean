import ImageSelect.Proofs.Filter.Builder
import ImageSelect.Proofs.Filter.Scan

/-!
# Rendering and compiling again

A tree that is rendered and compiled again comes back, each connective with
the type of its context.

* `Tree.expr` is the expression that a tree is rendered as.  One child is
  rendered bare and is the last operand, so it may take all that follows;
  several children are rendered in parentheses.
* `Tree.retype` is what the expression stands for in a context.  A connective
  that gets a narrower type supplies a narrower type, which its children
  consume as well.
* A tree that was compiled has the types of its contexts and keys that can be
  written, so it comes back as it is.
-/

namespace ImageSelect.Filter

/-! ## The expression of a tree -/

/-- The parameter of a composite in an expression. -/
def Composite.param? : Composite → Option String
  | .metadata key _ => some key
  | _ => none

mutual

/-- The expression that a tree is rendered as. -/
def Tree.expr : Tree → Expr
  | .leaf l => .literal l.test.symbol none l.literal
  | .branch c children => .composite c.symbol c.param? (exprs children)

/-- The expressions that trees are rendered as. -/
def exprs : List Tree → List Expr
  | [] => []
  | t :: ts => t.expr :: exprs ts

end

/-! ## The types of the contexts -/

/-- A composite in a context: a connective has the type of its context. -/
def Composite.retype (context : ValueType) : Composite → Composite
  | .connective c _ => .connective c context
  | c => c

mutual

/-- A tree in a context, with each connective typed by its own context. -/
def Tree.retype (context : ValueType) : Tree → Tree
  | .leaf l => .leaf l
  | .branch c children =>
    .branch (c.retype context) (retypeAll (c.retype context).output children)

/-- Trees in a context. -/
def retypeAll (context : ValueType) : List Tree → List Tree
  | [] => []
  | t :: ts => t.retype context :: retypeAll context ts

end

theorem retypeAll_eq_map (context : ValueType) (ts : List Tree) :
    retypeAll context ts = ts.map (Tree.retype context) := by
  induction ts with
  | nil => rfl
  | cons t ts ih => rw [retypeAll, ih, List.map_cons]

section
variable (context : ValueType) (c : Composite)

@[simp] theorem Composite.head_retype : (c.retype context).head = c.head := by
  cases c <;> rfl

@[simp] theorem Composite.admits_retype (count : Nat) :
    (c.retype context).admits count = c.admits count := by
  cases c with
  | connective c domain => cases c <;> rfl
  | _ => rfl

end

/-- A tree in a context consumes what the context supplies if the tree does. -/
theorem Tree.accepts_retype {t : Tree} {context : ValueType}
    (h : t.shape.accepts (some context) = true) :
    (t.retype context).shape.accepts (some context) = true := by
  cases t with
  | leaf l => exact h
  | branch c children =>
    cases c with
    | connective c domain => exact ValueType.isSubtype_refl context
    | _ => exact h

/-- The children of a composite consume what it supplies in a context. -/
theorem Composite.Feeds.retype {c : Composite} {children : List Tree} {context : ValueType}
    (h : c.Feeds children) (ha : (Shape.composite c).accepts (some context) = true) :
    (c.retype context).Feeds children := by
  cases c with
  | connective c domain => exact fun t ht => ValueType.isSubtype_trans ha (h t ht)
  | _ => exact h

/-- Contexts leave no mark on what is rendered. -/
theorem Tree.render_retype (t : Tree) (context : ValueType) :
    (t.retype context).render = t.render := by
  induction t using Tree.induct generalizing context with
  | leaf l => rfl
  | branch c children ih =>
    have hall : (retypeAll (c.retype context).output children).map Tree.render =
        children.map Tree.render := by
      rw [retypeAll_eq_map, List.map_map]
      exact List.map_congr_left fun t ht => ih t ht _
    rw [Tree.retype, Tree.render, Tree.render, renderAll_eq_map, renderAll_eq_map, hall,
      Composite.head_retype]

/-! ## What the expression of a tree stands for -/

section
variable {extractor : Option Extractor} {context : ValueType}

/-- The symbol of a known test stands for the test. -/
theorem TextTest.makes {t : TextTest} (h : (Shape.test t).IsKnown) :
    Makes extractor context t.symbol none (.test t) :=
  ⟨.test t, (Meaning.isKnown_test h).ofSymbol?, rfl⟩

/-- The symbol of a known composite stands for the composite in a context, if
its look-up has the given extractor and a key. -/
theorem Composite.makes_retype {c : Composite} (known : (Shape.composite c).IsKnown)
    (hlookUp : ∀ key source, c = .metadata key source →
      source = lookUpSource extractor ∧ key ≠ "") :
    Makes extractor context c.symbol c.param? (.composite (c.retype context)) := by
  cases c with
  | connective c domain => exact ⟨.connective c, (Meaning.isKnown_connective c).ofSymbol?, rfl⟩
  | feature f => exact ⟨.feature f, (Meaning.isKnown_feature f).ofSymbol?, rfl⟩
  | metadata key source =>
    obtain ⟨rfl, hne⟩ := hlookUp key source rfl
    exact Makes.metadata_iff.2 ⟨Meaning.isKnown_metadata.ofSymbol?, rfl, hne, known, rfl⟩
  | quorum least most => exact known.elim

end

/-- The look-ups of a tree have the given extractor and keys that can be
written. -/
def Tree.Writable (extractor : Option Extractor) (t : Tree) : Prop :=
  ∀ key source, (key, source) ∈ t.lookUps → source = lookUpSource extractor ∧ IsSpellable key

theorem Tree.Writable.of_mem {extractor : Option Extractor} {c : Composite}
    {children : List Tree} {t : Tree} (h : (Tree.branch c children).Writable extractor)
    (ht : t ∈ children) : t.Writable extractor :=
  fun key source hmem => h key source (Tree.mem_lookUps_of_mem ht hmem)

theorem Tree.Writable.own {extractor : Option Extractor} {c : Composite}
    {children : List Tree} (h : (Tree.branch c children).Writable extractor) {key : String}
    {source : Extractor} (hc : c = .metadata key source) :
    source = lookUpSource extractor ∧ IsSpellable key :=
  h key source (Tree.mem_lookUps_branch_iff.2 (.inl hc))

theorem denotesAll_of_forall {extractor : Option Extractor} {context : ValueType}
    {ts : List Tree} (h : ∀ t ∈ ts, Denotes extractor context t.expr (t.retype context)) :
    DenotesAll extractor context (exprs ts) (retypeAll context ts) := by
  induction ts with
  | nil => exact .nil
  | cons t ts ih =>
    obtain ⟨ht, hts⟩ := List.forall_mem_cons.1 h
    exact .cons ht (ih hts)

/-- The expression of a well-formed tree stands for the tree in every context
that supplies what the tree consumes. -/
theorem Tree.WellFormed.denotes_retype {extractor : Option Extractor} {t : Tree}
    (h : t.WellFormed) (hw : t.Writable extractor) {context : ValueType}
    (ha : t.shape.accepts (some context) = true) :
    Denotes extractor context t.expr (t.retype context) := by
  induction h generalizing context with
  | @leaf l known => exact .literal l (TextTest.makes known)
  | @branch c children known admitted fed below ih =>
    have hfed : (c.retype context).Feeds children := fed.retype ha
    refine .composite (Composite.makes_retype known fun key source hc => ?_) ?_ ?_ ?_
    · obtain ⟨hsource, hkey⟩ := hw.own hc
      exact ⟨hsource, hkey.1⟩
    · exact denotesAll_of_forall fun t ht => ih t ht (hw.of_mem ht) (hfed t ht)
    · rw [Composite.admits_retype, retypeAll_eq_map, List.length_map]
      exact admitted
    · intro t' ht'
      rw [retypeAll_eq_map] at ht'
      obtain ⟨t, ht, rfl⟩ := List.mem_map.1 ht'
      exact Tree.accepts_retype (hfed t ht)

/-! ## What is rendered -/

/-- What a tree is rendered as is scanned as lexemes that derive the
expression of the tree. -/
def Tree.Rendered (t : Tree) : Prop :=
  ∃ ls, Scans t.render.toList ls ∧ Derives ls t.expr

/-- The symbol of a known meaning can be read. -/
theorem Meaning.IsKnown.isSymbolText {m : Meaning} (h : m.IsKnown) :
    Filter.isSymbolText m.symbol.toList = true := by
  have hall : ∀ m ∈ meanings, Filter.isSymbolText m.symbol.toList = true := by decide
  exact hall m h

/-- The head of a composite and the space behind it. -/
theorem Composite.scans_head {c : Composite} (known : (Shape.composite c).IsKnown)
    (hkey : ∀ key source, c = .metadata key source → IsSpellable key) :
    Scans (c.head ++ " ").toList [.symbol c.symbol c.param?] := by
  rw [String.toList_append]
  cases c with
  | connective c domain => exact .symbol (Meaning.isKnown_connective c).isSymbolText
  | feature f => exact .symbol (Meaning.isKnown_feature f).isSymbolText
  | metadata key source =>
    have hhead : (Composite.metadata key source).head.toList =
        metadataSymbol.toList ++ '[' :: (key.toList ++ [']']) := by
      simp [Composite.head, String.toList_append]
    rw [hhead]
    have hscans := Scans.symbolKey Meaning.isKnown_metadata.isSymbolText (hkey key source rfl)
    exact hscans.append .space
  | quorum least most => exact known.elim

theorem Tree.rendered_leaf {l : LiteralTest} (known : (Shape.test l.test).IsKnown) :
    (Tree.leaf l).Rendered := by
  refine ⟨[.symbol l.test.symbol none, .literal l.literal], ?_, .literal _ _ _⟩
  have htext : (Tree.leaf l).render = l.test.symbol ++ " " ++ quoteLiteral l.literal := rfl
  rw [htext, String.toList_append, String.toList_append]
  exact (Scans.symbol (Meaning.isKnown_test known).isSymbolText).append (.quoteLiteral l.literal)

/-- One operand is rendered bare. -/
theorem Tree.Rendered.single {t : Tree} (h : t.Rendered) :
    ∃ ls, Scans t.render.toList ls ∧ DerivesAll ls [t.expr] := by
  obtain ⟨ls, hscans, hderives⟩ := h
  refine ⟨ls, hscans, ?_⟩
  cases t with
  | leaf l =>
    have hbare := DerivesAll.bareLiteral hderives .done
    rwa [List.append_nil] at hbare
  | branch c children => exact .bareComposite hderives

/-- The text of a tree in parentheses. -/
def Tree.grouped (t : Tree) : String :=
  "(" ++ t.render ++ ")"

theorem Tree.Rendered.grouped {t : Tree} {ls : List Lexeme} (h : Scans t.render.toList ls) :
    Scans t.grouped.toList (.lparen :: (ls ++ [.rparen])) := by
  rw [Tree.grouped, String.toList_append, String.toList_append, List.append_assoc]
  exact Scans.lparen.append (h.append .rparen)

/-- Several operands are rendered in parentheses, with spaces between. -/
theorem rendered_groups {ts : List Tree} (hne : ts ≠ []) (h : ∀ t ∈ ts, t.Rendered) :
    ∃ ls, Scans (" ".intercalate (ts.map Tree.grouped)).toList ls ∧
      DerivesAll ls (exprs ts) := by
  induction ts with
  | nil => exact absurd rfl hne
  | cons t ts ih =>
    obtain ⟨⟨ls, hscans, hderives⟩, hts⟩ := List.forall_mem_cons.1 h
    cases ts with
    | nil =>
      refine ⟨.lparen :: (ls ++ [.rparen]), ?_, .group hderives .done⟩
      rw [List.map_singleton, String.intercalate_singleton]
      exact Tree.Rendered.grouped hscans
    | cons t' ts =>
      obtain ⟨ls', hscans', hderives'⟩ := ih (by simp) hts
      refine ⟨.lparen :: (ls ++ .rparen :: ls'), ?_, .group hderives hderives'⟩
      rw [List.map_cons, List.map_cons, String.intercalate_cons_cons, ← List.map_cons,
        String.toList_append, String.toList_append]
      have hall := ((Tree.Rendered.grouped hscans).append .space).append hscans'
      simpa using hall

/-- A composite is rendered if its children are. -/
theorem Tree.rendered_branch {c : Composite} {children : List Tree}
    (known : (Shape.composite c).IsKnown)
    (hkey : ∀ key source, c = .metadata key source → IsSpellable key) (hne : children ≠ [])
    (h : ∀ t ∈ children, t.Rendered) : (Tree.branch c children).Rendered := by
  have hhead := Composite.scans_head known hkey
  obtain ⟨text, ls, htext, hscans, hderives⟩ : ∃ text ls,
      (Tree.branch c children).render = c.head ++ " " ++ text ∧ Scans text.toList ls ∧
        DerivesAll ls (exprs children) := by
    cases children with
    | nil => exact absurd rfl hne
    | cons t ts =>
      cases ts with
      | nil =>
        obtain ⟨ls, hscans, hderives⟩ := (h t List.mem_cons_self).single
        exact ⟨t.render, ls, rfl, hscans, hderives⟩
      | cons t' ts =>
        obtain ⟨ls, hscans, hderives⟩ := rendered_groups hne h
        refine ⟨_, ls, ?_, hscans, hderives⟩
        have hrender : (Tree.branch c (t :: t' :: ts)).render =
            " ".intercalate (c.head :: (t :: t' :: ts).map Tree.grouped) := by
          have hgrouped : (fun t : Tree => "(" ++ t.render ++ ")") = Tree.grouped := rfl
          rw [Tree.render, renderAll_eq_map, renderChildren, List.map_map, Function.comp_def,
            hgrouped]
          simp
        rw [hrender, List.map_cons, String.intercalate_cons_cons]
  refine ⟨.symbol c.symbol c.param? :: ls, ?_, .composite _ _ hderives ?_⟩
  · rw [htext, String.toList_append]
    exact hhead.append hscans
  · cases children with
    | nil => exact absurd rfl hne
    | cons t ts => simp [exprs]

theorem Tree.WellFormed.rendered {extractor : Option Extractor} {t : Tree} (h : t.WellFormed)
    (hw : t.Writable extractor) : t.Rendered := by
  induction h with
  | leaf known => exact Tree.rendered_leaf known
  | @branch c children known admitted fed below ih =>
    have hne : children ≠ [] := List.length_pos_iff.1 (Composite.pos_of_admits known admitted)
    exact Tree.rendered_branch known (fun key source hc => (hw.own hc).2) hne
      fun t ht => ih t ht (hw.of_mem ht)

/-- The text of a well-formed tree compiles to the tree in every context that
supplies what the tree consumes. -/
theorem Tree.WellFormed.compileText_render {extractor : Option Extractor} {t : Tree}
    (h : t.WellFormed) (hw : t.Writable extractor) {candidates : ValueType}
    (ha : t.shape.accepts (some candidates) = true) :
    compileText extractor candidates t.render = .ok (t.retype candidates) := by
  obtain ⟨ls, hscans, hderives⟩ := h.rendered hw
  obtain ⟨tokens, htokenize, rfl⟩ := hscans.tokenize
  refine compileText_eq_ok_iff.2 ⟨tokens, htokenize, compileTokens_eq_ok_iff.2 ?_⟩
  exact ⟨t.expr, hderives, h.denotes_retype hw ha, Tree.accepts_retype ha⟩

/-! ## Trees that were compiled -/

theorem Makes.retype_eq {extractor : Option Extractor} {context : ValueType} {name : String}
    {param : Option String} {c : Composite}
    (h : Makes extractor context name param (.composite c)) : c.retype context = c := by
  obtain ⟨m, -, hmake⟩ := h
  cases m with
  | test t => simp [Meaning.make_test_eq_ok_iff] at hmake
  | connective c' =>
    obtain ⟨-, heq⟩ := Meaning.make_connective_eq_ok_iff.1 hmake
    obtain rfl := Shape.composite.inj heq
    rfl
  | feature f =>
    obtain ⟨-, heq⟩ := Meaning.make_feature_eq_ok_iff.1 hmake
    obtain rfl := Shape.composite.inj heq
    rfl
  | metadata =>
    obtain ⟨key, -, -, -, heq⟩ := Meaning.make_metadata_eq_ok_iff.1 hmake
    obtain rfl := Shape.composite.inj heq
    rfl

mutual

/-- What an expression stands for has the types of its contexts. -/
theorem Denotes.retype_eq {extractor : Option Extractor} {context : ValueType} {e : Expr}
    {t : Tree} (h : Denotes extractor context e t) : t.retype context = t := by
  cases h with
  | literal l made => rfl
  | composite made inner admitted fed => rw [Tree.retype, made.retype_eq, inner.retype_eq]

theorem DenotesAll.retype_eq {extractor : Option Extractor} {context : ValueType}
    {es : List Expr} {ts : List Tree} (h : DenotesAll extractor context es ts) :
    retypeAll context ts = ts := by
  cases h with
  | nil => rfl
  | cons head tail => rw [retypeAll, head.retype_eq, tail.retype_eq]

end

mutual

/-- The parameters of the composites of an expression. -/
def Expr.params : Expr → List String
  | .literal _ _ _ => []
  | .composite _ param operands => param.toList ++ paramsAll operands

/-- The parameters of the composites of expressions. -/
def paramsAll : List Expr → List String
  | [] => []
  | e :: es => e.params ++ paramsAll es

end

mutual

/-- The parameters of an expression stand in the lexemes that derive it. -/
theorem Derives.exists_symbol {ls : List Lexeme} {e : Expr} (h : Derives ls e) {key : String}
    (hkey : key ∈ e.params) : ∃ name, .symbol name (some key) ∈ ls := by
  cases h with
  | literal name param text => simp [Expr.params] at hkey
  | composite name param inner nonempty =>
    rcases List.mem_append.1 hkey with hkey | hkey
    · obtain rfl := Option.mem_toList.1 hkey
      exact ⟨name, List.mem_cons_self⟩
    · obtain ⟨name', hmem⟩ := inner.exists_symbol hkey
      exact ⟨name', List.mem_cons_of_mem _ hmem⟩

theorem DerivesAll.exists_symbol {ls : List Lexeme} {es : List Expr} (h : DerivesAll ls es)
    {key : String} (hkey : key ∈ paramsAll es) : ∃ name, .symbol name (some key) ∈ ls := by
  cases h with
  | done => simp [paramsAll] at hkey
  | bareLiteral operand behind =>
    rcases List.mem_append.1 hkey with hkey | hkey
    · simp [Expr.params] at hkey
    · obtain ⟨name, hmem⟩ := behind.exists_symbol hkey
      exact ⟨name, List.mem_append_right _ hmem⟩
  | bareComposite operand =>
    rcases List.mem_append.1 hkey with hkey | hkey
    · exact operand.exists_symbol hkey
    · simp [paramsAll] at hkey
  | group operand behind =>
    rcases List.mem_append.1 hkey with hkey | hkey
    · obtain ⟨name, hmem⟩ := operand.exists_symbol hkey
      exact ⟨name, List.mem_cons_of_mem _ (List.mem_append_left _ hmem)⟩
    · obtain ⟨name, hmem⟩ := behind.exists_symbol hkey
      exact ⟨name, List.mem_cons_of_mem _
        (List.mem_append_right _ (List.mem_cons_of_mem _ hmem))⟩

end

mutual

/-- The keys of a tree are parameters of the expression that stands for it. -/
theorem Denotes.mem_params {extractor : Option Extractor} {context : ValueType} {e : Expr}
    {t : Tree} (h : Denotes extractor context e t) {key : String} {source : Extractor}
    (hmem : (key, source) ∈ t.lookUps) : key ∈ e.params := by
  cases h with
  | literal l made => simp [Tree.lookUps] at hmem
  | composite made inner admitted fed =>
    rcases Tree.mem_lookUps_branch_iff.1 hmem with heq | hmem
    · subst heq
      obtain ⟨-, rfl, -⟩ := Makes.metadata_iff.1 made
      exact List.mem_append_left _ (Option.mem_toList.2 rfl)
    · exact List.mem_append_right _ (inner.mem_params hmem)

theorem DenotesAll.mem_params {extractor : Option Extractor} {context : ValueType}
    {es : List Expr} {ts : List Tree} (h : DenotesAll extractor context es ts) {key : String}
    {source : Extractor} (hmem : (key, source) ∈ lookUpsAll ts) : key ∈ paramsAll es := by
  cases h with
  | nil => simp [lookUpsAll] at hmem
  | cons head tail =>
    rcases List.mem_append.1 hmem with hmem | hmem
    · exact List.mem_append_left _ (head.mem_params hmem)
    · exact List.mem_append_right _ (tail.mem_params hmem)

end

/-- A tree that was compiled has the types of its contexts, and its look-ups
can be written. -/
theorem retype_eq_and_writable {extractor : Option Extractor} {candidates : ValueType}
    {text : String} {t : Tree} (h : compileText extractor candidates text = .ok t) :
    t.retype candidates = t ∧ t.Writable extractor := by
  obtain ⟨tokens, htokenize, htokens⟩ := compileText_eq_ok_iff.1 h
  obtain ⟨e, hder, hd, -⟩ := compileTokens_eq_ok_iff.1 htokens
  refine ⟨hd.retype_eq, fun key source hmem => ⟨hd.source_eq hmem, ?_⟩⟩
  obtain ⟨name, hsymbol⟩ := hder.exists_symbol (hd.mem_params hmem)
  obtain ⟨token, htoken, hlexeme⟩ := List.mem_map.1 hsymbol
  have hspellable := Token.isSpellable_of_scan htokenize token htoken
  rwa [hlexeme] at hspellable

/-! ## The round trip -/

theorem Node.render_eq_of_tree? {n : Node} {t : Tree} (h : n.tree? = some t) :
    n.render = t.render := by
  cases n with
  | fresh shape => simp [Node.tree?] at h
  | literal l =>
    obtain rfl := Option.some.inj h
    rfl
  | parent c ids children =>
    obtain rfl := Option.some.inj h
    rfl

/-- Rendering and compiling are inverse.  The text of a complete node of a
builder, all look-ups of which have one extractor and keys that can be
written, compiles in every context that the node accepts to the same tree with
the connectives typed by their contexts, which is rendered as the same text.
A tree that was compiled comes back as it is. -/
theorem render_compile_inverse :
    (∀ (actions : List Builder.Action) (id : Nat) (n : Node) (t : Tree),
      (Builder.run actions).node? id = some n → n.tree? = some t →
      ∀ (extractor : Option Extractor) (candidates : ValueType),
        (∀ key source, (key, source) ∈ t.lookUps →
          source = lookUpSource extractor ∧ IsSpellable key) →
        n.shape.accepts (some candidates) = true →
          compileText extractor candidates n.render = .ok (t.retype candidates) ∧
            (t.retype candidates).render = n.render) ∧
    (∀ (extractor : Option Extractor) (candidates : ValueType) (text : String) (t : Tree),
      compileText extractor candidates text = .ok t →
        compileText extractor candidates t.render = .ok t) := by
  constructor
  · intro actions id n t hn ht extractor candidates hwritable haccepts
    have hsound : (Builder.run actions).Sound fun _ => True :=
      Builder.sound_run fun _ _ => trivial
    rw [Node.shape_eq_of_tree? ht] at haccepts
    rw [Node.render_eq_of_tree? ht]
    exact ⟨(hsound.wellFormed id n t hn ht).compileText_render hwritable haccepts,
      t.render_retype candidates⟩
  · intro extractor candidates text t h
    obtain ⟨hwf, haccepts⟩ := wellFormed_of_compileText h
    obtain ⟨hretype, hwritable⟩ := retype_eq_and_writable h
    have hrender := hwf.compileText_render hwritable haccepts
    rwa [hretype] at hrender

/-- A negation of a test whose literal holds a double quote, from a builder and
from a text with parentheses that are not needed. -/
theorem render_compile_inverse_negation :
    (∃ n t, (Builder.run [.create "contain" .text none none, .setLiteral 0 (.text "a\"b"),
        .construct "not" .text "" none, .setChildren 1 [.node 0]]).node? 1 = some n ∧
      n.tree? = some t ∧ n.shape.accepts (some .text) = true ∧
        compileText none .text n.render = .ok (t.retype .text)) ∧
    (∃ t, compileText none .text "not (contain \"a\\\"b\")" = .ok t ∧
      compileText none .text t.render = .ok t) := by
  let l : LiteralTest := ⟨.contain, "a\"b", none, rfl⟩
  constructor
  · let n : Node := .parent (.connective .not .text) [0] [.leaf l]
    refine ⟨n, .branch (.connective .not .text) [.leaf l], rfl, rfl, rfl, ?_⟩
    exact (render_compile_inverse.1 [.create "contain" .text none none,
      .setLiteral 0 (.text "a\"b"), .construct "not" .text "" none, .setChildren 1 [.node 0]]
      1 n _ rfl rfl none .text (by simp [Tree.lookUps, lookUpsAll]) rfl).1
  · have hcompile : compileText none .text "not (contain \"a\\\"b\")" =
        .ok (.branch (.connective .not .text) [.leaf l]) :=
      compileText_eq_ok_iff.2 ⟨[⟨.symbol "not" none, 0⟩, ⟨.lparen, 4⟩, ⟨.symbol "contain" none, 5⟩,
        ⟨.literal "a\"b", 13⟩, ⟨.rparen, 19⟩], by decide +kernel, by with_unfolding_all rfl⟩
    exact ⟨_, hcompile, render_compile_inverse.2 none .text _ _ hcompile⟩

end ImageSelect.Filter
