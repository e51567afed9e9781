import ImageSelect.Filter.Builder
import ImageSelect.Proofs.Filter.Typing

/-!
# What builders come to hold

`Builder.Sound` is the invariant of a builder.  Every predicate is one that
can be made, the tree of each complete node is well-formed, and it is the tree
that the numbers of its children lead to.

* One statement for each operation on a node: when it succeeds, and what it
  gives then.
* `Builder.Step` lists what an action can do.  It completes a node that was
  fresh, adds one, or changes nothing.
* `Builder.Sound.step` says that every step keeps the invariant, and
  `Builder.sound_run` that every row of actions does.  No complete node ever
  changes (`Builder.Extends`), so trees that are spelled out before a step are
  spelled out in the same way after it.
-/

namespace ImageSelect.Filter

/-! ## Nodes -/

theorem Node.shape_eq_of_tree? {n : Node} {t : Tree} (h : n.tree? = some t) :
    n.shape = t.shape := by
  cases n with
  | fresh shape => simp [Node.tree?] at h
  | literal l =>
    obtain rfl := Option.some.inj h
    rfl
  | parent c ids children =>
    obtain rfl := Option.some.inj h
    rfl

theorem Node.setLiteral_eq_ok_iff {n n' : Node} {v : Value} :
    n.setLiteral v = .ok n' ↔
      ∃ l : LiteralTest, n = .fresh (.test l.test) ∧ v = .text l.literal ∧ n' = .literal l := by
  constructor
  · intro h
    unfold Node.setLiteral at h
    split at h
    · rename_i t s
      obtain ⟨l, hl, rfl⟩ := Except.map_eq_ok_iff.1 h
      obtain ⟨rfl, rfl⟩ := TextTest.attach_eq_ok_iff.1 hl
      exact ⟨l, rfl, rfl, rfl⟩
    all_goals simp at h
  · intro h
    obtain ⟨l, rfl, rfl, rfl⟩ := h
    exact Except.map_eq_ok_iff.2 ⟨l, TextTest.attach_eq_ok_iff.2 ⟨rfl, rfl⟩, rfl⟩

theorem Node.setChildren_eq_ok_iff {n n' : Node} {ids : List Nat} {parts : List Part} :
    n.setChildren ids parts = .ok n' ↔
      ∃ c children, n = .fresh (.composite c) ∧ parts = children.map .complete ∧
        c.admits children.length = true ∧ c.Feeds children ∧ n' = .parent c ids children := by
  constructor
  · intro h
    unfold Node.setChildren at h
    split at h
    · rename_i c
      obtain ⟨t, ht, rfl⟩ := Except.map_eq_ok_iff.1 h
      obtain ⟨children, hparts, hadmits, hfeeds, rfl⟩ := Composite.attach_eq_ok_iff.1 ht
      exact ⟨c, children, rfl, hparts, hadmits, hfeeds, rfl⟩
    all_goals simp at h
  · intro h
    obtain ⟨c, children, rfl, hparts, hadmits, hfeeds, rfl⟩ := h
    exact Except.map_eq_ok_iff.2
      ⟨_, Composite.attach_eq_ok_iff.2 ⟨children, hparts, hadmits, hfeeds, rfl⟩, rfl⟩

/-! ## Builders -/

namespace Builder

mutual

/-- The tree that the node of a number leads to, through the numbers of its
children, if all nodes on the way are complete. -/
inductive Spells (b : Builder) : Nat → Tree → Prop where
  | leaf {id : Nat} {l : LiteralTest} (found : b.node? id = some (.literal l)) :
      Spells b id (.leaf l)
  | branch {id : Nat} {c : Composite} {ids : List Nat} {held children : List Tree}
      (found : b.node? id = some (.parent c ids held)) (below : SpellsAll b ids children) :
      Spells b id (.branch c children)

/-- The trees that the nodes of some numbers lead to. -/
inductive SpellsAll (b : Builder) : List Nat → List Tree → Prop where
  | nil : SpellsAll b [] []
  | cons {id : Nat} {t : Tree} {ids : List Nat} {ts : List Tree} (head : Spells b id t)
      (tail : SpellsAll b ids ts) : SpellsAll b (id :: ids) (t :: ts)

end

/-- Every complete node stays what it is. -/
def Extends (b b' : Builder) : Prop :=
  ∀ id n, b.node? id = some n → n.isSealed = true → b'.node? id = some n

mutual

theorem Spells.mono {b b' : Builder} (hext : b.Extends b') {id : Nat} {t : Tree}
    (h : b.Spells id t) : b'.Spells id t := by
  cases h with
  | leaf found => exact .leaf (hext _ _ found rfl)
  | branch found below => exact .branch (hext _ _ found rfl) (below.mono hext)

theorem SpellsAll.mono {b b' : Builder} (hext : b.Extends b') {ids : List Nat} {ts : List Tree}
    (h : b.SpellsAll ids ts) : b'.SpellsAll ids ts := by
  cases h with
  | nil => exact .nil
  | cons head tail => exact .cons (head.mono hext) (tail.mono hext)

end

/-- The extractor that an action hands over. -/
def Action.extractor? : Action → Option Extractor
  | .create _ _ _ extractor => extractor
  | .construct _ _ _ extractor => extractor
  | _ => none

/-- What holds of a builder at all times: every predicate is one that can be
made, every look-up has one of the given extractors, and every complete node
holds a well-formed tree, which is the one that it leads to. -/
structure Sound (given : Extractor → Prop) (b : Builder) : Prop where
  known : ∀ id n, b.node? id = some n → n.shape.IsKnown
  supplied : ∀ id n source, b.node? id = some n → n.shape.source? = some source → given source
  wellFormed : ∀ id n t, b.node? id = some n → n.tree? = some t → t.WellFormed
  spells : ∀ id n t, b.node? id = some n → n.tree? = some t → b.Spells id t

/-! ### What an action can do -/

/-- The builder with another node under a number that it has. -/
def put (b : Builder) (id : Nat) (n : Node) : Builder :=
  ⟨b.nodes.setIfInBounds id n⟩

theorem node?_put {b : Builder} {id : Nat} {old : Node} (h : b.node? id = some old) (n : Node)
    (id' : Nat) : (b.put id n).node? id' = if id = id' then some n else b.node? id' := by
  have hlt : id < b.nodes.size := by
    unfold node? at h
    exact (Array.getElem?_eq_some_iff.1 h).1
  unfold node? put
  simp [Array.getElem?_setIfInBounds, hlt]

theorem node?_add (b : Builder) (shape : Shape) (id : Nat) :
    (b.add shape).1.node? id =
      if id = b.nodes.size then some (.fresh shape) else b.node? id := by
  unfold node? add
  simp [Array.getElem?_push]

theorem node?_add_new (b : Builder) (shape : Shape) :
    (b.add shape).1.node? b.nodes.size = some (.fresh shape) := by
  rw [node?_add, if_pos rfl]

/-- A child that is a complete part is a complete node with a number. -/
theorem part_eq_complete_iff {b : Builder} {child : Child} {t : Tree} :
    b.part child = .complete t ↔
      ∃ id n, child = .node id ∧ b.node? id = some n ∧ n.tree? = some t := by
  cases child with
  | value v => simp [part]
  | node id =>
    cases hn : b.node? id with
    | none => simp [part, hn]
    | some n => cases ht : n.tree? <;> simp [part, hn, Node.part, ht]

/-- The nodes of some numbers are complete and hold some trees. -/
def Hold (b : Builder) (ids : List Nat) (ts : List Tree) : Prop :=
  List.Forall₂ (fun id t => ∃ n, b.node? id = some n ∧ n.tree? = some t) ids ts

/-- Children that are complete parts are complete nodes with numbers. -/
theorem hold_of_parts {b : Builder} {children : List Child} {ts : List Tree}
    (h : children.map b.part = ts.map .complete) : b.Hold (children.filterMap Child.id?) ts := by
  induction children generalizing ts with
  | nil =>
    obtain rfl : ts = [] := List.map_eq_nil_iff.1 h.symm
    exact .nil
  | cons child children ih =>
    obtain ⟨t, ts, rfl, ht, hts⟩ := List.map_eq_cons_iff.1 h.symm
    obtain ⟨id, n, rfl, hn, hnt⟩ := part_eq_complete_iff.1 ht.symm
    exact .cons ⟨n, hn, hnt⟩ (ih hts.symm)

/-- What an action that hands over an extractor can do to a builder. -/
inductive Step (extractor : Option Extractor) (b : Builder) : Builder → Prop where
  | idle : Step extractor b b
  | made (shape : Shape) (known : shape.IsKnown)
      (supplied : ∀ source, shape.source? = some source → source = lookUpSource extractor) :
      Step extractor b (b.add shape).1
  | literal {id : Nat} {l : LiteralTest} (fresh : b.node? id = some (.fresh (.test l.test))) :
      Step extractor b (b.put id (.literal l))
  | parent {id : Nat} {c : Composite} {ids : List Nat} {children : List Tree}
      (fresh : b.node? id = some (.fresh (.composite c)))
      (admitted : c.admits children.length = true) (fed : c.Feeds children)
      (held : b.Hold ids children) : Step extractor b (b.put id (.parent c ids children))

section
variable {extractor : Option Extractor} {b b' : Builder}

theorem step_of_addMade {symbol : String} {make : Meaning → Except PredicateError Shape}
    (hknown : ∀ m shape, m.IsKnown → make m = .ok shape → shape.IsKnown)
    (hsource : ∀ m shape, make m = .ok shape →
      ∀ source, shape.source? = some source → source = lookUpSource extractor)
    (h : b.addMade symbol make = .ok b') : b.Step extractor b' := by
  unfold addMade at h
  split at h
  · simp at h
  · rename_i m hm
    split at h
    · rename_i shape hshape
      obtain rfl := Except.ok.inj h
      exact .made shape (hknown m shape (Meaning.isKnown_of_ofSymbol? hm) hshape)
        (hsource m shape hshape)
    · simp at h

theorem step_of_setLiteral {id : Nat} {v : Value} (h : b.setLiteral id v = .ok b') :
    b.Step extractor b' := by
  unfold setLiteral at h
  split at h
  · obtain rfl := Except.ok.inj h
    exact .idle
  · rename_i n hn
    obtain ⟨n', hn', rfl⟩ := Except.map_eq_ok_iff.1 h
    obtain ⟨l, rfl, -, rfl⟩ := Node.setLiteral_eq_ok_iff.1 hn'
    exact .literal hn

theorem step_of_setChildren {id : Nat} {children : List Child}
    (h : b.setChildren id children = .ok b') : b.Step extractor b' := by
  unfold setChildren at h
  split at h
  · obtain rfl := Except.ok.inj h
    exact .idle
  · rename_i n hn
    obtain ⟨n', hn', rfl⟩ := Except.map_eq_ok_iff.1 h
    obtain ⟨c, ts, rfl, hparts, hadmits, hfeeds, rfl⟩ := Node.setChildren_eq_ok_iff.1 hn'
    exact .parent hn hadmits hfeeds (hold_of_parts hparts)

end

/-- Every action that is not refused makes a predicate, completes a test,
completes a composite, or does nothing. -/
theorem step_of_act {b b' : Builder} {action : Action} (h : b.act action = .ok b') :
    b.Step action.extractor? b' := by
  cases action with
  | create symbol context param extractor =>
    exact step_of_addMade (fun _ _ hm => Meaning.make_isKnown hm)
      (fun _ _ hmake _ => Meaning.source_of_make hmake) h
  | construct symbol domain key extractor =>
    exact step_of_addMade (fun _ _ hm => Meaning.construct_isKnown hm)
      (fun _ _ hmake _ => Meaning.source_of_construct hmake) h
  | setLiteral id v => exact step_of_setLiteral (Except.mapError_eq_ok_iff.1 h)
  | setChildren id children => exact step_of_setChildren (Except.mapError_eq_ok_iff.1 h)

theorem step_after (b : Builder) (action : Action) :
    b.Step action.extractor? (b.after action) := by
  unfold after
  split
  · rename_i next h
    exact step_of_act h
  · exact .idle

/-! ### What every step keeps -/

theorem Extends.put {b : Builder} {id : Nat} {shape : Shape}
    (h : b.node? id = some (.fresh shape)) (n : Node) : b.Extends (b.put id n) := by
  intro id' n' hn' hsealed
  rw [node?_put h]
  split
  · rename_i heq
    subst heq
    obtain rfl := Option.some.inj (h.symm.trans hn')
    simp [Node.isSealed, Node.tree?] at hsealed
  · exact hn'

theorem extends_add (b : Builder) (shape : Shape) : b.Extends (b.add shape).1 := by
  intro id n hn hsealed
  rw [node?_add]
  split
  · rename_i heq
    subst heq
    simp [node?] at hn
  · exact hn

/-- The trees that some complete nodes hold are well-formed, and are the ones
that the nodes lead to. -/
theorem Sound.of_hold {given : Extractor → Prop} {b : Builder} (h : b.Sound given)
    {ids : List Nat} {ts : List Tree} (hold : b.Hold ids ts) :
    (∀ t ∈ ts, t.WellFormed) ∧ b.SpellsAll ids ts := by
  induction hold with
  | nil => exact ⟨by simp, .nil⟩
  | cons head _ ih =>
    obtain ⟨n, hn, ht⟩ := head
    exact ⟨List.forall_mem_cons.2 ⟨h.wellFormed _ n _ hn ht, ih.1⟩,
      .cons (h.spells _ n _ hn ht) ih.2⟩

/-- A builder stays sound when a node is completed with a tree that is
well-formed and that it leads to. -/
theorem Sound.put {given : Extractor → Prop} {b : Builder} (h : b.Sound given) {id : Nat}
    {n : Node} {t : Tree} {shape : Shape} (fresh : b.node? id = some (.fresh shape))
    (hshape : n.shape = shape) (htree : n.tree? = some t) (hwf : t.WellFormed)
    (hspells : (b.put id n).Spells id t) : (b.put id n).Sound given := by
  have hext : b.Extends (b.put id n) := .put fresh n
  -- Completing a node leaves the predicate of every node what it was.
  have hkeep : ∀ id' n', (b.put id n).node? id' = some n' →
      ∃ old, b.node? id' = some old ∧ n'.shape = old.shape := by
    intro id' n' hn'
    rw [node?_put fresh] at hn'
    split at hn'
    · rename_i heq
      subst heq
      obtain rfl := Option.some.inj hn'
      exact ⟨_, fresh, hshape⟩
    · exact ⟨n', hn', rfl⟩
  constructor
  case known =>
    intro id' n' hn'
    obtain ⟨old, hold, heq⟩ := hkeep id' n' hn'
    rw [heq]
    exact h.known id' old hold
  case supplied =>
    intro id' n' source hn' hsource
    obtain ⟨old, hold, heq⟩ := hkeep id' n' hn'
    rw [heq] at hsource
    exact h.supplied id' old source hold hsource
  case wellFormed =>
    intro id' n' t' hn' ht'
    rw [node?_put fresh] at hn'
    split at hn'
    · obtain rfl := Option.some.inj hn'
      obtain rfl := Option.some.inj (htree.symm.trans ht')
      exact hwf
    · exact h.wellFormed id' n' t' hn' ht'
  case spells =>
    intro id' n' t' hn' ht'
    rw [node?_put fresh] at hn'
    split at hn'
    · rename_i heq
      subst heq
      obtain rfl := Option.some.inj hn'
      obtain rfl := Option.some.inj (htree.symm.trans ht')
      exact hspells
    · exact (h.spells id' n' t' hn' ht').mono hext

/-- A builder stays sound when a predicate is made. -/
theorem Sound.add {given : Extractor → Prop} {b : Builder} (h : b.Sound given) {shape : Shape}
    (known : shape.IsKnown) (supplied : ∀ source, shape.source? = some source → given source) :
    (b.add shape).1.Sound given := by
  constructor
  case known =>
    intro id n hn
    rw [node?_add] at hn
    split at hn
    · obtain rfl := Option.some.inj hn
      exact known
    · exact h.known id n hn
  case supplied =>
    intro id n source hn hsource
    rw [node?_add] at hn
    split at hn
    · obtain rfl := Option.some.inj hn
      exact supplied source hsource
    · exact h.supplied id n source hn hsource
  case wellFormed =>
    intro id n t hn ht
    rw [node?_add] at hn
    split at hn
    · obtain rfl := Option.some.inj hn
      simp [Node.tree?] at ht
    · exact h.wellFormed id n t hn ht
  case spells =>
    intro id n t hn ht
    rw [node?_add] at hn
    split at hn
    · obtain rfl := Option.some.inj hn
      simp [Node.tree?] at ht
    · exact (h.spells id n t hn ht).mono (extends_add b shape)

theorem Sound.step {given : Extractor → Prop} {extractor : Option Extractor} {b b' : Builder}
    (h : b.Sound given) (hstep : b.Step extractor b') (hgiven : given (lookUpSource extractor)) :
    b'.Sound given := by
  cases hstep with
  | idle => exact h
  | made shape known supplied =>
    refine h.add known fun source hsource => ?_
    rw [supplied source hsource]
    exact hgiven
  | @literal id l fresh =>
    refine h.put fresh rfl rfl (.leaf (h.known _ _ fresh)) (.leaf ?_)
    rw [node?_put fresh, if_pos rfl]
  | @parent id c ids children fresh admitted fed held =>
    obtain ⟨hwf, hspells⟩ := h.of_hold held
    have found : (b.put id (.parent c ids children)).node? id =
        some (.parent c ids children) := by
      rw [node?_put fresh, if_pos rfl]
    exact h.put fresh rfl rfl (.branch (h.known _ _ fresh) admitted fed hwf)
      (.branch found (hspells.mono (.put fresh _)))

theorem sound_empty (given : Extractor → Prop) : Sound given {} := by
  constructor <;> simp [node?]

/-- Whatever is done with a builder, it is sound. -/
theorem sound_run {given : Extractor → Prop} {actions : List Action}
    (hgiven : ∀ action ∈ actions, given (lookUpSource action.extractor?)) :
    (run actions).Sound given := by
  have hfold : ∀ (actions : List Action) (b : Builder),
      (∀ action ∈ actions, given (lookUpSource action.extractor?)) → b.Sound given →
        (actions.foldl after b).Sound given := by
    intro actions
    induction actions with
    | nil => exact fun b _ h => h
    | cons action actions ih =>
      intro b hgiven h
      obtain ⟨hfirst, hrest⟩ := List.forall_mem_cons.1 hgiven
      exact ih _ hrest (h.step (step_after b action) hfirst)
  exact hfold actions {} hgiven (sound_empty given)

/-! ### Look-ups -/

mutual

/-- The look-ups of the tree that a node leads to have extractors of nodes. -/
theorem Spells.supplied {given : Extractor → Prop} {b : Builder} (h : b.Sound given) {id : Nat}
    {t : Tree} (hspells : b.Spells id t) {key : String} {source : Extractor}
    (hmem : (key, source) ∈ t.lookUps) : given source := by
  cases hspells with
  | leaf found => simp [Tree.lookUps] at hmem
  | @branch _ c _ _ _ found below =>
    rcases Tree.mem_lookUps_branch_iff.1 hmem with heq | hmem
    · subst heq
      exact h.supplied _ _ _ found rfl
    · exact below.supplied h hmem

theorem SpellsAll.supplied {given : Extractor → Prop} {b : Builder} (h : b.Sound given)
    {ids : List Nat} {ts : List Tree} (hspells : b.SpellsAll ids ts) {key : String}
    {source : Extractor} (hmem : (key, source) ∈ lookUpsAll ts) : given source := by
  cases hspells with
  | nil => simp [lookUpsAll] at hmem
  | cons head tail =>
    rcases List.mem_append.1 hmem with hmem | hmem
    · exact head.supplied h hmem
    · exact tail.supplied h hmem

end

end Builder

end ImageSelect.Filter
