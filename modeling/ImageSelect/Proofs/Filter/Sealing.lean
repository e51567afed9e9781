import ImageSelect.Proofs.Filter.Memory
import ImageSelect.Proofs.Filter.Unfolding

/-!
# What sealed predicates keep

A composite takes only children that are sealed already, so references go from what
was sealed later to what was sealed before.  This order carries all that holds of the
predicates of a memory whatever has been done with it.

* `Builder.Shallow` bounds the height of trees by the number of sealed nodes.  Every
  step keeps it: what is sealed is at most one higher than what was sealed before.
* `Memory.performAll_memory` reads any operations on a memory as building, so that
  `Builder.Sound` and `Builder.Shallow` hold of all that can be reached.
* `Memory.Whole` lists what a predicate can be.
-/

namespace ImageSelect.Filter

/-! ## Builders -/

namespace Builder

mutual

/-- The tree that a builder's node leads to is what its memory unfolds to. -/
theorem Spells.unfolds {b : Builder} {id : Nat} {t : Tree} (h : b.Spells id t) :
    b.memory.Unfolds id t := by
  cases h with
  | leaf found => exact .leaf (by rw [cell?_memory, found]; rfl)
  | branch found below => exact .branch (by rw [cell?_memory, found]; rfl) below.unfolds

theorem SpellsAll.unfolds {b : Builder} {ids : List Nat} {ts : List Tree}
    (h : b.SpellsAll ids ts) : b.memory.UnfoldsAll ids ts := by
  cases h with
  | nil => exact .nil
  | cons head tail => exact .cons head.unfolds tail.unfolds

end

/-- The number of complete nodes. -/
def sealedCount (b : Builder) : Nat :=
  b.nodes.countP Node.isSealed

/-- No tree is higher than there are complete nodes. -/
def Shallow (b : Builder) : Prop :=
  ∀ id n t, b.node? id = some n → n.tree? = some t → t.height ≤ b.sealedCount

theorem sealedCount_put {b : Builder} {id : Nat} {shape : Shape} {n : Node}
    (fresh : b.node? id = some (.fresh shape)) (hn : n.isSealed = true) :
    (b.put id n).sealedCount = b.sealedCount + 1 := by
  obtain ⟨hlt, hold⟩ := Array.getElem?_eq_some_iff.1 fresh
  unfold sealedCount put
  dsimp only
  rw [Array.setIfInBounds_def, dif_pos hlt, Array.countP_set, hold, if_pos hn]
  simp [Node.isSealed, Node.tree?]

theorem sealedCount_add (b : Builder) (shape : Shape) :
    (b.add shape).1.sealedCount = b.sealedCount := by
  unfold sealedCount add
  rw [Array.countP_push]
  simp [Node.isSealed, Node.tree?]

/-- Completing a node adds a complete node, and a tree that is at most one higher
than all before. -/
theorem Shallow.put {b : Builder} (h : b.Shallow) {id : Nat} {shape : Shape} {n : Node} {t : Tree}
    (fresh : b.node? id = some (.fresh shape)) (htree : n.tree? = some t)
    (hheight : t.height ≤ b.sealedCount + 1) : (b.put id n).Shallow := by
  have hcount : (b.put id n).sealedCount = b.sealedCount + 1 :=
    sealedCount_put fresh (by rw [Node.isSealed, htree]; rfl)
  intro id' n' t' hn' ht'
  rw [hcount]
  rw [node?_put fresh] at hn'
  split at hn'
  · obtain rfl := Option.some.inj hn'
    obtain rfl := Option.some.inj (htree.symm.trans ht')
    exact hheight
  · exact Nat.le_succ_of_le (h id' n' t' hn' ht')

theorem Hold.exists_of_mem {b : Builder} {ids : List Nat} {ts : List Tree} (h : b.Hold ids ts)
    {t : Tree} (ht : t ∈ ts) : ∃ id n, b.node? id = some n ∧ n.tree? = some t := by
  induction h with
  | nil => simp at ht
  | cons head _ ih =>
    rcases List.mem_cons.1 ht with rfl | ht
    · exact ⟨_, head⟩
    · exact ih ht

theorem Shallow.step {extractor : Option Extractor} {b b' : Builder} (h : b.Shallow)
    (hstep : b.Step extractor b') : b'.Shallow := by
  cases hstep with
  | idle => exact h
  | made shape known supplied =>
    intro id n t hn ht
    rw [sealedCount_add]
    rw [node?_add] at hn
    split at hn
    · obtain rfl := Option.some.inj hn
      simp [Node.tree?] at ht
    · exact h id n t hn ht
  | literal fresh => exact h.put fresh rfl (Nat.succ_le_succ (Nat.zero_le _))
  | @parent id c ids children fresh admitted fed held =>
    refine h.put fresh rfl (Nat.succ_le_succ (heightAll_le_iff.2 fun t ht => ?_))
    obtain ⟨id', n, hn, htree⟩ := held.exists_of_mem ht
    exact h id' n t hn htree

theorem shallow_run (actions : List Action) : (run actions).Shallow :=
  List.foldlRecOn actions after (by simp [Shallow, node?]) fun b h action _ =>
    h.step (step_after b action)

theorem Step.extends {extractor : Option Extractor} {b b' : Builder}
    (h : b.Step extractor b') : b.Extends b' := by
  cases h with
  | idle => exact fun _ _ hn _ => hn
  | made shape _ _ => exact extends_add b shape
  | literal fresh => exact .put fresh _
  | parent fresh _ _ _ => exact .put fresh _

/-- No complete node changes in a row of actions. -/
theorem extends_foldl (actions : List Action) (b : Builder) :
    b.Extends (actions.foldl after b) := by
  refine List.foldlRecOn actions after (motive := b.Extends) (fun _ _ hn _ => hn) ?_
  exact fun b' h action _ id n hn hsealed =>
    (step_after b' action).extends id n (h id n hn hsealed) hsealed

end Builder

/-! ## Operations -/

namespace Memory

/-- The building that is done in a row of operations. -/
def actionsOf (operations : List Operation) : List Builder.Action :=
  operations.filterMap fun
    | .build action => some action
    | .eval _ _ => none

section

variable [CurrentDirectory]

/-- Building in memory does what the builder does, and nothing if it is refused. -/
theorem perform_build (depth : Nat) (b : Builder) (action : Builder.Action) (s : Session) :
    (b.memory.perform depth (.build action)).run s =
      ((((b.act action).map fun _ => none).mapError .refused, (b.after action).memory), s) := by
  have hbuild := Steps.follows_build (b := b) action
  unfold Steps.Follows at hbuild
  unfold perform Builder.after
  dsimp only
  rw [hbuild]
  cases b.act action <;> rfl

/-- An operation that breaks off leaves a builder's memory as it was. -/
theorem memory_of_perform_error {depth : Nat} {b : Builder} {operation : Operation} {s : Session}
    {why : OperationError}
    (h : ((b.memory.perform depth operation).run s).1.1 = .error why) :
    ((b.memory.perform depth operation).run s).1.2 = b.memory := by
  cases operation with
  | eval id v => rfl
  | build action =>
    rw [perform_build] at h ⊢
    obtain ⟨why', hmap, -⟩ := Except.mapError_eq_error_iff.1 h
    unfold Builder.after
    rw [Except.map_eq_error_iff.1 hmap]

/-- A row of operations on a builder's memory does what the builder does. -/
theorem performAll_memory (depth : Nat) (operations : List Operation) :
    ∀ (b : Builder) (s : Session), ∃ s', (performAll depth b.memory operations).run s =
      (((actionsOf operations).foldl Builder.after b).memory, s') := by
  induction operations with
  | nil => exact fun b s => ⟨s, rfl⟩
  | cons operation operations ih =>
    intro b s
    cases operation with
    | build action =>
      obtain ⟨s', hrest⟩ := ih (b.after action) s
      refine ⟨s', ?_⟩
      rw [performAll, StateT.run_bind, perform_build]
      exact hrest
    | eval id v =>
      obtain ⟨s', hrest⟩ := ih b ((b.memory.evalAt depth id v).run.run s).2
      exact ⟨s', hrest⟩

end

/-! ## What holds at all times -/

/-- What a predicate can be: it has neither a literal nor children, or it is a test
with a literal and the pattern of it, or a composite with as many children as it
may have, all complete and consuming what it supplies. -/
inductive Whole (m : Memory) : Cell → Prop where
  | unsealed (shape : Shape) : Whole m { shape }
  | test {t : TextTest} {literal : String} {pattern? : Option Regex.Pattern}
      (prepared : t.prepare literal = .ok pattern?) :
      Whole m { shape := .test t, literal? := some literal, pattern? }
  | composite {c : Composite} {ids : List Nat} (admitted : c.admits ids.length = true)
      (below : ∀ id ∈ ids, ∃ cell, m.cell? id = some cell ∧ cell.isSealed = true ∧
        cell.shape.accepts (some c.output) = true) :
      Whole m { shape := .composite c, children? := some ids }

theorem Unfolds.exists_cell {m : Memory} {id : Nat} {t : Tree} (h : m.Unfolds id t) :
    ∃ cell, m.cell? id = some cell ∧ cell.isSealed = true ∧ cell.shape = t.shape := by
  cases h with
  | leaf found => exact ⟨_, found, rfl, rfl⟩
  | branch found below => exact ⟨_, found, rfl, rfl⟩

section
variable {b : Builder} {id : Nat} {cell : Cell}

theorem whole_of_sound (h : b.Sound fun _ => True) (hcell : b.memory.cell? id = some cell) :
    b.memory.Whole cell := by
  rw [Builder.cell?_memory] at hcell
  obtain ⟨n, hn, rfl⟩ := Option.map_eq_some_iff.1 hcell
  cases n with
  | fresh shape => exact .unsealed shape
  | literal l => exact .test l.prepared
  | parent c ids children =>
    obtain ⟨hadmitted, hfed⟩ : c.admits children.length = true ∧ c.Feeds children := by
      cases h.wellFormed id _ _ hn rfl with
      | branch _ admitted fed _ => exact ⟨admitted, fed⟩
    have hbelow : b.memory.UnfoldsAll ids children := by
      cases h.spells id _ _ hn rfl with
      | branch found below =>
        obtain ⟨-, rfl, -⟩ := Node.parent.inj (Option.some.inj (hn.symm.trans found))
        exact below.unfolds
    refine .composite (by rwa [hbelow.length_eq]) fun child hchild => ?_
    obtain ⟨t, ht, hunfolds⟩ := hbelow.exists_of_mem hchild
    obtain ⟨cell, hcell, hsealed, hshape⟩ := hunfolds.exists_cell
    exact ⟨cell, hcell, hsealed, hshape ▸ hfed t ht⟩

/-- A complete node unfolds to its tree, which is no higher than there are
predicates. -/
theorem unfolds_of_tree? (h : b.Sound fun _ => True) (hshallow : b.Shallow) {n : Node} {t : Tree}
    (hn : b.node? id = some n) (ht : n.tree? = some t) :
    b.memory.Unfolds id t ∧ t.height ≤ b.memory.cells.size := by
  rw [Builder.size_memory]
  exact ⟨(h.spells id n t hn ht).unfolds, (hshallow id n t hn ht).trans Array.countP_le_size⟩

theorem unfolds_of_sealed (h : b.Sound fun _ => True) (hshallow : b.Shallow)
    (hcell : b.memory.cell? id = some cell) (hsealed : cell.isSealed = true) :
    ∃ t, b.memory.Unfolds id t ∧ t.height ≤ b.memory.cells.size := by
  rw [Builder.cell?_memory] at hcell
  obtain ⟨n, hn, rfl⟩ := Option.map_eq_some_iff.1 hcell
  rw [Node.isSealed_cell] at hsealed
  obtain ⟨t, ht⟩ := Option.isSome_iff_exists.1 hsealed
  exact ⟨t, unfolds_of_tree? h hshallow hn ht⟩

/-- What refers to another predicate is complete. -/
theorem unfolds_of_refers {child : Nat} (h : b.Sound fun _ => True) (hshallow : b.Shallow)
    (href : b.memory.Refers id child) :
    ∃ t, b.memory.Unfolds id t ∧ t.height ≤ b.memory.cells.size := by
  obtain ⟨cell, ids, hcell, hids, -⟩ := href
  refine unfolds_of_sealed h hshallow hcell ?_
  cases whole_of_sound h hcell with
  | unsealed shape => simp at hids
  | test prepared => simp at hids
  | composite admitted below => rfl

/-- A predicate that is not complete breaks off. -/
theorem evalAt_unsealed [CurrentDirectory] {m : Memory} (hcell : m.cell? id = some cell)
    (hsealed : cell.isSealed = false) (depth : Nat) (v : Value) :
    m.evalAt (depth + 1) id v = throw (.eval (.misuse (.incomplete cell.shape.symbol))) := by
  rw [evalAt, hcell]
  obtain ⟨shape, literal?, pattern?, children?⟩ := cell
  cases shape with
  | test t =>
    obtain rfl : literal? = none := by simpa [Cell.isSealed] using hsealed
    rfl
  | composite c =>
    obtain rfl : children? = none := by simpa [Cell.isSealed] using hsealed
    rfl

end

/-- What is reached by any operations from an empty memory.  Every predicate is
unsealed, or sealed with a literal or with children that are sealed and consume
what it supplies.  Sealed ones never change, none refers to itself, and all unfold
to finite trees: asking one answers as its tree does and is never cut off, once calls
may be nested as deep as there are predicates.  Unsealed ones refuse to answer.  An
operation that breaks off leaves the memory as it was. -/
theorem reachable_memory [CurrentDirectory] (depth : Nat) (operations : List Operation)
    (s : Session) :
    let (m, s₁) := (performAll depth {} operations).run s
    (∀ id cell, m.cell? id = some cell → m.Whole cell) ∧
    (∀ more id cell, m.cell? id = some cell → cell.isSealed = true →
      ((performAll depth m more).run s₁).1.cell? id = some cell) ∧
    (∀ id, ¬Relation.TransGen m.Refers id id) ∧
    (∀ id cell, m.cell? id = some cell → cell.isSealed = true → ∃ t, m.Unfolds id t ∧
      ∀ deep v, m.cells.size ≤ deep → m.evalAt deep id v = .ofInquiry (t.eval v) ∧
        ∀ s, ((m.evalAt deep id v).run.run s).1 ≠ .error .tooDeep) ∧
    (∀ id cell, m.cell? id = some cell → cell.isSealed = false → ∀ deep v,
      m.evalAt (deep + 1) id v = throw (.eval (.misuse (.incomplete cell.shape.symbol)))) ∧
    (∀ operation deep why m' s₂,
      (m.perform deep operation).run s₁ = ((.error why, m'), s₂) → m' = m) := by
  obtain ⟨s₁, hrun⟩ := performAll_memory depth operations {} s
  rw [Builder.memory_empty] at hrun
  rw [hrun]
  have hsound : (Builder.run (actionsOf operations)).Sound fun _ => True :=
    Builder.sound_run fun _ _ => trivial
  have hshallow := Builder.shallow_run (actionsOf operations)
  unfold Builder.run at hsound hshallow
  generalize (actionsOf operations).foldl Builder.after {} = b at hsound hshallow
  refine ⟨fun id cell hcell => whole_of_sound hsound hcell, ?kept, ?acyclic, ?answers,
    fun id cell hcell hsealed => evalAt_unsealed hcell hsealed, ?unchanged⟩
  case kept =>
    intro more id cell hcell hsealed
    obtain ⟨s₂, hmore⟩ := performAll_memory depth more b s₁
    rw [hmore]
    rw [Builder.cell?_memory] at hcell
    obtain ⟨n, hn, rfl⟩ := Option.map_eq_some_iff.1 hcell
    rw [Node.isSealed_cell] at hsealed
    show Memory.cell? (Builder.memory _) id = _
    rw [Builder.cell?_memory, Builder.extends_foldl _ b id n hn hsealed]
    rfl
  case acyclic =>
    intro id hcycle
    obtain ⟨child, href, -⟩ := Relation.TransGen.head'_iff.1 hcycle
    obtain ⟨t, hunfolds, -⟩ := unfolds_of_refers hsound hshallow href
    exact hunfolds.acyclic hcycle
  case answers =>
    intro id cell hcell hsealed
    obtain ⟨t, hunfolds, hheight⟩ := unfolds_of_sealed hsound hshallow hcell hsealed
    refine ⟨t, hunfolds, fun deep v hdeep => ?_⟩
    have heval := hunfolds.evalAt_eq (hheight.trans hdeep) v
    refine ⟨heval, fun s => ?_⟩
    rw [heval]
    exact Question.ofInquiry_ne_tooDeep _ s
  case unchanged =>
    intro operation deep why m' s₂ hperform
    have hmemory : ((b.memory.perform deep operation).run s₁).1 = (.error why, m') :=
      congrArg Prod.fst hperform
    obtain ⟨hresult, rfl⟩ := Prod.mk.inj hmemory
    exact memory_of_perform_error hresult

/-- The statement for a negation that is handed itself as a child, which is refused,
and then a test. -/
theorem reachable_memory_negation :
    letI : CurrentDirectory := .root
    let operations : List Operation := [
      .build (.create "not" .text none none),
      .build (.create "eq" .text none none),
      .build (.setChildren 0 [.node 0]),
      .build (.setLiteral 1 (.text "x")),
      .build (.setChildren 0 [.node 1])]
    let (m, s₁) := (performAll 0 {} operations).run {}
    m.cell? 0 = some { shape := .composite (.connective .not .text), children? := some [1] } ∧
      (∀ more, ((performAll 0 m more).run s₁).1.cell? 0 = m.cell? 0) ∧
      ¬Relation.TransGen m.Refers 0 0 := by
  let _ : CurrentDirectory := .root
  intro operations
  have hcell : ((performAll 0 {} operations).run {}).1.cell? 0 =
      some { shape := .composite (.connective .not .text), children? := some [1] } := by rfl
  obtain ⟨-, hkept, hacyclic, -⟩ := reachable_memory 0 operations {}
  exact ⟨hcell, fun more => (hkept more 0 _ hcell rfl).trans hcell.symm, hacyclic 0⟩

end Memory

end ImageSelect.Filter
