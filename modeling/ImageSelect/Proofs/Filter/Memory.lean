import ImageSelect.Filter.Memory
import ImageSelect.Proofs.Filter.Builder

/-!
# Building in memory

A builder holds trees, a memory only the fields of objects.  `Builder.memory` is the
memory of a builder's nodes, and `Steps.follows_build` says that building in it step
by step does what the builder does: it is refused for the same reason, and then
nothing has been written.

* `Steps.Checks` is said of steps that only check.
* `Steps.Follows` is said of steps that do what an action does.
* One lemma for each way of building.
-/

namespace ImageSelect.Filter

/-! ## Memories of builders -/

/-- The fields of a node. -/
def Node.cell : Node → Cell
  | .fresh shape => { shape }
  | .literal l => { shape := .test l.test, literal? := some l.literal, pattern? := l.pattern }
  | .parent c ids _ => { shape := .composite c, children? := some ids }

@[simp] theorem Node.shape_cell (n : Node) : n.cell.shape = n.shape := by
  cases n <;> rfl

@[simp] theorem Node.isSealed_cell (n : Node) : n.cell.isSealed = n.isSealed := by
  cases n with
  | fresh shape => cases shape <;> rfl
  | _ => rfl

/-- The memory that holds the fields of a builder's nodes. -/
def Builder.memory (b : Builder) : Memory :=
  ⟨b.nodes.map Node.cell⟩

@[simp] theorem Builder.cell?_memory (b : Builder) (id : Nat) :
    b.memory.cell? id = (b.node? id).map Node.cell := by
  unfold memory Memory.cell? node?
  rw [Array.getElem?_map]

@[simp] theorem Builder.size_memory (b : Builder) : b.memory.cells.size = b.nodes.size :=
  Array.size_map

theorem Builder.memory_empty : ({} : Builder).memory = {} := by
  simp [memory]

namespace Memory

theorem ext_cell? {m m' : Memory} (h : ∀ id, m.cell? id = m'.cell? id) : m = m' := by
  obtain ⟨cells⟩ := m
  obtain ⟨cells'⟩ := m'
  exact congrArg Memory.mk (Array.ext_getElem? h)

theorem cell?_update (m : Memory) (id : Nat) (f : Cell → Cell) (id' : Nat) :
    (m.update id f).cell? id' = if id = id' then (m.cell? id').map f else m.cell? id' := by
  unfold update cell?
  rw [Array.getElem?_modify]

/-- Writing fields twice is writing both. -/
theorem update_update (m : Memory) (id : Nat) (f g : Cell → Cell) :
    (m.update id f).update id g = m.update id (g ∘ f) := by
  refine ext_cell? fun id' => ?_
  simp only [cell?_update]
  split
  · rw [Option.map_map]
  · rfl

end Memory

theorem Builder.memory_add (b : Builder) (shape : Shape) :
    b.memory.add { shape } = (b.add shape).1.memory := by
  unfold add memory Memory.add
  rw [Array.map_push]
  rfl

/-- Writing the fields of a node puts the node in its place. -/
theorem Builder.memory_put {b : Builder} {id : Nat} {old n : Node} (h : b.node? id = some old)
    {f : Cell → Cell} (hf : f old.cell = n.cell) : b.memory.update id f = (b.put id n).memory := by
  refine Memory.ext_cell? fun id' => ?_
  rw [cell?_memory, node?_put h, Memory.cell?_update, cell?_memory]
  by_cases heq : id = id'
  · subst heq
    rw [if_pos rfl, if_pos rfl, h]
    exact congrArg some hf
  · rw [if_neg heq, if_neg heq]

/-! ## Building -/

theorem TextTest.attach_of_prepare_error {t : TextTest} {literal : String} {why : Regex.Error}
    (h : t.prepare literal = .error why) :
    t.attach literal = .error (literalError t literal why) := by
  unfold attach
  split
  · rename_i hok
    simp [h] at hok
  · rename_i why' herror
    obtain rfl := Except.error.inj (h.symm.trans herror)
    rfl

namespace Steps

/-- Steps that only check: they come to a result and leave the memory alone. -/
def Checks (x : Steps Unit) (m : Memory) (r : Except PredicateError Unit) : Prop :=
  x.run.run m = (r.mapError .misuse, m)

/-- Checks are followed by what comes next, unless they fail. -/
theorem Checks.run_bind {x y : Steps Unit} {m : Memory} {r : Except PredicateError Unit} :
    Checks x m r →
      (x >>= fun _ => y).run.run m =
        match r with
        | .ok _ => y.run.run m
        | .error why => (.error (.misuse why), m) := by
  intro h
  rw [ExceptT.run_bind, StateT.run_bind, h]
  cases r <;> rfl

/-- One check after another. -/
theorem Checks.bind {x y : Steps Unit} {m : Memory} {r r' : Except PredicateError Unit}
    (hx : Checks x m r) (hy : Checks y m r') :
    Checks (x >>= fun _ => y) m (r >>= fun _ => r') := by
  refine hx.run_bind.trans ?_
  cases r with
  | error why => rfl
  | ok _ => exact hy

/-- Steps that do an action on a builder's memory: they do what the action does,
are refused where it is, and leave the memory alone then. -/
def Follows (x : Steps Unit) (b : Builder) (r : Except Builder.ActionError Builder) : Prop :=
  x.run.run b.memory =
    match r with
    | .ok b' => (.ok (), b'.memory)
    | .error why => (.error (.refused why), b.memory)

section
variable {b : Builder}

theorem follows_make (symbol : String) (shapeOf : Meaning → Except PredicateError Shape) :
    Follows (make symbol shapeOf) b (b.addMade symbol shapeOf) := by
  unfold Follows make Builder.addMade
  cases Meaning.ofSymbol? symbol with
  | none => rfl
  | some meaning =>
    dsimp only
    cases shapeOf meaning with
    | error why => rfl
    | ok shape =>
      dsimp only
      rw [← Builder.memory_add]
      rfl

/-- A test is completed once its literal is prepared, and stays as it is if the
literal is refused. -/
theorem follows_prepare {id : Nat} {t : TextTest} (fresh : b.node? id = some (.fresh (.test t)))
    (literal : String) :
    Follows
      (do
        prepare id t literal
        update id fun cell => { cell with literal? := some literal })
      b (((t.attach literal).map fun l => b.put id (.literal l)).mapError .attach) := by
  unfold Follows prepare
  cases hprepare : t.prepare literal with
  | error why =>
    rw [TextTest.attach_of_prepare_error hprepare]
    rfl
  | ok pattern =>
    have hattach : t.attach literal = .ok ⟨t, literal, pattern, hprepare⟩ :=
      TextTest.attach_eq_ok_iff.2 ⟨rfl, rfl⟩
    rw [hattach]
    cases pattern with
    | none =>
      exact congrArg _ (Builder.memory_put fresh rfl)
    | some pattern =>
      exact congrArg _ ((Memory.update_update _ _ _ _).trans (Builder.memory_put fresh rfl))

theorem run_read? {α : Type} (id : Nat) (f : Option Cell → Steps α) :
    (read? id >>= f).run.run b.memory = (f ((b.node? id).map Node.cell)).run.run b.memory := by
  rw [← Builder.cell?_memory]
  rfl

theorem follows_setLiteral (id : Nat) (v : Value) :
    Follows (setLiteral id v) b ((b.setLiteral id v).mapError .attach) := by
  unfold Follows setLiteral Builder.setLiteral
  rw [run_read?]
  cases hn : b.node? id with
  | none => rfl
  | some n =>
    cases n with
    | literal l => rfl
    | parent c ids children => rfl
    | fresh shape =>
      cases shape with
      | composite c => rfl
      | test t =>
        cases v with
        | text s =>
          have h := follows_prepare hn s
          unfold Follows at h
          refine h.trans ?_
          simp only [Node.setLiteral]
          cases t.attach s <;> rfl
        | _ => rfl

/-- A child is checked as the part that it is. -/
theorem checks_checkChild (c : Composite) (child : Child) :
    Checks (checkChild c child) b.memory ((c.checkPart (b.part child)).map fun _ => ()) := by
  cases child with
  | value v => rfl
  | node id =>
    unfold Checks checkChild Builder.part
    dsimp only
    rw [run_read?]
    cases b.node? id with
    | none => rfl
    | some n =>
      simp only [Option.map_some, Node.shape_cell, Node.isSealed_cell]
      unfold Node.part Node.isSealed
      cases ht : n.tree? with
      | none =>
        simp only [Composite.checkPart]
        cases n.shape.accepts (some c.output) <;> rfl
      | some t =>
        rw [Node.shape_eq_of_tree? ht]
        simp only [Composite.checkPart]
        cases t.shape.accepts (some c.output) <;> rfl

theorem checks_checkChildren (c : Composite) (children : List Child) :
    Checks (checkChildren c children) b.memory
      (((children.map b.part).mapM c.checkPart).map fun _ => ()) := by
  induction children with
  | nil => rfl
  | cons child children ih =>
    rw [checkChildren, List.map_cons, List.mapM_cons]
    have h := (checks_checkChild (b := b) c child).bind ih
    cases hchild : c.checkPart (b.part child) with
    | error why =>
      rw [hchild] at h
      exact h
    | ok t =>
      rw [hchild] at h
      refine h.trans ?_
      cases (children.map b.part).mapM c.checkPart <;> rfl

/-- A composite is completed once its children are checked, and stays as it is if
one is refused. -/
theorem follows_checkChildren {id : Nat} {c : Composite}
    (fresh : b.node? id = some (.fresh (.composite c))) (children : List Child) :
    Follows
      (do
        checkChildren c children
        update id fun cell =>
          { cell with children? := some (children.filterMap Builder.Child.id?) })
      b ((((children.map b.part).mapM c.checkPart).map fun ts =>
        b.put id (.parent c (children.filterMap Builder.Child.id?) ts)).mapError
          (.attach ∘ .misuse)) := by
  unfold Follows
  refine (checks_checkChildren c children).run_bind.trans ?_
  cases (children.map b.part).mapM c.checkPart with
  | error why => rfl
  | ok ts => exact congrArg _ (Builder.memory_put fresh rfl)

theorem follows_setChildren (id : Nat) (children : List Child) :
    Follows (setChildren id children) b
      ((b.setChildren id children).mapError (.attach ∘ .misuse)) := by
  unfold Follows setChildren Builder.setChildren
  rw [run_read?]
  cases hn : b.node? id with
  | none => rfl
  | some n =>
    cases n with
    | literal l => rfl
    | parent c ids trees => rfl
    | fresh shape =>
      cases shape with
      | test t => rfl
      | composite c =>
        simp only [Node.setChildren, Composite.attach, List.length_map]
        dsimp only [Option.map_some, Node.cell, Cell.isSealed]
        cases c.admits children.length with
        | false => rfl
        | true =>
          refine (follows_checkChildren hn children).trans ?_
          cases (children.map b.part).mapM c.checkPart <;> rfl

/-- Building in memory does what the builder does. -/
theorem follows_build (action : Builder.Action) : Follows (build action) b (b.act action) := by
  cases action with
  | create symbol context param extractor => exact follows_make symbol _
  | construct symbol domain key extractor => exact follows_make symbol _
  | setLiteral id v => exact follows_setLiteral id v
  | setChildren id children => exact follows_setChildren id children

end

end Steps

end ImageSelect.Filter
