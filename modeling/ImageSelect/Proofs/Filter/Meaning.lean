import ImageSelect.Proofs.Filter.Typing
import ImageSelect.Proofs.Filter.Verdict

/-!
# What trees mean

A tree means a truth value for each value that its root consumes.  A conjunction means that all
children are true, a disjunction that one is, `not` and `doesnot` that their child is not true,
and `does` that it is.  A feature or a look-up means that there is such a text and that the
child is true of it.

The tests that are asked on the way are those that are reached: no sibling to their left, or to
the left of a tree that they stand in, has settled what a conjunction or disjunction above
means, and the text of each feature and look-up above is there.

* `Tree.Sealed`: the trees that attaching gives.
* `Tree.meaning`: the truth value, by recursion over the tree.
* `Tree.Reached`: the tests that are reached, as a relation, and `Tree.visits`, as a list.
* `Tree.mem_visits_iff`, `Tree.pairwise_visits`: the list has exactly the tests that are
  reached, each once, in the order in which they are read.
-/

namespace ImageSelect.Filter

/-! ## Sealed trees -/

/-- The trees that are made by attaching literals and children. -/
inductive Tree.Sealed : Tree → Prop where
  | leaf {test : TextTest} {literal : String} {l : LiteralTest}
      (attached : test.attach literal = .ok l) : Sealed (.leaf l)
  | branch {c : Composite} {children : List Tree} (below : ∀ t ∈ children, Sealed t)
      (attached : c.attach (children.map .complete) = .ok (.branch c children)) :
      Sealed (.branch c children)

namespace Tree

theorem sealed_leaf (l : LiteralTest) : (leaf l).Sealed :=
  .leaf (TextTest.attach_eq_ok_iff.2 ⟨rfl, rfl⟩)

/-- A composite is sealed with children that are sealed, as many as it admits, and consume what
it supplies. -/
theorem sealed_branch_iff {c : Composite} {children : List Tree} :
    (branch c children).Sealed ↔
      c.admits children.length = true ∧ c.Feeds children ∧ ∀ t ∈ children, t.Sealed := by
  constructor
  · intro h
    cases h with
    | branch below attached =>
      obtain ⟨children', hparts, hadmits, hfeeds, heq⟩ := Composite.attach_eq_ok_iff.1 attached
      obtain rfl := (Tree.branch.inj heq).2
      exact ⟨hadmits, hfeeds, below⟩
  · rintro ⟨hadmits, hfeeds, below⟩
    exact .branch below (Composite.attach_eq_ok_iff.2 ⟨children, rfl, hadmits, hfeeds, rfl⟩)

/-- What an expression stands for is sealed. -/
theorem WellFormed.isSealed {t : Tree} (h : t.WellFormed) : t.Sealed := by
  induction h with
  | leaf known => exact sealed_leaf _
  | branch known admitted fed below ih => exact sealed_branch_iff.2 ⟨admitted, fed, ih⟩

end Tree

/-! ## Meanings -/

/-- What a test means for a value. -/
def LiteralTest.meaning (l : LiteralTest) : Value → Bool
  | .text s => l.holds s
  | _ => false

/-- What a composite hands to its children, if it is there. -/
def Composite.value? [CurrentDirectory] (c : Composite) (v : Value) : Option Value :=
  match c with
  | .connective _ _ | .quorum _ _ => some v
  | .feature f => (v.location?.bind f.of?).map .text
  | .metadata key source => (((source.rowOf v).get? key).filter (· ≠ "")).map .text

/-- What a composite makes of its children's truth values. -/
def Composite.conclude (c : Composite) (results : List Bool) : Bool :=
  match c with
  | .connective .and _ => results.all id
  | .connective .or _ => results.any id
  | .connective .not _ | .connective .doesNot _ => !results.headD false
  | .connective .does _ | .feature _ | .metadata _ _ => results.headD false
  | .quorum least _ => least ≤ results.count true

section
variable [CurrentDirectory]

mutual

/-- What a tree means for a value. -/
def Tree.meaning : Tree → Value → Bool
  | .leaf l, v => l.meaning v
  | .branch c children, v =>
    match c.value? v with
    | none => false
    | some w => c.conclude (meaningsOf children w)

/-- What trees mean for a value. -/
def meaningsOf : List Tree → Value → List Bool
  | [], _ => []
  | t :: ts, v => t.meaning v :: meaningsOf ts v

end

theorem Tree.meaning_branch_of_none {c : Composite} {children : List Tree} {v : Value}
    (h : c.value? v = none) : (branch c children).meaning v = false := by
  rw [meaning, h]

theorem Tree.meaning_branch_of_some {c : Composite} {children : List Tree} {v w : Value}
    (h : c.value? v = some w) :
    (branch c children).meaning v = c.conclude (meaningsOf children w) := by
  rw [meaning, h]

end

/-! ## Tests that are reached -/

/-- A test that is asked: where it stands, as the numbers of the children on the way from the
root, and what it is asked about. -/
structure Visit where
  path : List Nat
  test : LiteralTest
  value : Value

/-- A visit below the child with a number. -/
def Visit.under (i : Nat) (visit : Visit) : Visit :=
  { visit with path := i :: visit.path }

/-- Whether a child's truth value settles what a conjunction or disjunction means. -/
def Composite.settles (c : Composite) (passes : Bool) : Bool :=
  match c with
  | .connective .and _ => !passes
  | .connective .or _ => passes
  | _ => false

section
variable [CurrentDirectory]

/-- The tests of a tree that are reached: what the composites above hand on is there, and no
child before the one on the way settles what its parent means. -/
inductive Tree.Reached : Tree → Value → Visit → Prop where
  | leaf (l : LiteralTest) (v : Value) : Reached (.leaf l) v ⟨[], l, v⟩
  | branch {c : Composite} {children : List Tree} {v w : Value} {i : Nat} {t : Tree}
      {visit : Visit} (available : c.value? v = some w) (child : children[i]? = some t)
      (unsettled : ∀ j < i, ∀ t', children[j]? = some t' → c.settles (t'.meaning w) = false)
      (below : Reached t w visit) : Reached (.branch c children) v (visit.under i)

mutual

/-- The tests of a tree that are asked about a value, in order. -/
def Tree.visits : Tree → Value → List Visit
  | .leaf l, v => [⟨[], l, v⟩]
  | .branch c children, v =>
    match c.value? v with
    | none => []
    | some w => visitsFrom c 0 children w

/-- The tests that are asked in the children from a number on. -/
def visitsFrom (c : Composite) (i : Nat) : List Tree → Value → List Visit
  | [], _ => []
  | t :: ts, v =>
    (t.visits v).map (Visit.under i) ++
      if c.settles (t.meaning v) then [] else visitsFrom c (i + 1) ts v

end

section
variable {c : Composite} {children : List Tree} {t : Tree} {v w : Value}

theorem Tree.visits_branch_of_none (h : c.value? v = none) :
    (branch c children).visits v = [] := by
  rw [visits, h]

theorem Tree.visits_branch_of_some (h : c.value? v = some w) :
    (branch c children).visits v = visitsFrom c 0 children w := by
  rw [visits, h]

/-- An only child is asked. -/
theorem visitsFrom_one (i : Nat) :
    visitsFrom c i [t] v = (t.visits v).map (Visit.under i) := by
  rw [visitsFrom, visitsFrom, ite_self, List.append_nil]

end

/-- The visits to children are those to one of them that no child before it keeps from being
asked. -/
theorem mem_visitsFrom_iff {c : Composite} {children : List Tree} {v : Value} {visit : Visit} :
    ∀ {i : Nat}, visit ∈ visitsFrom c i children v ↔
      ∃ (j : Nat) (t : Tree) (visit' : Visit), children[j]? = some t ∧
        (∀ k < j, ∀ t' : Tree, children[k]? = some t' → c.settles (t'.meaning v) = false) ∧
        visit' ∈ t.visits v ∧ visit = visit'.under (i + j) := by
  induction children with
  | nil => simp [visitsFrom]
  | cons t ts ih =>
    intro i
    rw [visitsFrom, List.mem_append, List.mem_map]
    constructor
    · rintro (⟨visit', hmem, rfl⟩ | hmem)
      · exact ⟨0, t, visit', rfl, by simp, hmem, rfl⟩
      · cases hsettles : c.settles (t.meaning v) with
        | true => simp [hsettles] at hmem
        | false =>
          rw [hsettles] at hmem
          obtain ⟨j, t', visit', hchild, hunsettled, hmem', rfl⟩ := ih.1 hmem
          refine ⟨j + 1, t', visit', hchild, ?_, hmem', ?_⟩
          · intro k hk t'' ht''
            cases k with
            | zero =>
              obtain rfl := Option.some.inj ht''
              exact hsettles
            | succ k => exact hunsettled k (by omega) t'' ht''
          · rw [Nat.add_assoc, Nat.add_comm 1]
    · rintro ⟨j, t', visit', hchild, hunsettled, hmem, rfl⟩
      cases j with
      | zero =>
        obtain rfl := Option.some.inj hchild
        exact .inl ⟨visit', hmem, rfl⟩
      | succ j =>
        rw [if_neg (by simp [hunsettled 0 (by omega) t rfl])]
        refine .inr (ih.2 ⟨j, t', visit', hchild, ?_, hmem, ?_⟩)
        · exact fun k hk t'' ht'' => hunsettled (k + 1) (by omega) t'' ht''
        · rw [Nat.add_assoc, Nat.add_comm 1]

/-- The tests that are asked are those that are reached. -/
theorem Tree.mem_visits_iff {t : Tree} {v : Value} {visit : Visit} :
    visit ∈ t.visits v ↔ t.Reached v visit := by
  induction t using Tree.induct generalizing v visit with
  | leaf l =>
    rw [visits, List.mem_singleton]
    constructor
    · rintro rfl
      exact .leaf l v
    · intro h
      cases h
      rfl
  | branch c children ih =>
    rw [visits]
    constructor
    · intro hmem
      cases hvalue : c.value? v with
      | none => simp [hvalue] at hmem
      | some w =>
        simp only [hvalue] at hmem
        obtain ⟨j, t, visit', hchild, hunsettled, hmem', rfl⟩ := mem_visitsFrom_iff.1 hmem
        rw [Nat.zero_add]
        exact .branch hvalue hchild hunsettled
          ((ih t (List.mem_of_getElem? hchild)).1 hmem')
    · intro h
      cases h with
      | @branch _ _ _ w i t visit available child unsettled below =>
        simp only [available]
        refine mem_visitsFrom_iff.2 ⟨i, t, visit, child, unsettled, ?_, by rw [Nat.zero_add]⟩
        exact (ih t (List.mem_of_getElem? child)).2 below

end

/-- Of two visits the first one is to the test that is read first: at the first child where
their ways part, its way goes to the left. -/
def Visit.Before (a b : Visit) : Prop :=
  a.path < b.path

theorem Visit.before_under {a b : Visit} {i j : Nat} (h : i < j ∨ i = j ∧ a.Before b) :
    (a.under i).Before (b.under j) :=
  List.cons_lt_cons_iff.2 h

section
variable [CurrentDirectory]

theorem pairwise_visitsFrom {c : Composite} {children : List Tree} {v : Value}
    (h : ∀ t ∈ children, (t.visits v).Pairwise Visit.Before) :
    ∀ i, (visitsFrom c i children v).Pairwise Visit.Before := by
  induction children with
  | nil =>
    intro i
    rw [visitsFrom]
    exact .nil
  | cons t ts ih =>
    intro i
    obtain ⟨ht, hts⟩ := List.forall_mem_cons.1 h
    rw [visitsFrom, List.pairwise_append]
    refine ⟨?first, ?rest, ?across⟩
    case first =>
      exact List.Pairwise.map _ (fun a b hab => Visit.before_under (.inr ⟨rfl, hab⟩)) ht
    case rest =>
      split
      · exact .nil
      · exact ih hts (i + 1)
    case across =>
      intro a ha b hb
      obtain ⟨a, -, rfl⟩ := List.mem_map.1 ha
      split at hb
      · simp at hb
      · obtain ⟨j, t', b, -, -, -, rfl⟩ := mem_visitsFrom_iff.1 hb
        exact Visit.before_under (.inl (by omega))

/-- The tests are asked in the order in which they are read, and none of them twice. -/
theorem Tree.pairwise_visits (t : Tree) (v : Value) : (t.visits v).Pairwise Visit.Before := by
  induction t using Tree.induct generalizing v with
  | leaf l =>
    rw [visits]
    exact List.pairwise_singleton _ _
  | branch c children ih =>
    rw [visits]
    cases c.value? v with
    | none => exact .nil
    | some w => exact pairwise_visitsFrom (fun t ht => ih t ht w) 0

end

end ImageSelect.Filter
