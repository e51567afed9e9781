import ImageSelect.Proofs.Filter.Meaning

/-!
# Evaluation with places

A watch is told which tree is asked, but not where it stands, so two tests that are alike look
alike to it.  `Tree.evalAt` tells a watch the place as well.  It asks the children of all
composites in one way: until one of them settles what the composite means.

A sealed tree has as many children as its composites need.  Where a watch does not look at
places, asking it with places is asking it: `Tree.Sealed.evalAt_eq`.
-/

namespace ImageSelect.Filter

/-- A composite that takes one child. -/
theorem Tree.exists_child {c : Composite} {children : List Tree}
    (h : c.admits children.length = true) (harity : c.arity = (1, some 1)) :
    ∃ t, children = [t] := by
  obtain ⟨hleast, hmost⟩ := Composite.admits_iff.1 h
  rw [harity] at hleast hmost
  exact List.length_eq_one_iff.1 (Nat.le_antisymm (hmost 1 rfl) hleast)

variable [CurrentDirectory]

/-- What a composite hands to its children, looked up in a session. -/
def Composite.derive? (c : Composite) (v : Value) : Inquiry (Option Value) :=
  match c with
  | .connective _ _ | .quorum _ _ => return some v
  | .feature f => (·.map .text) <$> f.textOf? v
  | .metadata key source => (·.map .text) <$> lookUp key source v

mutual

/-- Asks a tree about a value under a watch that is told where the trees stand. -/
def Tree.evalAt (watch : List Nat → Watch) : Tree → Value → Inquiry Bool
  | .leaf l, v => do
    watch [] (.leaf l) v
    l.eval v
  | .branch c children, v => do
    watch [] (.branch c children) v
    -- Without a text to ask about no child is asked.
    match ← c.derive? v with
    | none => return false
    | some w => c.conclude <$> askFrom watch c 0 children w

/-- Asks trees, the children of a composite from a number on, until one of them settles what
the composite means. -/
def askFrom (watch : List Nat → Watch) (c : Composite) (i : Nat) :
    List Tree → Value → Inquiry (List Bool)
  | [], _ => return []
  | t :: ts, v => do
    -- The way to a test of the child goes on from the child's number.
    let passes ← t.evalAt (fun path => watch (i :: path)) v
    if c.settles passes then return [passes]
    else (passes :: ·) <$> askFrom watch c (i + 1) ts v

end

/-! ## Without places -/

section
variable {children : List Tree} {v : Value} {watch : Watch}

/-- Without their places, trees are asked as they are. -/
def AskedAlike (watch : Watch) (children : List Tree) (v : Value) : Prop :=
  ∀ t ∈ children, t.evalAt (fun _ => watch) v = t.evalWith watch v

theorem askFrom_and (h : AskedAlike watch children v) (domain : ValueType) :
    ∀ i, (·.all id) <$> askFrom (fun _ => watch) (.connective .and domain) i children v =
      evalAll watch children v := by
  induction children with
  | nil =>
    intro i
    rw [askFrom, evalAll, map_pure]
    rfl
  | cons t ts ih =>
    intro i
    obtain ⟨ht, hts⟩ := List.forall_mem_cons.1 h
    rw [askFrom, evalAll, map_bind, ht]
    refine bind_congr fun passes => ?_
    cases passes with
    | true =>
      rw [← ih hts (i + 1)]
      simp [Composite.settles, Functor.map_map]
    | false => simp [Composite.settles]

theorem askFrom_or (h : AskedAlike watch children v) (domain : ValueType) :
    ∀ i, (·.any id) <$> askFrom (fun _ => watch) (.connective .or domain) i children v =
      evalAny watch children v := by
  induction children with
  | nil =>
    intro i
    rw [askFrom, evalAny, map_pure]
    rfl
  | cons t ts ih =>
    intro i
    obtain ⟨ht, hts⟩ := List.forall_mem_cons.1 h
    rw [askFrom, evalAny, map_bind, ht]
    refine bind_congr fun passes => ?_
    cases passes with
    | true => simp [Composite.settles]
    | false =>
      rw [← ih hts (i + 1)]
      simp [Composite.settles, Functor.map_map]

theorem askFrom_quorum (h : AskedAlike watch children v) (least : Nat) (most : Option Nat) :
    ∀ i, (·.count true) <$> askFrom (fun _ => watch) (.quorum least most) i children v =
      countPassing watch children v := by
  induction children with
  | nil =>
    intro i
    rw [askFrom, countPassing, map_pure]
    rfl
  | cons t ts ih =>
    intro i
    obtain ⟨ht, hts⟩ := List.forall_mem_cons.1 h
    rw [askFrom, countPassing, map_bind, ht]
    refine bind_congr fun passes => ?_
    rw [← ih hts (i + 1)]
    simp [Composite.settles, Functor.map_map, List.count_cons]

/-- A composite with one child asks it. -/
theorem askFrom_one {c : Composite} {t : Tree} (h : AskedAlike watch [t] v)
    (hc : ∀ passes, c.settles passes = false) (symbol : String) :
    (·.headD false) <$> askFrom (fun _ => watch) c 0 [t] v =
      evalFirst watch symbol [t] v := by
  rw [askFrom, evalFirst, map_bind, h t List.mem_cons_self]
  simp [askFrom, hc]

end

/-- The composites answer alike, told the places or not, if their children do. -/
theorem Composite.evalAt_eq {c : Composite} {children : List Tree} {watch : Watch}
    (hadmits : c.admits children.length = true)
    (h : ∀ w, AskedAlike watch children w) (v : Value) :
    (Tree.branch c children).evalAt (fun _ => watch) v =
      (Tree.branch c children).evalWith watch v := by
  unfold Tree.evalAt Tree.evalWith
  refine bind_congr fun _ => ?_
  cases c with
  | connective c domain =>
    cases c with
    | and => exact (pure_bind _ _).trans (askFrom_and (h v) domain 0)
    | or => exact (pure_bind _ _).trans (askFrom_or (h v) domain 0)
    | does =>
      obtain ⟨t, rfl⟩ := Tree.exists_child hadmits rfl
      exact (pure_bind _ _).trans (askFrom_one (h v) (fun _ => rfl) _)
    | not =>
      obtain ⟨t, rfl⟩ := Tree.exists_child hadmits rfl
      refine (pure_bind _ _).trans ?_
      rw [← askFrom_one (c := .connective .not domain) (h v) (fun _ => rfl), Functor.map_map]
      rfl
    | doesNot =>
      obtain ⟨t, rfl⟩ := Tree.exists_child hadmits rfl
      refine (pure_bind _ _).trans ?_
      rw [← askFrom_one (c := .connective .doesNot domain) (h v) (fun _ => rfl), Functor.map_map]
      rfl
  | feature f =>
    obtain ⟨t, rfl⟩ := Tree.exists_child hadmits rfl
    simp only [derive?, bind_map_left]
    refine bind_congr fun text? => ?_
    cases text? with
    | none => rfl
    | some s => exact askFrom_one (h (.text s)) (fun _ => rfl) _
  | metadata key source =>
    obtain ⟨t, rfl⟩ := Tree.exists_child hadmits rfl
    simp only [derive?, bind_map_left]
    refine bind_congr fun text? => ?_
    cases text? with
    | none => rfl
    | some s => exact askFrom_one (h (.text s)) (fun _ => rfl) _
  | quorum least most =>
    refine (pure_bind _ _).trans ?_
    dsimp only
    rw [← askFrom_quorum (h v) least most 0, Functor.map_map]
    rfl

/-- Where a watch does not look at places, evaluation with places is evaluation. -/
theorem Tree.Sealed.evalAt_eq {t : Tree} (h : t.Sealed) (watch : Watch) (v : Value) :
    t.evalAt (fun _ => watch) v = t.evalWith watch v := by
  induction t using Tree.induct generalizing v with
  | leaf l =>
    unfold Tree.evalAt Tree.evalWith
    rfl
  | branch c children ih =>
    obtain ⟨hadmits, -, hbelow⟩ := Tree.sealed_branch_iff.1 h
    exact Composite.evalAt_eq hadmits (fun w t ht => ih t ht (hbelow t ht) w) v

end ImageSelect.Filter
