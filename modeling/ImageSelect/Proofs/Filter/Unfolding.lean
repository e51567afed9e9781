import Mathlib.Data.List.Forall2
import Mathlib.Order.MinMax
import ImageSelect.Filter.Memory

/-!
# Unfolding references

Nothing in the type of a memory keeps predicates from referring to each other in a
circle.  `Memory.Unfolds` is said of a predicate whose references lead to a finite
tree.

* `Memory.Unfolds.evalAt_eq` says that such a predicate answers as its tree does,
  once calls may be nested as deep as the tree is high.  One lemma for each way of
  asking children says the same of them.
* `Memory.Unfolds.acyclic` says that it does not refer to itself.
-/

namespace ImageSelect.Filter

/-! ## Heights -/

mutual

/-- The number of predicates on the longest way down a tree. -/
def Tree.height : Tree → Nat
  | .leaf _ => 1
  | .branch _ children => heightAll children + 1

/-- The greatest height of some trees. -/
def heightAll : List Tree → Nat
  | [] => 0
  | t :: ts => max t.height (heightAll ts)

end

theorem heightAll_le_iff {ts : List Tree} {n : Nat} :
    heightAll ts ≤ n ↔ ∀ t ∈ ts, t.height ≤ n := by
  induction ts with
  | nil => simp [heightAll]
  | cons t ts ih => simp [heightAll, ih]

theorem Tree.height_pos (t : Tree) : 0 < t.height := by
  cases t with
  | leaf l => exact Nat.one_pos
  | branch c children => exact Nat.succ_pos _

/-! ## Questions -/

namespace Question

variable {α β : Type}

theorem ofInquiry_bind (x : Inquiry α) (f : α → Inquiry β) :
    ofInquiry (x >>= f) = ofInquiry x >>= fun a => ofInquiry (f a) := by
  refine ExceptT.ext ?_
  unfold ofInquiry
  rw [ExceptT.run_bind]
  show Except.mapError OperationError.eval <$> (x >>= f).run =
    Except.mapError OperationError.eval <$> x.run >>= _
  rw [ExceptT.run_bind, map_bind, bind_map_left]
  refine bind_congr fun r => ?_
  cases r with
  | ok a => rfl
  | error why => rfl

theorem ofInquiry_map (x : Inquiry α) (f : α → β) : ofInquiry (f <$> x) = f <$> ofInquiry x := by
  rw [← bind_pure_comp, ← bind_pure_comp, ofInquiry_bind]
  rfl

/-- What a predicate says by itself does not cut calls off. -/
theorem ofInquiry_ne_tooDeep (x : Inquiry α) (s : Session) :
    ((ofInquiry x).run.run s).1 ≠ .error .tooDeep := by
  have hrun : ((ofInquiry x).run.run s).1 = (x.run.run s).1.mapError .eval := rfl
  rw [hrun]
  cases (x.run.run s).1 <;> simp [Except.mapError]

end Question

/-- A test in memory answers as the test with its literal does. -/
theorem TextTest.evalOn_eq (l : LiteralTest) (v : Value) :
    l.test.evalOn l.pattern l.literal v = l.eval v := by
  unfold TextTest.evalOn LiteralTest.eval
  rfl

/-! ## Asking children -/

section

variable [CurrentDirectory] {ask : Nat → Value → Question Bool} {ids : List Nat}
  {children : List Tree}

/-- Predicates of some numbers answer as trees do. -/
def AnswersAs (ask : Nat → Value → Question Bool) (ids : List Nat) (children : List Tree) : Prop :=
  List.Forall₂ (fun id t => ∀ v, ask id v = .ofInquiry (t.eval v)) ids children

theorem askFirst_eq (h : AnswersAs ask ids children) (symbol : String) (v : Value) :
    askFirst ask symbol ids v = .ofInquiry (evalFirst .silent symbol children v) := by
  cases h with
  | nil =>
    rw [evalFirst]
    rfl
  | cons head _ =>
    rw [evalFirst]
    exact head v

theorem askAll_eq (h : AnswersAs ask ids children) (v : Value) :
    askAll ask ids v = .ofInquiry (evalAll .silent children v) := by
  induction h with
  | nil =>
    rw [evalAll]
    rfl
  | cons head _ ih =>
    rw [askAll, evalAll, Question.ofInquiry_bind, head v]
    refine congrArg _ (funext fun passes => ?_)
    cases passes with
    | true => exact ih
    | false => rfl

theorem askAny_eq (h : AnswersAs ask ids children) (v : Value) :
    askAny ask ids v = .ofInquiry (evalAny .silent children v) := by
  induction h with
  | nil =>
    rw [evalAny]
    rfl
  | cons head _ ih =>
    rw [askAny, evalAny, Question.ofInquiry_bind, head v]
    refine congrArg _ (funext fun passes => ?_)
    cases passes with
    | true => rfl
    | false => exact ih

theorem askCount_eq (h : AnswersAs ask ids children) (v : Value) :
    askCount ask ids v = .ofInquiry (countPassing .silent children v) := by
  induction h with
  | nil =>
    rw [countPassing]
    rfl
  | cons head _ ih =>
    rw [askCount, countPassing, Question.ofInquiry_bind, head v, ih]
    refine congrArg _ (funext fun passes => ?_)
    rw [Question.ofInquiry_bind]
    rfl

/-- A composite that derives a text from what it gets asks its child about it. -/
theorem askText_eq (h : AnswersAs ask ids children) (symbol : String)
    (x : Inquiry (Option String)) :
    (do
      match ← Question.ofInquiry x with
      | none => return false
      | some s => askFirst ask symbol ids (.text s) : Question Bool) =
    .ofInquiry (do
      match ← x with
      | none => return false
      | some s => evalFirst .silent symbol children (.text s)) := by
  rw [Question.ofInquiry_bind]
  refine congrArg _ (funext fun text? => ?_)
  cases text? with
  | none => rfl
  | some s => exact askFirst_eq h symbol (.text s)

/-- A composite in memory answers as the tree does, if its children do. -/
theorem Composite.evalOn_eq (h : AnswersAs ask ids children) (c : Composite) (v : Value) :
    c.evalOn ask ids v = .ofInquiry ((Tree.branch c children).eval v) := by
  unfold Tree.eval Tree.evalWith
  cases c with
  | connective c domain =>
    cases c with
    | and => exact askAll_eq h v
    | or => exact askAny_eq h v
    | does => exact askFirst_eq h _ v
    | not => exact (congrArg _ (askFirst_eq h _ v)).trans (Question.ofInquiry_map _ _).symm
    | doesNot => exact (congrArg _ (askFirst_eq h _ v)).trans (Question.ofInquiry_map _ _).symm
  | feature f => exact askText_eq h _ _
  | metadata key source => exact askText_eq h _ _
  | quorum least most =>
    exact (congrArg _ (askCount_eq h v)).trans (Question.ofInquiry_map _ _).symm

end

/-! ## Unfolding references -/

namespace Memory

mutual

/-- The tree that the references of a predicate lead to, if it is complete and all
below it are. -/
inductive Unfolds (m : Memory) : Nat → Tree → Prop where
  | leaf {id : Nat} {l : LiteralTest}
      (found : m.cell? id = some
        { shape := .test l.test, literal? := some l.literal, pattern? := l.pattern }) :
      Unfolds m id (.leaf l)
  | branch {id : Nat} {c : Composite} {ids : List Nat} {children : List Tree}
      (found : m.cell? id = some { shape := .composite c, children? := some ids })
      (below : UnfoldsAll m ids children) : Unfolds m id (.branch c children)

/-- The trees that the references of some predicates lead to. -/
inductive UnfoldsAll (m : Memory) : List Nat → List Tree → Prop where
  | nil : UnfoldsAll m [] []
  | cons {id : Nat} {t : Tree} {ids : List Nat} {ts : List Tree} (head : Unfolds m id t)
      (tail : UnfoldsAll m ids ts) : UnfoldsAll m (id :: ids) (t :: ts)

end

variable {m : Memory}

theorem UnfoldsAll.answersAs [CurrentDirectory] {depth : Nat}
    (hanswer : ∀ {id : Nat} {t : Tree}, m.Unfolds id t → t.height ≤ depth →
      ∀ v : Value, m.evalAt depth id v = .ofInquiry (t.eval v))
    {ids : List Nat} {ts : List Tree} (h : m.UnfoldsAll ids ts) (hheight : heightAll ts ≤ depth) :
    AnswersAs (m.evalAt depth) ids ts := by
  match h with
  | .nil => exact .nil
  | .cons head tail =>
    obtain ⟨hhead, htail⟩ := max_le_iff.1 hheight
    exact .cons (hanswer head hhead) (tail.answersAs hanswer htail)

theorem UnfoldsAll.length_eq {ids : List Nat} {ts : List Tree} (h : m.UnfoldsAll ids ts) :
    ids.length = ts.length := by
  match h with
  | .nil => rfl
  | .cons head tail => exact congrArg Nat.succ tail.length_eq

theorem UnfoldsAll.exists_of_mem {ids : List Nat} {ts : List Tree} (h : m.UnfoldsAll ids ts)
    {id : Nat} (hmem : id ∈ ids) : ∃ t ∈ ts, m.Unfolds id t := by
  match h with
  | .nil => simp at hmem
  | .cons head tail =>
    rcases List.mem_cons.1 hmem with rfl | hmem
    · exact ⟨_, List.mem_cons_self, head⟩
    · obtain ⟨t, ht, hunfolds⟩ := tail.exists_of_mem hmem
      exact ⟨t, List.mem_cons_of_mem _ ht, hunfolds⟩

/-- A predicate in memory answers as the tree that it unfolds to, if calls may be
nested as deep as the tree is high. -/
theorem Unfolds.evalAt_eq [CurrentDirectory] {depth : Nat} :
    ∀ {id : Nat} {t : Tree}, m.Unfolds id t → t.height ≤ depth →
      ∀ v : Value, m.evalAt depth id v = .ofInquiry (t.eval v) := by
  induction depth with
  | zero => exact fun _ hheight => absurd hheight (Nat.not_le.2 (Tree.height_pos _))
  | succ depth ih =>
    intro id t h hheight v
    cases h with
    | @leaf _ l found =>
      have hpattern : Cell.patternFor
          { shape := .test l.test, literal? := some l.literal, pattern? := l.pattern }
          l.test l.literal = .ok l.pattern := by
        unfold Cell.patternFor
        dsimp only
        cases hl : l.pattern with
        | none => rw [l.prepared, hl]; rfl
        | some pattern => rfl
      rw [evalAt, found]
      dsimp only
      rw [hpattern]
      unfold Tree.eval Tree.evalWith
      exact congrArg Question.ofInquiry (TextTest.evalOn_eq l v)
    | @branch _ c ids children found below =>
      have hchildren : AnswersAs (m.evalAt depth) ids children :=
        below.answersAs ih (Nat.le_of_succ_le_succ hheight)
      rw [evalAt, found]
      exact Composite.evalOn_eq hchildren c v

/-- One predicate refers to another one as its child. -/
def Refers (m : Memory) (parent child : Nat) : Prop :=
  ∃ cell ids, m.cell? parent = some cell ∧ cell.children? = some ids ∧ child ∈ ids

/-- What a predicate refers to unfolds to a lower tree. -/
theorem Unfolds.of_refers {id child : Nat} {t : Tree} (h : m.Unfolds id t)
    (href : m.Refers id child) : ∃ t', m.Unfolds child t' ∧ t'.height < t.height := by
  obtain ⟨cell, ids, hcell, hids, hchild⟩ := href
  cases h with
  | leaf found =>
    obtain rfl := Option.some.inj (found.symm.trans hcell)
    simp at hids
  | branch found below =>
    obtain rfl := Option.some.inj (found.symm.trans hcell)
    obtain rfl := Option.some.inj hids
    obtain ⟨t', ht', hunfolds⟩ := below.exists_of_mem hchild
    exact ⟨t', hunfolds, Nat.lt_succ_of_le (heightAll_le_iff.1 le_rfl t' ht')⟩

theorem Unfolds.of_transGen {id id' : Nat} {t : Tree} (h : m.Unfolds id t)
    (hpath : Relation.TransGen m.Refers id id') :
    ∃ t', m.Unfolds id' t' ∧ t'.height < t.height := by
  induction hpath with
  | single href => exact h.of_refers href
  | tail _ href ih =>
    obtain ⟨t₁, h₁, hlt₁⟩ := ih
    obtain ⟨t₂, h₂, hlt₂⟩ := h₁.of_refers href
    exact ⟨t₂, h₂, hlt₂.trans hlt₁⟩

/-- What unfolds to a tree does not refer to itself, not even through others:
going round once more would lead to an ever lower tree. -/
theorem Unfolds.acyclic {id : Nat} {t : Tree} (h : m.Unfolds id t) :
    ¬Relation.TransGen m.Refers id id := by
  intro hcycle
  induction hheight : t.height using Nat.strong_induction_on generalizing t with
  | _ n ih =>
    obtain ⟨t', h', hlt⟩ := h.of_transGen hcycle
    exact ih t'.height (hheight ▸ hlt) h' rfl

end Memory

end ImageSelect.Filter
