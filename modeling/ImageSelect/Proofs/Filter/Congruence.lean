import ImageSelect.Filter.Eval
import Mathlib.Data.List.Forall2

/-!
# Relations that evaluation respects

The ways in which composites ask their children are put together of single steps.  So a relation
between inquiries that follows them step by step relates the answers of two composites as soon
as it relates those of their children.

* `Congruence`: such a relation.
* `AnswerAlike`: two lists of trees, watched and asked about values in their own ways, whose
  answers are related one by one.
* One lemma for each kind of composite.
-/

namespace ImageSelect.Filter

/-- A relation between inquiries that follows them step by step. -/
structure Congruence (R : (α : Type) → Inquiry α → Inquiry α → Prop) : Prop where
  pure : ∀ {α : Type} (a : α), R α (Pure.pure a) (Pure.pure a)
  bind : ∀ {α β : Type} {m m' : Inquiry α} {f f' : α → Inquiry β},
    R α m m' → (∀ a, R β (f a) (f' a)) → R β (m >>= f) (m' >>= f')

/-- The answers of two lists of trees are related one by one. -/
def AnswerAlike [CurrentDirectory] (R : (α : Type) → Inquiry α → Inquiry α → Prop)
    (watch watch' : Watch)
    (v v' : Value) : List Tree → List Tree → Prop :=
  List.Forall₂ fun t t' => R Bool (t.evalWith watch v) (t'.evalWith watch' v')

namespace Congruence

variable {R : (α : Type) → Inquiry α → Inquiry α → Prop} {watch watch' : Watch}
  {ts ts' : List Tree} {v v' : Value}

theorem map (hR : Congruence R) {α β : Type} {m m' : Inquiry α} (h : R α m m') (f : α → β) :
    R β (f <$> m) (f <$> m') := by
  rw [← bind_pure_comp, ← bind_pure_comp]
  exact hR.bind h fun a => hR.pure (f a)

/-! ## Children -/

variable [CurrentDirectory]

/-- The refusal to ask a child where there is none counts only if there is none. -/
theorem evalFirst {symbol : String}
    (hnone : ts = [] → R Bool (throw (.childless symbol)) (throw (.childless symbol)))
    (h : AnswerAlike R watch watch' v v' ts ts') :
    R Bool (evalFirst watch symbol ts v) (evalFirst watch' symbol ts' v') := by
  cases h with
  | nil =>
    rw [Filter.evalFirst, Filter.evalFirst]
    exact hnone rfl
  | cons ht hts =>
    rw [Filter.evalFirst, Filter.evalFirst]
    exact ht

theorem evalAll (hR : Congruence R) (h : AnswerAlike R watch watch' v v' ts ts') :
    R Bool (evalAll watch ts v) (evalAll watch' ts' v') := by
  induction h with
  | nil =>
    rw [Filter.evalAll, Filter.evalAll]
    exact hR.pure true
  | cons ht hts ih =>
    rw [Filter.evalAll, Filter.evalAll]
    refine hR.bind ht fun passes => ?_
    cases passes with
    | true => exact ih
    | false => exact hR.pure false

theorem evalAny (hR : Congruence R) (h : AnswerAlike R watch watch' v v' ts ts') :
    R Bool (evalAny watch ts v) (evalAny watch' ts' v') := by
  induction h with
  | nil =>
    rw [Filter.evalAny, Filter.evalAny]
    exact hR.pure false
  | cons ht hts ih =>
    rw [Filter.evalAny, Filter.evalAny]
    refine hR.bind ht fun passes => ?_
    cases passes with
    | true => exact hR.pure true
    | false => exact ih

theorem countPassing (hR : Congruence R) (h : AnswerAlike R watch watch' v v' ts ts') :
    R Nat (countPassing watch ts v) (countPassing watch' ts' v') := by
  induction h with
  | nil =>
    rw [Filter.countPassing, Filter.countPassing]
    exact hR.pure 0
  | cons ht hts ih =>
    rw [Filter.countPassing, Filter.countPassing]
    exact hR.bind ht fun passes => hR.bind ih fun count => hR.pure _

/-- A composite that derives a text from what it gets, or rejects it, and asks its child about
the text. -/
theorem textFirst (hR : Congruence R) {x x' : Inquiry (Option String)} (hx : R _ x x')
    {symbol : String}
    (hnone : ts = [] → R Bool (throw (.childless symbol)) (throw (.childless symbol)))
    (h : ∀ s, AnswerAlike R watch watch' (.text s) (.text s) ts ts') :
    R Bool
      (x >>= fun text? => match text? with
        | none => return false
        | some s => Filter.evalFirst watch symbol ts (.text s))
      (x' >>= fun text? => match text? with
        | none => return false
        | some s => Filter.evalFirst watch' symbol ts' (.text s)) := by
  refine hR.bind hx fun text? => ?_
  cases text? with
  | none => exact hR.pure false
  | some s => exact evalFirst hnone (h s)

/-! ## Composites -/

/-- Connectives are related whatever their types. -/
theorem connective (hR : Congruence R) (c : Connective) (domain domain' : ValueType)
    (hwatch : R Unit (watch (.branch (.connective c domain) ts) v)
      (watch' (.branch (.connective c domain') ts') v'))
    (hnone : ts = [] → R Bool (throw (.childless c.symbol)) (throw (.childless c.symbol)))
    (h : AnswerAlike R watch watch' v v' ts ts') :
    R Bool ((Tree.branch (.connective c domain) ts).evalWith watch v)
      ((Tree.branch (.connective c domain') ts').evalWith watch' v') := by
  unfold Tree.evalWith
  refine hR.bind hwatch fun _ => ?_
  cases c with
  | and => exact hR.evalAll h
  | or => exact hR.evalAny h
  | does => exact evalFirst hnone h
  | not => exact hR.map (evalFirst hnone h) _
  | doesNot => exact hR.map (evalFirst hnone h) _

theorem feature (hR : Congruence R) (f : Feature)
    (hwatch : R Unit (watch (.branch (.feature f) ts) v) (watch' (.branch (.feature f) ts') v'))
    (htext : R _ (f.textOf? v) (f.textOf? v'))
    (hnone : ts = [] → R Bool (throw (.childless f.symbol)) (throw (.childless f.symbol)))
    (h : ∀ s, AnswerAlike R watch watch' (.text s) (.text s) ts ts') :
    R Bool ((Tree.branch (.feature f) ts).evalWith watch v)
      ((Tree.branch (.feature f) ts').evalWith watch' v') := by
  unfold Tree.evalWith
  exact hR.bind hwatch fun _ => hR.textFirst htext hnone h

theorem metadata (hR : Congruence R) (key : String) (source : Extractor)
    (hwatch : R Unit (watch (.branch (.metadata key source) ts) v)
      (watch' (.branch (.metadata key source) ts') v'))
    (htext : R _ (lookUp key source v) (lookUp key source v'))
    (hnone : ts = [] → R Bool (throw (.childless metadataSymbol))
      (throw (.childless metadataSymbol)))
    (h : ∀ s, AnswerAlike R watch watch' (.text s) (.text s) ts ts') :
    R Bool ((Tree.branch (.metadata key source) ts).evalWith watch v)
      ((Tree.branch (.metadata key source) ts').evalWith watch' v') := by
  unfold Tree.evalWith
  exact hR.bind hwatch fun _ => hR.textFirst htext hnone h

theorem quorum (hR : Congruence R) (least : Nat) (most : Option Nat)
    (hwatch : R Unit (watch (.branch (.quorum least most) ts) v)
      (watch' (.branch (.quorum least most) ts') v'))
    (h : AnswerAlike R watch watch' v v' ts ts') :
    R Bool ((Tree.branch (.quorum least most) ts).evalWith watch v)
      ((Tree.branch (.quorum least most) ts').evalWith watch' v') := by
  unfold Tree.evalWith
  exact hR.bind hwatch fun _ => hR.map (hR.countPassing h) _

end Congruence

end ImageSelect.Filter
