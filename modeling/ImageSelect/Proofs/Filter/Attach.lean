import ImageSelect.Filter.Compile
import ImageSelect.Proofs.Except
import Mathlib.Data.List.Basic

/-!
# Making and attaching

One statement for each operation that makes a predicate or completes it: when
it succeeds, and what it gives then.  Later proofs read these statements and
do not open the operations.
-/

namespace ImageSelect.Filter

/-! ## Making predicates -/

/-- A symbol is known and its predicate can be made for a context. -/
def Makes (extractor : Option Extractor) (context : ValueType) (name : String)
    (param : Option String) (shape : Shape) : Prop :=
  ∃ m, Meaning.ofSymbol? name = some m ∧ m.make context param extractor = .ok shape

theorem makeShape_eq_ok_iff {extractor : Option Extractor} {context : ValueType} {name : String}
    {param : Option String} {position : Nat} {shape : Shape} :
    makeShape extractor context name param position = .ok shape ↔
      Makes extractor context name param shape := by
  unfold makeShape Makes
  cases Meaning.ofSymbol? name with
  | none => simp
  | some m => cases hm : m.make context param extractor <;> simp [hm]

/-- A look-up can be made for the keys that its extractor declares. -/
theorem Composite.ofKey_eq_ok_iff {key : String} {extractor : Option Extractor} {c : Composite} :
    Composite.ofKey key extractor = .ok c ↔
      key ∈ (lookUpSource extractor).keys ∧ c = .metadata key (lookUpSource extractor) := by
  unfold Composite.ofKey
  by_cases h : key ∈ (lookUpSource extractor).keys
  · simp [h, eq_comm]
  · simp [h]

section
variable {context : ValueType} {param : Option String} {extractor : Option Extractor}
  {shape : Shape}

theorem Meaning.make_test_eq_ok_iff {t : TextTest} :
    (Meaning.test t).make context param extractor = .ok shape ↔
      param = none ∧ shape = .test t := by
  cases param <;> simp [Meaning.make, eq_comm]

theorem Meaning.make_connective_eq_ok_iff {c : Connective} :
    (Meaning.connective c).make context param extractor = .ok shape ↔
      param = none ∧ shape = .composite (.connective c context) := by
  cases param <;> simp [Meaning.make, eq_comm]

theorem Meaning.make_feature_eq_ok_iff {f : Feature} :
    (Meaning.feature f).make context param extractor = .ok shape ↔
      param = none ∧ shape = .composite (.feature f) := by
  cases param <;> simp [Meaning.make, eq_comm]

theorem Meaning.make_metadata_eq_ok_iff :
    Meaning.metadata.make context param extractor = .ok shape ↔
      ∃ key, param = some key ∧ key ≠ "" ∧ key ∈ (lookUpSource extractor).keys ∧
        shape = .composite (.metadata key (lookUpSource extractor)) := by
  cases param with
  | none => simp [Meaning.make]
  | some key =>
    by_cases hkey : key = ""
    · subst hkey
      simp [Meaning.make]
    · have hmake : Meaning.metadata.make context (some key) extractor =
          (Composite.ofKey key extractor).map .composite := by
        simp [Meaning.make]
      rw [hmake, Except.map_eq_ok_iff]
      constructor
      · intro h
        obtain ⟨c, hc, rfl⟩ := h
        obtain ⟨hmem, rfl⟩ := Composite.ofKey_eq_ok_iff.1 hc
        exact ⟨key, rfl, hkey, hmem, rfl⟩
      · intro h
        obtain ⟨key', hkey', -, hmem, rfl⟩ := h
        obtain rfl := Option.some.inj hkey'
        exact ⟨_, Composite.ofKey_eq_ok_iff.2 ⟨hmem, rfl⟩, rfl⟩

end

/-- The predicates that can be made: the known tests, and all composites but
quorums, a look-up with a key that its extractor declares. -/
def Shape.IsKnown : Shape → Prop
  | .test t => t ∈ textTests
  | .composite (.metadata key source) => key ∈ source.keys
  | .composite (.quorum _ _) => False
  | .composite _ => True

/-- The meanings that symbols can have. -/
def Meaning.IsKnown (m : Meaning) : Prop :=
  m ∈ meanings

theorem Meaning.isKnown_of_ofSymbol? {name : String} {m : Meaning}
    (h : Meaning.ofSymbol? name = some m) : m.IsKnown :=
  List.mem_of_find?_eq_some h

/-- The test of a known meaning is known. -/
theorem Meaning.IsKnown.test {t : TextTest} (h : (Meaning.test t).IsKnown) : t ∈ textTests := by
  simpa [Meaning.IsKnown, meanings] using h

/-- A known meaning is found under its symbol. -/
theorem Meaning.IsKnown.ofSymbol? {m : Meaning} (h : m.IsKnown) :
    Meaning.ofSymbol? m.symbol = some m := by
  have hall : ∀ m ∈ meanings, Meaning.ofSymbol? m.symbol = some m := by decide
  exact hall m h

theorem Meaning.isKnown_test {t : TextTest} (h : t ∈ textTests) : (Meaning.test t).IsKnown := by
  simp [Meaning.IsKnown, meanings, h]

theorem Meaning.isKnown_connective (c : Connective) : (Meaning.connective c).IsKnown := by
  unfold Meaning.IsKnown
  cases c <;> decide

theorem Meaning.isKnown_feature (f : Feature) : (Meaning.feature f).IsKnown := by
  unfold Meaning.IsKnown
  cases f <;> decide

theorem Meaning.isKnown_metadata : Meaning.metadata.IsKnown := by
  unfold Meaning.IsKnown
  decide

theorem Meaning.construct_isKnown {m : Meaning} {domain : ValueType} {key : String}
    {extractor : Option Extractor} {shape : Shape} (hm : m.IsKnown)
    (h : m.construct domain key extractor = .ok shape) : shape.IsKnown := by
  cases m with
  | test t =>
    obtain rfl := Except.ok.inj h
    exact hm.test
  | connective c =>
    obtain rfl := Except.ok.inj h
    trivial
  | feature f =>
    obtain rfl := Except.ok.inj h
    trivial
  | metadata =>
    obtain ⟨c, hc, rfl⟩ := Except.map_eq_ok_iff.1 h
    obtain ⟨hkey, rfl⟩ := Composite.ofKey_eq_ok_iff.1 hc
    exact hkey

theorem Meaning.make_isKnown {m : Meaning} {context : ValueType} {param : Option String}
    {extractor : Option Extractor} {shape : Shape} (hm : m.IsKnown)
    (h : m.make context param extractor = .ok shape) : shape.IsKnown := by
  cases m with
  | test t =>
    obtain ⟨-, rfl⟩ := Meaning.make_test_eq_ok_iff.1 h
    exact hm.test
  | connective c =>
    obtain ⟨-, rfl⟩ := Meaning.make_connective_eq_ok_iff.1 h
    trivial
  | feature f =>
    obtain ⟨-, rfl⟩ := Meaning.make_feature_eq_ok_iff.1 h
    trivial
  | metadata =>
    obtain ⟨key, -, -, hkey, rfl⟩ := Meaning.make_metadata_eq_ok_iff.1 h
    exact hkey

/-- The extractor of a look-up. -/
def Shape.source? : Shape → Option Extractor
  | .composite (.metadata _ source) => some source
  | _ => none

theorem Meaning.source_of_construct {m : Meaning} {domain : ValueType} {key : String}
    {extractor : Option Extractor} {shape : Shape} {source : Extractor}
    (h : m.construct domain key extractor = .ok shape) (hsource : shape.source? = some source) :
    source = lookUpSource extractor := by
  cases m with
  | test t =>
    obtain rfl := Except.ok.inj h
    simp [Shape.source?] at hsource
  | connective c =>
    obtain rfl := Except.ok.inj h
    simp [Shape.source?] at hsource
  | feature f =>
    obtain rfl := Except.ok.inj h
    simp [Shape.source?] at hsource
  | metadata =>
    obtain ⟨c, hc, rfl⟩ := Except.map_eq_ok_iff.1 h
    obtain ⟨-, rfl⟩ := Composite.ofKey_eq_ok_iff.1 hc
    exact (Option.some.inj hsource).symm

theorem Meaning.source_of_make {m : Meaning} {context : ValueType} {param : Option String}
    {extractor : Option Extractor} {shape : Shape} {source : Extractor}
    (h : m.make context param extractor = .ok shape) (hsource : shape.source? = some source) :
    source = lookUpSource extractor := by
  cases m with
  | test t =>
    obtain ⟨-, rfl⟩ := Meaning.make_test_eq_ok_iff.1 h
    simp [Shape.source?] at hsource
  | connective c =>
    obtain ⟨-, rfl⟩ := Meaning.make_connective_eq_ok_iff.1 h
    simp [Shape.source?] at hsource
  | feature f =>
    obtain ⟨-, rfl⟩ := Meaning.make_feature_eq_ok_iff.1 h
    simp [Shape.source?] at hsource
  | metadata =>
    obtain ⟨key, -, -, -, rfl⟩ := Meaning.make_metadata_eq_ok_iff.1 h
    exact (Option.some.inj hsource).symm

theorem Makes.isKnown {extractor : Option Extractor} {context : ValueType} {name : String}
    {param : Option String} {shape : Shape} (h : Makes extractor context name param shape) :
    shape.IsKnown := by
  obtain ⟨m, hm, hmake⟩ := h
  exact Meaning.make_isKnown (Meaning.isKnown_of_ofSymbol? hm) hmake

/-- A symbol stands for one predicate in a context. -/
theorem Makes.unique {extractor : Option Extractor} {context : ValueType} {name : String}
    {param : Option String} {shape shape' : Shape}
    (h : Makes extractor context name param shape)
    (h' : Makes extractor context name param shape') : shape = shape' := by
  obtain ⟨m, hm, hmake⟩ := h
  obtain ⟨m', hm', hmake'⟩ := h'
  obtain rfl := Option.some.inj (hm.symm.trans hm')
  exact Except.ok.inj (hmake.symm.trans hmake')

/-- A look-up is made with the extractor that was given. -/
theorem Makes.metadata_iff {extractor : Option Extractor} {context : ValueType} {name : String}
    {param : Option String} {key : String} {source : Extractor} :
    Makes extractor context name param (.composite (.metadata key source)) ↔
      Meaning.ofSymbol? name = some .metadata ∧ param = some key ∧ key ≠ "" ∧
        key ∈ source.keys ∧ source = lookUpSource extractor := by
  constructor
  · intro h
    obtain ⟨m, hm, hmake⟩ := h
    cases m with
    | test t => simp [Meaning.make_test_eq_ok_iff] at hmake
    | connective c => simp [Meaning.make_connective_eq_ok_iff] at hmake
    | feature f => simp [Meaning.make_feature_eq_ok_iff] at hmake
    | metadata =>
      obtain ⟨key', rfl, hne, hkey, heq⟩ := Meaning.make_metadata_eq_ok_iff.1 hmake
      obtain ⟨rfl, rfl⟩ := Composite.metadata.inj (Shape.composite.inj heq)
      exact ⟨hm, rfl, hne, hkey, rfl⟩
  · intro h
    obtain ⟨hm, rfl, hne, hkey, rfl⟩ := h
    exact ⟨.metadata, hm, Meaning.make_metadata_eq_ok_iff.2 ⟨key, rfl, hne, hkey, rfl⟩⟩

theorem Composite.admits_iff {c : Composite} {count : Nat} :
    c.admits count = true ↔ c.arity.1 ≤ count ∧ ∀ most ∈ c.arity.2, count ≤ most := by
  unfold Composite.admits
  cases c.arity with
  | mk least most => cases most <;> simp

/-- A known composite needs a child. -/
theorem Composite.pos_of_admits {c : Composite} {count : Nat}
    (hc : (Shape.composite c).IsKnown) (h : c.admits count = true) : 0 < count := by
  have hle := (Composite.admits_iff.1 h).1
  cases c with
  | connective c domain => cases c <;> exact hle
  | feature f => exact hle
  | metadata key source => exact hle
  | quorum least most => exact hc.elim

/-! ## Attaching a literal -/

/-- Literal tests are equal if their tests and their literals are: the
pattern follows. -/
theorem LiteralTest.ext {l l' : LiteralTest} (ht : l.test = l'.test)
    (hl : l.literal = l'.literal) : l = l' := by
  obtain ⟨test, literal, pattern, prepared⟩ := l
  obtain ⟨test', literal', pattern', prepared'⟩ := l'
  obtain rfl : test = test' := ht
  obtain rfl : literal = literal' := hl
  obtain rfl : pattern = pattern' := Except.ok.inj (prepared.symm.trans prepared')
  rfl

theorem TextTest.attach_eq_ok_iff {t : TextTest} {literal : String} {l : LiteralTest} :
    t.attach literal = .ok l ↔ l.test = t ∧ l.literal = literal := by
  constructor
  · intro h
    unfold TextTest.attach at h
    split at h
    · obtain rfl := Except.ok.inj h
      exact ⟨rfl, rfl⟩
    · exact absurd h (by simp)
  · intro h
    obtain ⟨rfl, rfl⟩ := h
    unfold TextTest.attach
    split
    · exact congrArg Except.ok (LiteralTest.ext rfl rfl)
    · rename_i why h
      exact absurd (l.prepared.symm.trans h) (by simp)

theorem attachLiteral_eq_ok_iff {shape : Shape} {literal : String} {t : Tree} :
    attachLiteral shape literal = .ok t ↔
      ∃ l : LiteralTest, shape = .test l.test ∧ l.literal = literal ∧ t = .leaf l := by
  cases shape with
  | test test =>
    rw [attachLiteral, Except.map_eq_ok_iff]
    constructor
    · intro h
      obtain ⟨l, hl, rfl⟩ := h
      obtain ⟨rfl, rfl⟩ := TextTest.attach_eq_ok_iff.1 hl
      exact ⟨l, rfl, rfl, rfl⟩
    · intro h
      obtain ⟨l, htest, rfl, rfl⟩ := h
      obtain rfl := Shape.test.inj htest
      exact ⟨l, TextTest.attach_eq_ok_iff.2 ⟨rfl, rfl⟩, rfl⟩
  | composite c => simp [attachLiteral]

/-! ## Attaching children -/

/-- A composite supplies what each of its children consumes. -/
def Composite.Feeds (c : Composite) (children : List Tree) : Prop :=
  ∀ t ∈ children, t.shape.accepts (some c.output) = true

theorem Composite.checkPart_eq_ok_iff {c : Composite} {part : Part} {t : Tree} :
    c.checkPart part = .ok t ↔
      part = .complete t ∧ t.shape.accepts (some c.output) = true := by
  cases part with
  | complete t' =>
    by_cases h : t'.shape.accepts (some c.output) = true
    · simp only [Composite.checkPart, h, if_true, Except.ok.injEq, Part.complete.injEq]
      constructor
      · intro h
        subst h
        exact ⟨rfl, h⟩
      · exact fun h' => h'.1
    · simp only [Composite.checkPart, h, Part.complete.injEq]
      constructor
      · intro h'
        simp at h'
      · intro h
        obtain ⟨rfl, h'⟩ := h
        exact absurd h' h
  | incomplete shape =>
    by_cases h : shape.accepts (some c.output) = true <;> simp [Composite.checkPart, h]
  | value v => simp [Composite.checkPart]

theorem Composite.mapM_checkPart_eq_ok_iff {c : Composite} {parts : List Part}
    {children : List Tree} :
    parts.mapM c.checkPart = .ok children ↔
      parts = children.map .complete ∧ c.Feeds children := by
  induction parts generalizing children with
  | nil =>
    rw [List.mapM_nil]
    constructor
    · intro h
      obtain rfl := Except.ok.inj h
      exact ⟨rfl, by simp [Composite.Feeds]⟩
    · intro h
      obtain ⟨h, -⟩ := h
      obtain rfl := List.map_eq_nil_iff.1 h.symm
      rfl
  | cons part parts ih =>
    simp only [List.mapM_cons, Except.bind_eq_ok_iff, Composite.checkPart_eq_ok_iff, ih]
    constructor
    · intro h
      obtain ⟨t, ⟨rfl, ht⟩, ts, ⟨rfl, hts⟩, h⟩ := h
      obtain rfl := Except.ok.inj h
      exact ⟨rfl, List.forall_mem_cons.2 ⟨ht, hts⟩⟩
    · intro h
      obtain ⟨h, hall⟩ := h
      obtain ⟨t, ts, rfl, rfl, rfl⟩ := List.map_eq_cons_iff.1 h.symm
      obtain ⟨ht, hts⟩ := List.forall_mem_cons.1 hall
      exact ⟨t, ⟨rfl, ht⟩, ts, ⟨rfl, hts⟩, rfl⟩

/-- Children are attached if they are complete, accepted, and as many as the
composite admits. -/
theorem Composite.attach_eq_ok_iff {c : Composite} {parts : List Part} {t : Tree} :
    c.attach parts = .ok t ↔
      ∃ children, parts = children.map .complete ∧ c.admits children.length = true ∧
        c.Feeds children ∧ t = .branch c children := by
  unfold Composite.attach
  split
  · rename_i hadmits
    simp only [Except.map_eq_ok_iff, Composite.mapM_checkPart_eq_ok_iff]
    constructor
    · intro h
      obtain ⟨children, ⟨rfl, hfeeds⟩, rfl⟩ := h
      rw [List.length_map] at hadmits
      exact ⟨children, rfl, hadmits, hfeeds, rfl⟩
    · intro h
      obtain ⟨children, rfl, -, hfeeds, rfl⟩ := h
      exact ⟨children, ⟨rfl, hfeeds⟩, rfl⟩
  · rename_i hadmits
    constructor
    · intro h
      simp at h
    · intro h
      obtain ⟨children, rfl, hadmits', -⟩ := h
      rw [List.length_map] at hadmits
      exact absurd hadmits' hadmits

theorem attachOperands_eq_ok_iff {c : Composite} {children : List Tree} {position : Nat}
    {t : Tree} :
    attachOperands c children position = .ok t ↔
      c.admits children.length = true ∧ c.Feeds children ∧ t = .branch c children := by
  have hinj : Function.Injective (List.map Part.complete) :=
    List.map_injective_iff.2 fun _ _ h => Part.complete.inj h
  unfold attachOperands
  cases h : c.attach (children.map .complete) with
  | ok t' =>
    obtain ⟨children', hparts, hadmits, hfeeds, rfl⟩ := Composite.attach_eq_ok_iff.1 h
    obtain rfl := hinj hparts
    simp [hadmits, hfeeds, eq_comm]
  | error why =>
    constructor
    · intro h'
      simp at h'
    · intro h
      obtain ⟨hadmits, hfeeds, -⟩ := h
      have hok := Composite.attach_eq_ok_iff.2 ⟨children, rfl, hadmits, hfeeds, rfl⟩
      exact absurd (hok.symm.trans h) (by simp)

end ImageSelect.Filter
