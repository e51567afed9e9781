import ImageSelect.Proofs.Filter.Typing

/-!
# How expressions are refused

A text that does not compile is refused for the form of its expression, with
one exception.  The literal of a regular expression is handed over to be
compiled as a pattern, and what that says is wrapped only if the pattern is
malformed; a refusal of another kind is passed on as it is.

`Reaches` says which literals are handed over: compiling goes from left to
right, so it comes to a literal if all before it compiles.
-/

namespace ImageSelect

/-- Whether the refusal of a pattern is passed on as it is. -/
def Regex.Error.isPassedOn : Regex.Error → Bool
  | .malformed _ _ => false
  | _ => true

namespace Filter

/-! ## Attaching a literal -/

theorem literalError_eq_pattern_iff {t : TextTest} {literal : String} {e why : Regex.Error} :
    literalError t literal e = .pattern why ↔ e = why ∧ why.isPassedOn = true := by
  cases e with
  | malformed problem position =>
    constructor
    · intro h
      simp [literalError] at h
    · intro h
      obtain ⟨rfl, h⟩ := h
      simp [Regex.Error.isPassedOn] at h
  | _ =>
    simp only [literalError, AttachError.pattern.injEq]
    constructor
    · intro h
      subst h
      exact ⟨rfl, rfl⟩
    · exact fun h => h.1

theorem TextTest.prepare_eq_error_iff {t : TextTest} {literal : String} {why : Regex.Error} :
    t.prepare literal = .error why ↔
      t = .containRegexp ∧ Regex.compile literal.toList = .error why := by
  cases t <;> simp [TextTest.prepare, Except.map_eq_error_iff]

/-- A refusal is passed on where the literal of a regular expression is no
pattern for another reason than its form. -/
theorem TextTest.attach_eq_pattern_iff {t : TextTest} {literal : String} {why : Regex.Error} :
    t.attach literal = .error (.pattern why) ↔
      t = .containRegexp ∧ Regex.compile literal.toList = .error why ∧
        why.isPassedOn = true := by
  constructor
  · intro h
    unfold TextTest.attach at h
    split at h
    · simp at h
    · rename_i e he
      obtain ⟨rfl, hpassed⟩ := literalError_eq_pattern_iff.1 (Except.error.inj h)
      obtain ⟨ht, hcompile⟩ := TextTest.prepare_eq_error_iff.1 he
      exact ⟨ht, hcompile, hpassed⟩
  · intro h
    obtain ⟨ht, hcompile, hpassed⟩ := h
    have hprepare := TextTest.prepare_eq_error_iff.2 ⟨ht, hcompile⟩
    unfold TextTest.attach
    split
    · rename_i h
      exact absurd (hprepare.symm.trans h) (by simp)
    · rename_i e he
      obtain rfl := Except.error.inj (he.symm.trans hprepare)
      exact congrArg Except.error (literalError_eq_pattern_iff.2 ⟨rfl, hpassed⟩)

theorem attachLiteral_eq_pattern_iff {shape : Shape} {literal : String} {why : Regex.Error} :
    attachLiteral shape literal = .error (.pattern why) ↔
      shape = .test .containRegexp ∧ Regex.compile literal.toList = .error why ∧
        why.isPassedOn = true := by
  cases shape with
  | test t =>
    rw [attachLiteral, Except.map_eq_error_iff, TextTest.attach_eq_pattern_iff,
      Shape.test.injEq]
  | composite c => simp [attachLiteral]

theorem AttachError.atPosition_eq_pattern_iff {e : AttachError} {position : Nat}
    {why : Regex.Error} : e.atPosition position = .pattern why ↔ e = .pattern why := by
  cases e <;> simp [AttachError.atPosition]

/-! ## Steps that pass nothing on -/

theorem makeShape_ne_pattern (extractor : Option Extractor) (context : ValueType)
    (name : String) (param : Option String) (position : Nat) (why : Regex.Error) :
    makeShape extractor context name param position ≠ .error (.pattern why) := by
  unfold makeShape
  split
  · simp
  · split <;> simp

theorem attachOperands_ne_pattern (c : Composite) (children : List Tree) (position : Nat)
    (why : Regex.Error) : attachOperands c children position ≠ .error (.pattern why) := by
  unfold attachOperands
  split <;> simp

mutual

/-- Compiling an outline comes to the literal of a regular expression. -/
inductive Outline.Reaches (extractor : Option Extractor) :
    ValueType → Outline → String → Prop where
  | literal {context : ValueType} {name : String} {param : Option String} {position : Nat}
      {text : String} (made : Makes extractor context name param (.test .containRegexp)) :
      Outline.Reaches extractor context (.withLiteral name param position text) text
  | operand {context : ValueType} {name : String} {param : Option String} {position : Nat}
      {operands : Operands} {c : Composite} {text : String}
      (made : Makes extractor context name param (.composite c))
      (inner : Operands.Reaches extractor c.output operands text) :
      Outline.Reaches extractor context (.withOperands name param position operands) text

/-- Compiling operands comes to the literal of a regular expression. -/
inductive Operands.Reaches (extractor : Option Extractor) :
    ValueType → Operands → String → Prop where
  | bare {context : ValueType} {operand : Outline} {more : Operands} {text : String}
      (first : Outline.Reaches extractor context operand text) :
      Operands.Reaches extractor context (.bare operand more) text
  | behindBare {context : ValueType} {operand : Outline} {more : Operands} {t : Tree}
      {text : String} (compiled : operand.compile extractor context = .ok t)
      (later : Operands.Reaches extractor context more text) :
      Operands.Reaches extractor context (.bare operand more) text
  | group {context : ValueType} {operand : Outline} {more : Operands} {text : String}
      (first : Outline.Reaches extractor context operand text) :
      Operands.Reaches extractor context (.group operand more) text
  | behindGroup {context : ValueType} {operand : Outline} {more : Operands} {t : Tree}
      {text : String} (compiled : operand.compile extractor context = .ok t)
      (later : Operands.Reaches extractor context more text) :
      Operands.Reaches extractor context (.group operand more) text
  | unclosed {context : ValueType} {position : Nat} {operand : Outline} {text : String}
      (first : Outline.Reaches extractor context operand text) :
      Operands.Reaches extractor context (.unclosed position operand) text

end

/-- The refusal of a pattern that is passed on. -/
def PassesOn (text : String) (why : Regex.Error) : Prop :=
  Regex.compile text.toList = .error why ∧ why.isPassedOn = true

section
variable (extractor : Option Extractor)

theorem Operands.reaches_group_iff {context : ValueType} {operand : Outline} {more : Operands}
    {text : String} :
    Operands.Reaches extractor context (.group operand more) text ↔
      Outline.Reaches extractor context operand text ∨
        ∃ t, operand.compile extractor context = .ok t ∧
          Operands.Reaches extractor context more text := by
  constructor
  · intro h
    cases h with
    | group first => exact .inl first
    | behindGroup compiled later => exact .inr ⟨_, compiled, later⟩
  · intro h
    rcases h with first | ⟨t, compiled, later⟩
    · exact .group first
    · exact .behindGroup compiled later

/-- Parentheses leave no mark on what is handed over. -/
theorem Operands.reaches_bare_iff {context : ValueType} {operand : Outline} {more : Operands}
    {text : String} :
    Operands.Reaches extractor context (.bare operand more) text ↔
      Operands.Reaches extractor context (.group operand more) text := by
  rw [Operands.reaches_group_iff]
  constructor
  · intro h
    cases h with
    | bare first => exact .inl first
    | behindBare compiled later => exact .inr ⟨_, compiled, later⟩
  · intro h
    rcases h with first | ⟨t, compiled, later⟩
    · exact .bare first
    · exact .behindBare compiled later

theorem Operands.compile_group_eq_pattern_iff {context : ValueType} {operand : Outline}
    {more : Operands} {why : Regex.Error}
    (ih1 : operand.compile extractor context = .error (.pattern why) ↔
      ∃ text, Outline.Reaches extractor context operand text ∧ PassesOn text why)
    (ih2 : more.compile extractor context = .error (.pattern why) ↔
      ∃ text, Operands.Reaches extractor context more text ∧ PassesOn text why) :
    (Operands.group operand more).compile extractor context = .error (.pattern why) ↔
      ∃ text, Operands.Reaches extractor context (.group operand more) text ∧
        PassesOn text why := by
  simp only [Operands.compile, Except.bind_eq_error_iff, ih1, ih2, Operands.reaches_group_iff]
  constructor
  · intro h
    rcases h with ⟨text, hreaches, hpasses⟩ | ⟨t, ht, ⟨text, hreaches, hpasses⟩ | ⟨ts, -, h⟩⟩
    · exact ⟨text, .inl hreaches, hpasses⟩
    · exact ⟨text, .inr ⟨t, ht, hreaches⟩, hpasses⟩
    · exact absurd h (by simp [pure, Except.pure])
  · intro h
    rcases h with ⟨text, hreaches | ⟨t, ht, hreaches⟩, hpasses⟩
    · exact .inl ⟨text, hreaches, hpasses⟩
    · exact .inr ⟨t, ht, .inl ⟨text, hreaches, hpasses⟩⟩

mutual

/-- What is passed on is the refusal of a literal that is handed over. -/
theorem Outline.compile_eq_pattern_iff (context : ValueType) :
    ∀ (o : Outline) (why : Regex.Error), o.compile extractor context = .error (.pattern why) ↔
      ∃ text, Outline.Reaches extractor context o text ∧ PassesOn text why
  | .missing, why => by
    constructor
    · intro h
      simp [Outline.compile] at h
    · intro h
      obtain ⟨text, h, -⟩ := h
      cases h
  | .misplaced token, why => by
    constructor
    · intro h
      simp [Outline.compile] at h
    · intro h
      obtain ⟨text, h, -⟩ := h
      cases h
  | .withLiteral name param position literal, why => by
    simp only [Outline.compile, Except.bind_eq_error_iff, makeShape_ne_pattern, false_or,
      makeShape_eq_ok_iff, Except.mapError_eq_error_iff, AttachError.atPosition_eq_pattern_iff]
    constructor
    · intro h
      obtain ⟨shape, made, e, he, rfl⟩ := h
      obtain ⟨rfl, hpasses⟩ := attachLiteral_eq_pattern_iff.1 he
      exact ⟨literal, .literal made, hpasses⟩
    · intro h
      obtain ⟨text, hreaches, hpasses⟩ := h
      cases hreaches with
      | literal made =>
        exact ⟨_, made, _, attachLiteral_eq_pattern_iff.2 ⟨rfl, hpasses⟩, rfl⟩
  | .withOperands name param position operands, why => by
    simp only [Outline.compile, Except.bind_eq_error_iff, makeShape_ne_pattern, false_or,
      makeShape_eq_ok_iff]
    constructor
    · intro h
      obtain ⟨shape, made, h⟩ := h
      cases shape with
      | test t => simp at h
      | composite c =>
        simp only [Except.bind_eq_error_iff, attachOperands_ne_pattern, and_false, exists_false,
          or_false] at h
        obtain ⟨text, hreaches, hpasses⟩ :=
          (Operands.compile_eq_pattern_iff c.output operands why).1 h
        exact ⟨text, .operand made hreaches, hpasses⟩
    · intro h
      obtain ⟨text, hreaches, hpasses⟩ := h
      cases hreaches with
      | @operand _ _ _ _ _ c _ made inner =>
        refine ⟨.composite c, made, ?_⟩
        simp only [Except.bind_eq_error_iff]
        exact .inl ((Operands.compile_eq_pattern_iff c.output operands why).2
          ⟨text, inner, hpasses⟩)

theorem Operands.compile_eq_pattern_iff (context : ValueType) :
    ∀ (operands : Operands) (why : Regex.Error),
      operands.compile extractor context = .error (.pattern why) ↔
        ∃ text, Operands.Reaches extractor context operands text ∧ PassesOn text why
  | .done, why => by
    constructor
    · intro h
      simp [Operands.compile] at h
    · intro h
      obtain ⟨text, h, -⟩ := h
      cases h
  | .bare operand more, why => by
    simp only [Operands.compile_bare, Operands.reaches_bare_iff]
    exact Operands.compile_group_eq_pattern_iff extractor
      (Outline.compile_eq_pattern_iff context operand why)
      (Operands.compile_eq_pattern_iff context more why)
  | .group operand more, why =>
    Operands.compile_group_eq_pattern_iff extractor
      (Outline.compile_eq_pattern_iff context operand why)
      (Operands.compile_eq_pattern_iff context more why)
  | .unclosed position operand, why => by
    have ih := Outline.compile_eq_pattern_iff context operand why
    simp only [Operands.compile, Except.bind_eq_error_iff, ih]
    constructor
    · intro h
      rcases h with ⟨text, hreaches, hpasses⟩ | ⟨t, -, h⟩
      · exact ⟨text, .unclosed hreaches, hpasses⟩
      · simp at h
    · intro h
      obtain ⟨text, hreaches, hpasses⟩ := h
      cases hreaches with
      | unclosed first => exact .inl ⟨text, first, hpasses⟩
  | .stray literal position, why => by
    constructor
    · intro h
      simp [Operands.compile] at h
    · intro h
      obtain ⟨text, h, -⟩ := h
      cases h

end

end

/-! ## Texts -/

end Filter

end ImageSelect
