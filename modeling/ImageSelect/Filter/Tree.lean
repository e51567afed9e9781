import ImageSelect.Filter.Error
import ImageSelect.Regex.Pattern

/-!
# Predicate trees

A tree is a predicate with all that it needs: a test with its literal, or a
composite with its children.  Trees are made by `TextTest.attach` and
`Composite.attach`, which refuse misuse.

A literal test carries the proof that its literal was prepared for this very
test, so a compiled pattern always belongs to the literal beside it.
-/

namespace ImageSelect.Filter

/-! ## Literals -/

/-- What a test needs beside its literal: the compiled pattern of a regular
expression. -/
def TextTest.prepare (t : TextTest) (literal : String) :
    Except Regex.Error (Option Regex.Pattern) :=
  match t with
  | .containRegexp => (Regex.compile literal.toList).map some
  | _ => .ok none

/-- A test with its literal. -/
structure LiteralTest where
  test : TextTest
  literal : String
  pattern : Option Regex.Pattern
  prepared : test.prepare literal = .ok pattern

/-- The refusal of a literal. -/
def literalError (t : TextTest) (literal : String) : Regex.Error → AttachError
  | .malformed problem position =>
    .misuse (.badPattern t.symbol literal (.malformed problem position))
  | why => .pattern why

/-- Attaches a literal to a test. -/
def TextTest.attach (t : TextTest) (literal : String) : Except AttachError LiteralTest :=
  match h : t.prepare literal with
  | .ok pattern => .ok ⟨t, literal, pattern, h⟩
  | .error why => .error (literalError t literal why)

/-! ## Trees -/

/-- A complete predicate. -/
inductive Tree where
  | leaf (l : LiteralTest)
  | branch (c : Composite) (children : List Tree)

namespace Tree

/-- The predicate at the root. -/
def shape : Tree → Shape
  | .leaf l => .test l.test
  | .branch c _ => .composite c

/-- The children of the root. -/
def children : Tree → List Tree
  | .leaf _ => []
  | .branch _ children => children

/-- What holds of all leaves and goes from children to parents holds of all
trees. -/
theorem induct {motive : Tree → Prop} (leaf : ∀ l, motive (.leaf l))
    (branch : ∀ c children, (∀ t ∈ children, motive t) → motive (.branch c children)) :
    ∀ t, motive t
  | .leaf l => leaf l
  | .branch c children => branch c children fun t _ => induct leaf branch t

end Tree

/-- The text of a composite before its children. -/
def Composite.head : Composite → String
  | .metadata key _ => metadataSymbol ++ "[" ++ key ++ "]"
  | c => c.symbol

/-- A test with its literal, or a question mark in its place, as it is
written in an expression. -/
def TextTest.render (t : TextTest) (literal : Option String) : String :=
  t.symbol ++ " " ++ literal.elim "?" quoteLiteral

/-- A head and rendered children: one child follows bare, others in
parentheses. -/
def renderChildren (head : String) : List String → String
  | [child] => head ++ " " ++ child
  | children => " ".intercalate (head :: children.map fun child => "(" ++ child ++ ")")

mutual

/-- A tree as an expression. -/
def Tree.render : Tree → String
  | .leaf l => l.test.render (some l.literal)
  | .branch c children => renderChildren c.head (renderAll children)

/-- Trees as expressions. -/
def renderAll : List Tree → List String
  | [] => []
  | t :: ts => t.render :: renderAll ts

end

/-- Rendering trees is rendering each. -/
theorem renderAll_eq_map (ts : List Tree) : renderAll ts = ts.map Tree.render := by
  induction ts with
  | nil => rfl
  | cons t ts ih => simp [renderAll, ih]

/-! ## Look-ups -/

/-- A composite with another extractor for its look-up. -/
def Composite.withSource (source : Extractor) : Composite → Composite
  | .metadata key _ => .metadata key source
  | c => c

mutual

/-- A tree with another extractor for its look-ups. -/
def Tree.withSource (source : Extractor) : Tree → Tree
  | .leaf l => .leaf l
  | .branch c children => .branch (c.withSource source) (withSourceAll source children)

/-- Trees with another extractor for their look-ups. -/
def withSourceAll (source : Extractor) : List Tree → List Tree
  | [] => []
  | t :: ts => t.withSource source :: withSourceAll source ts

end

theorem withSourceAll_eq_map (source : Extractor) (ts : List Tree) :
    withSourceAll source ts = ts.map (Tree.withSource source) := by
  induction ts with
  | nil => rfl
  | cons t ts ih => rw [withSourceAll, ih, List.map_cons]

/-! ## Children -/

/-- Something that is handed over as a child: a predicate, complete or not,
or a value that is no predicate. -/
inductive Part where
  | complete (t : Tree)
  | incomplete (shape : Shape)
  | value (v : Value)

/-- Checks one child: it must be a predicate, consume what the composite
supplies, and be complete. -/
def Composite.checkPart (c : Composite) : Part → Except PredicateError Tree
  | .value v => .error (.noPredicate c.symbol v)
  | .incomplete shape =>
    if shape.accepts (some c.output) then .error (.incompleteChild shape.symbol c.symbol)
    else .error (.mismatch shape.symbol shape.input c.symbol c.output)
  | .complete t =>
    if t.shape.accepts (some c.output) then .ok t
    else .error (.mismatch t.shape.symbol t.shape.input c.symbol c.output)

/-- Attaches children to a composite. -/
def Composite.attach (c : Composite) (parts : List Part) : Except PredicateError Tree :=
  if c.admits parts.length then (parts.mapM c.checkPart).map (.branch c)
  else .error (.arity c.symbol c.arity parts.length)

end ImageSelect.Filter
