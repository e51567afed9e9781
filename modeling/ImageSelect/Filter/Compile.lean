import ImageSelect.Filter.Outline
import ImageSelect.Filter.Tree

/-!
# Compiling expressions

An outline becomes a tree from left to right: a symbol is looked up and made
for its context, then its literal or its operands are compiled and attached.
The first thing that is wrong on this way is the error.

A metadata look-up uses the extractor that it is given, and otherwise one of
its own for planes.
-/

namespace ImageSelect.Filter

/-- The extractor of metadata look-ups. -/
def lookUpSource (extractor : Option Extractor) : Extractor :=
  extractor.getD (Extractor.plane .own)

/-- The look-up of a key, which its extractor must declare. -/
def Composite.ofKey (key : String) (extractor : Option Extractor) :
    Except PredicateError Composite :=
  let source := lookUpSource extractor
  if source.keys.contains key then .ok (.metadata key source)
  else .error (.unknownKey key source.keys)

/-- Makes the predicate of a meaning by itself, a connective over a given
type. -/
def Meaning.construct (m : Meaning) (domain : ValueType) (key : String)
    (extractor : Option Extractor) : Except PredicateError Shape :=
  match m with
  | .test t => .ok (.test t)
  | .connective c => .ok (.composite (.connective c domain))
  | .feature f => .ok (.composite (.feature f))
  | .metadata => (Composite.ofKey key extractor).map .composite

/-- Makes the predicate of a meaning for a context that supplies values of a
type. -/
def Meaning.make (m : Meaning) (context : ValueType) (param : Option String)
    (extractor : Option Extractor) : Except PredicateError Shape :=
  match m, param with
  | .metadata, none | .metadata, some "" => .error .needsKey
  | .metadata, some key => (Composite.ofKey key extractor).map .composite
  | m, some _ => .error (.takesNoParameter m.symbol)
  | .test t, none => .ok (.test t)
  | .connective c, none => .ok (.composite (.connective c context))
  | .feature f, none => .ok (.composite (.feature f))

/-- Looks up a symbol and makes its predicate. -/
def makeShape (extractor : Option Extractor) (context : ValueType) (name : String)
    (param : Option String) (position : Nat) : Except CompileError Shape :=
  match Meaning.ofSymbol? name with
  | none => .error (.expression (.unknown name))
  | some m =>
    match m.make context param extractor with
    | .ok shape => .ok shape
    | .error why => .error (.expression (.misused why position))

/-- Attaches a literal to a predicate. -/
def attachLiteral (shape : Shape) (literal : String) : Except AttachError Tree :=
  match shape with
  | .test t => (t.attach literal).map .leaf
  | .composite c => .error (.misuse (.usesChildren c.symbol))

/-- Attaches compiled operands to a composite. -/
def attachOperands (c : Composite) (children : List Tree) (position : Nat) :
    Except CompileError Tree :=
  match c.attach (children.map .complete) with
  | .ok t => .ok t
  | .error why => .error (.expression (.misused why position))

mutual

/-- Compiles an outline for a context that supplies values of a type. -/
def Outline.compile (extractor : Option Extractor) (context : ValueType) :
    Outline → Except CompileError Tree
  | .missing => .error (.expression .ended)
  | .misplaced token => .error (.expression (.expected token.position token.lexeme.value))
  | .withLiteral name param position literal => do
    let shape ← makeShape extractor context name param position
    (attachLiteral shape literal).mapError (·.atPosition position)
  | .withOperands name param position operands => do
    match ← makeShape extractor context name param position with
    | .test _ => .error (.expression (.expectsLiteral name position))
    | .composite c => do
      let children ← operands.compile extractor c.output
      attachOperands c children position

/-- Compiles operands for a context that supplies values of a type. -/
def Operands.compile (extractor : Option Extractor) (context : ValueType) :
    Operands → Except CompileError (List Tree)
  | .done => .ok []
  | .bare operand more => do
    let t ← operand.compile extractor context
    let ts ← more.compile extractor context
    return t :: ts
  | .group operand more => do
    let t ← operand.compile extractor context
    let ts ← more.compile extractor context
    return t :: ts
  | .unclosed position operand => do
    let _ ← operand.compile extractor context
    .error (.expression (.unclosed position))
  | .stray literal position => .error (.expression (.strayLiteral literal position))

end

/-- The tree of a whole expression: no token may be left over, and it must
consume the type of the candidates. -/
def settle (candidates : ValueType) (extra : Option Token) (t : Tree) :
    Except CompileError Tree :=
  match extra with
  | some token => .error (.expression (.extra token.lexeme.value token.position))
  | none =>
    if t.shape.accepts (some candidates) then .ok t
    else .error (.expression (.inapplicable t.shape.symbol candidates))

/-- Compiles the tokens of an expression for candidates of a type. -/
def compileTokens (extractor : Option Extractor) (candidates : ValueType) (tokens : List Token) :
    Except CompileError Tree :=
  if tokens.isEmpty then .error (.expression .empty)
  else do
    let t ← (outlineAll tokens).1.compile extractor candidates
    settle candidates (outlineAll tokens).2 t

/-- Compiles the text of an expression for candidates of a type. -/
def compileText (extractor : Option Extractor) (candidates : ValueType) (text : String) :
    Except CompileError Tree :=
  match tokenize text with
  | .error why => .error (.expression (.lexical why))
  | .ok tokens => compileTokens extractor candidates tokens

end ImageSelect.Filter
