import ImageSelect.Filter.Compile
import ImageSelect.Filter.Eval

/-!
# Building trees by hand

Predicates can be made one by one and completed later, a test with a literal
and a composite with children.  A predicate is completed once and never
changes after that; a step that is refused changes nothing.

A composite takes only complete children, so what it holds are trees, and no
predicate can come to stand below itself.

`Action` lists what can be done with a builder, and `Builder.run` does a row
of actions, of which those that are refused change nothing.
-/

namespace ImageSelect.Filter

/-- A predicate under construction or complete.  A complete composite keeps
the numbers of its children beside their trees. -/
inductive Node where
  | fresh (shape : Shape)
  | literal (l : LiteralTest)
  | parent (c : Composite) (ids : List Nat) (children : List Tree)

namespace Node

/-- The predicate of a node. -/
def shape : Node → Shape
  | .fresh shape => shape
  | .literal l => .test l.test
  | .parent c _ _ => .composite c

/-- The tree of a complete node. -/
def tree? : Node → Option Tree
  | .fresh _ => none
  | .literal l => some (.leaf l)
  | .parent c _ children => some (.branch c children)

/-- Whether a node is complete. -/
def isSealed (n : Node) : Bool :=
  n.tree?.isSome

/-- The literal of a complete test. -/
def literal? : Node → Option LiteralTest
  | .literal l => some l
  | _ => none

/-- A node as an expression, as far as it is complete. -/
def render : Node → String
  | .fresh (.test t) => t.render none
  | .fresh (.composite c) => renderChildren c.head []
  | .literal l => l.test.render (some l.literal)
  | .parent c _ children => renderChildren c.head (renderAll children)

/-- What a node is as a child. -/
def part (n : Node) : Part :=
  match n.tree? with
  | some t => .complete t
  | none => .incomplete n.shape

/-- Completes a test with a literal. -/
def setLiteral (n : Node) (v : Value) : Except AttachError Node :=
  match n, v with
  | .fresh (.test t), .text s => (t.attach s).map .literal
  | .fresh (.test t), v => .error (.misuse (.needsText t.symbol v.type))
  | .literal l, _ => .error (.misuse (.alreadyComplete l.test.symbol))
  | .fresh (.composite c), _ => .error (.misuse (.usesChildren c.symbol))
  | .parent c _ _, _ => .error (.misuse (.usesChildren c.symbol))

/-- Completes a composite with children, given by number and part. -/
def setChildren (n : Node) (ids : List Nat) (parts : List Part) : Except PredicateError Node :=
  match n with
  | .fresh (.composite c) => (c.attach parts).map fun t => .parent c ids t.children
  | .parent c _ _ => .error (.alreadyComplete c.symbol)
  | .fresh (.test t) => .error (.usesLiteral t.symbol)
  | .literal l => .error (.usesLiteral l.test.symbol)

/-- Asks a node about a value. -/
def eval [CurrentDirectory] (n : Node) (v : Value) : Run (Except EvalError Bool) :=
  match n.tree? with
  | some t => (t.eval v).run
  | none => return .error (.misuse (.incomplete n.shape.symbol))

end Node

/-- Nodes by number. -/
structure Builder where
  nodes : Array Node := #[]

/-- What is handed over as a child: a node by its number, or a value. -/
inductive Child where
  | node (id : Nat)
  | value (v : Value)

namespace Builder

/-- A node by its number. -/
def node? (b : Builder) (id : Nat) : Option Node :=
  b.nodes[id]?

/-- Adds a node; its number is the number of nodes before it. -/
def add (b : Builder) (shape : Shape) : Builder × Nat :=
  (⟨b.nodes.push (.fresh shape)⟩, b.nodes.size)

/-- The part that a child is; a number that no node has counts as a value. -/
def part (b : Builder) : Child → Part
  | .value v => .value v
  | .node id =>
    match b.node? id with
    | some n => n.part
    | none => .value (.integer id)

/-- The number of a child that is a node. -/
def Child.id? : Child → Option Nat
  | .node id => some id
  | .value _ => none

/-- Completes the test of a number with a literal. -/
def setLiteral (b : Builder) (id : Nat) (v : Value) : Except AttachError Builder :=
  match b.node? id with
  | none => .ok b
  | some n => (n.setLiteral v).map fun n => ⟨b.nodes.setIfInBounds id n⟩

/-- Completes the composite of a number with children. -/
def setChildren (b : Builder) (id : Nat) (children : List Child) :
    Except PredicateError Builder :=
  match b.node? id with
  | none => .ok b
  | some n =>
    (n.setChildren (children.filterMap Child.id?) (children.map b.part)).map fun n =>
      ⟨b.nodes.setIfInBounds id n⟩

/-- What can be done with a builder: make the predicate of a symbol, for a
context or by itself, and complete a predicate. -/
inductive Action where
  | create (symbol : String) (context : ValueType) (param : Option String)
      (extractor : Option Extractor)
  | construct (symbol : String) (domain : ValueType) (key : String)
      (extractor : Option Extractor)
  | setLiteral (id : Nat) (v : Value)
  | setChildren (id : Nat) (children : List Child)

/-- Why an action is refused. -/
inductive ActionError where
  | unknown (symbol : String)
  | attach (why : AttachError)

/-- Adds the predicate that is made of the meaning of a symbol. -/
def addMade (b : Builder) (symbol : String) (make : Meaning → Except PredicateError Shape) :
    Except ActionError Builder :=
  match Meaning.ofSymbol? symbol with
  | none => .error (.unknown symbol)
  | some m =>
    match make m with
    | .ok shape => .ok (b.add shape).1
    | .error why => .error (.attach (.misuse why))

/-- Does something with a builder. -/
def act (b : Builder) : Action → Except ActionError Builder
  | .create symbol context param extractor =>
    b.addMade symbol fun m => m.make context param extractor
  | .construct symbol domain key extractor =>
    b.addMade symbol fun m => m.construct domain key extractor
  | .setLiteral id v => (b.setLiteral id v).mapError .attach
  | .setChildren id children => (b.setChildren id children).mapError (.attach ∘ .misuse)

/-- The builder after an action; a refused one changes nothing. -/
def after (b : Builder) (action : Action) : Builder :=
  match b.act action with
  | .ok next => next
  | .error _ => b

/-- The builder after a row of actions. -/
def run (actions : List Action) : Builder :=
  actions.foldl after {}

end Builder

end ImageSelect.Filter
