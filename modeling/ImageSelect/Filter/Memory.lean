import ImageSelect.Filter.Builder

/-!
# Predicates in memory

Predicates are objects that share their children: a composite holds the numbers
of other objects and not their trees, so trees are only what the references lead
to.  Building proceeds by steps that read and write the fields of objects.  A
step may break off, and what was written before it stays written.

A question to a composite is passed on to the objects that it refers to.  How
deep calls may be nested is given; a question that would go deeper is cut off.
-/

namespace ImageSelect.Filter

/-! ## Objects -/

/-- The fields of a predicate. -/
structure Cell where
  shape : Shape
  literal? : Option String := none
  pattern? : Option Regex.Pattern := none
  children? : Option (List Nat) := none

/-- Whether a predicate is complete. -/
def Cell.isSealed (cell : Cell) : Bool :=
  match cell.shape with
  | .test _ => cell.literal?.isSome
  | .composite _ => cell.children?.isSome

/-- Predicates by number. -/
structure Memory where
  cells : Array Cell := #[]

/-- The predicate of a number. -/
def Memory.cell? (m : Memory) (id : Nat) : Option Cell :=
  m.cells[id]?

/-- Adds a predicate; its number is the number of predicates before it. -/
def Memory.add (m : Memory) (cell : Cell) : Memory :=
  ⟨m.cells.push cell⟩

/-- Writes fields of the predicate of a number. -/
def Memory.update (m : Memory) (id : Nat) (f : Cell → Cell) : Memory :=
  ⟨m.cells.modify id f⟩

/-- Why an operation breaks off: an action is refused, a predicate does not
answer or compiles its pattern in vain, there is no predicate, or calls are
nested too deep. -/
inductive OperationError where
  | refused (why : Builder.ActionError)
  | eval (why : EvalError)
  | pattern (why : Regex.Error)
  | missing (id : Nat)
  | tooDeep

/-- An action that is refused because of misuse. -/
def OperationError.misuse (why : PredicateError) : OperationError :=
  .refused (.attach (.misuse why))

/-! ## Building -/

/-- Steps on a memory.  What they have written stays when they break off. -/
abbrev Steps := ExceptT OperationError (StateM Memory)

namespace Steps

/-- Breaks off because of misuse. -/
def refuse {α : Type} (why : PredicateError) : Steps α :=
  throw (.misuse why)

/-- Reads the fields of a predicate. -/
def read? (id : Nat) : Steps (Option Cell) :=
  return (← get).cell? id

/-- Writes fields of a predicate. -/
def update (id : Nat) (f : Cell → Cell) : Steps Unit :=
  modify (·.update id f)

/-- Makes the predicate of a meaning. -/
def make (symbol : String) (shapeOf : Meaning → Except PredicateError Shape) : Steps Unit :=
  match Meaning.ofSymbol? symbol with
  | none => throw (.refused (.unknown symbol))
  | some meaning =>
    match shapeOf meaning with
    | .ok shape => modify (·.add { shape })
    | .error why => refuse why

/-- Prepares a literal for a test and keeps its pattern. -/
def prepare (id : Nat) (t : TextTest) (literal : String) : Steps Unit :=
  match t.prepare literal with
  | .ok none => return ()
  | .ok (some pattern) => update id fun cell => { cell with pattern? := some pattern }
  | .error why => throw (.refused (.attach (literalError t literal why)))

/-- Completes a test with a literal. -/
def setLiteral (id : Nat) (v : Value) : Steps Unit := do
  match ← read? id with
  | none => return ()
  | some cell =>
    match cell.shape with
    | .composite c => refuse (.usesChildren c.symbol)
    | .test t =>
      if cell.isSealed then refuse (.alreadyComplete t.symbol)
      match v with
      | .text literal =>
        prepare id t literal
        update id fun cell => { cell with literal? := some literal }
      | v => refuse (.needsText t.symbol v.type)

/-- Checks one child of a composite. -/
def checkChild (c : Composite) (child : Child) : Steps Unit := do
  match child with
  | .value v => refuse (.noPredicate c.symbol v)
  | .node id =>
    match ← read? id with
    | none => refuse (.noPredicate c.symbol (.integer id))
    | some cell =>
      if !cell.shape.accepts (some c.output) then
        refuse (.mismatch cell.shape.symbol cell.shape.input c.symbol c.output)
      if !cell.isSealed then refuse (.incompleteChild cell.shape.symbol c.symbol)

/-- Checks the children of a composite from left to right. -/
def checkChildren (c : Composite) : List Child → Steps Unit
  | [] => return ()
  | child :: children => do
    checkChild c child
    checkChildren c children

/-- Completes a composite with children. -/
def setChildren (id : Nat) (children : List Child) : Steps Unit := do
  match ← read? id with
  | none => return ()
  | some cell =>
    match cell.shape with
    | .test t => refuse (.usesLiteral t.symbol)
    | .composite c =>
      if cell.isSealed then refuse (.alreadyComplete c.symbol)
      if !c.admits children.length then
        refuse (.arity c.symbol c.arity children.length)
      checkChildren c children
      update id fun cell =>
        { cell with children? := some (children.filterMap Builder.Child.id?) }

/-- Does what can be done with a builder. -/
def build : Builder.Action → Steps Unit
  | .create symbol context param extractor =>
    make symbol fun meaning => meaning.make context param extractor
  | .construct symbol domain key extractor =>
    make symbol fun meaning => meaning.construct domain key extractor
  | .setLiteral id v => setLiteral id v
  | .setChildren id children => setChildren id children

end Steps

/-! ## Asking -/

variable [CurrentDirectory]

/-- A question to a predicate in memory. -/
abbrev Question := ExceptT OperationError Run

/-- What a predicate says to a question by itself. -/
def Question.ofInquiry {α : Type} (x : Inquiry α) : Question α :=
  x.adapt OperationError.eval

/-- Asks a test about a value, with a literal and its pattern. -/
def TextTest.evalOn (t : TextTest) (pattern : Option Regex.Pattern) (literal : String)
    (v : Value) : Inquiry Bool := do
  t.note
  match v, t with
  | .text s, _ => return t.holds pattern s literal
  | .list items, .contain => return items.any (·.same (.text literal))
  | .record fields, .contain => return fields.any (·.1 = literal)
  | _, .eq => return false
  | _, .probe _ => return t.holds pattern "" literal
  | v, t => throw (.unsupported t.symbol v.type)

section
variable (ask : Nat → Value → Question Bool)

/-- Asks the first child of a predicate. -/
def askFirst (symbol : String) : List Nat → Value → Question Bool
  | [], _ => throw (.eval (.childless symbol))
  | child :: _, v => ask child v

/-- Asks children until one rejects. -/
def askAll : List Nat → Value → Question Bool
  | [], _ => return true
  | child :: children, v => do if ← ask child v then askAll children v else return false

/-- Asks children until one accepts. -/
def askAny : List Nat → Value → Question Bool
  | [], _ => return false
  | child :: children, v => do if ← ask child v then return true else askAny children v

/-- Asks all children and counts those that accept. -/
def askCount : List Nat → Value → Question Nat
  | [], _ => return 0
  | child :: children, v => do
    let passes ← ask child v
    let count ← askCount children v
    return count + (if passes then 1 else 0)

/-- Asks a composite about a value, with its children. -/
def Composite.evalOn (c : Composite) (children : List Nat) (v : Value) : Question Bool :=
  match c with
  | .connective .and _ => askAll ask children v
  | .connective .or _ => askAny ask children v
  | .connective .does _ => askFirst ask c.symbol children v
  | .connective .not _ | .connective .doesNot _ => (!·) <$> askFirst ask c.symbol children v
  | .feature f => do
    match ← Question.ofInquiry (f.textOf? v) with
    | none => return false
    | some s => askFirst ask c.symbol children (.text s)
  | .metadata key source => do
    match ← Question.ofInquiry (lookUp key source v) with
    | none => return false
    | some s => askFirst ask c.symbol children (.text s)
  | .quorum least _ => (least ≤ ·) <$> askCount ask children v

end

/-- The pattern of a complete test; one that is not kept is compiled. -/
def Cell.patternFor (cell : Cell) (t : TextTest) (literal : String) :
    Except OperationError (Option Regex.Pattern) :=
  match cell.pattern? with
  | some pattern => .ok (some pattern)
  | none => (t.prepare literal).mapError .pattern

/-- The pattern of a test for a literal that is given.  One that is kept serves
only the literal beside it; for any other literal a pattern is compiled. -/
def Cell.patternGiven (cell : Cell) (t : TextTest) (literal : String) :
    Except OperationError (Option Regex.Pattern) :=
  match cell.pattern? with
  | some pattern =>
    if cell.literal? = some literal then .ok (some pattern)
    else (t.prepare literal).mapError .pattern
  | none => (t.prepare literal).mapError .pattern

namespace Memory

/-- Asks the predicate of a number about a value, with calls nested up to a
depth. -/
def evalAt (m : Memory) : Nat → Nat → Value → Question Bool
  | 0, _, _ => throw .tooDeep
  | depth + 1, id, v =>
    match m.cell? id with
    | none => throw (.missing id)
    | some cell =>
      match cell.shape with
      | .test t =>
        match cell.literal? with
        | none => throw (.eval (.misuse (.incomplete t.symbol)))
        | some literal => do
          let pattern ← liftExcept (cell.patternFor t literal)
          Question.ofInquiry (t.evalOn pattern literal v)
      | .composite c =>
        match cell.children? with
        | none => throw (.eval (.misuse (.incomplete c.symbol)))
        | some children => c.evalOn (evalAt m depth) children v

/-- Asks the test of a number about a value, with a literal that is given.  The
test need not be complete. -/
def evalLiteralAt (m : Memory) (id : Nat) (v : Value) (literal : String) : Question Bool :=
  match m.cell? id with
  | none => throw (.missing id)
  | some cell =>
    match cell.shape with
    | .composite _ => throw (.missing id)
    | .test t => do
      let pattern ← liftExcept (cell.patternGiven t literal)
      Question.ofInquiry (t.evalOn pattern literal v)

/-! ## Operations -/

/-- What can be done with predicates: build them and ask them. -/
inductive Operation where
  | build (action : Builder.Action)
  | eval (id : Nat) (v : Value)

/-- Performs an operation, with calls nested up to a depth, and gives the answer
of a predicate that was asked. -/
def perform (depth : Nat) (m : Memory) :
    Operation → Run (Except OperationError (Option Bool) × Memory)
  | .build action =>
    let (result, m) := (Steps.build action).run.run m
    return (result.map fun _ => none, m)
  | .eval id v => do
    let answer ← (m.evalAt depth id v).run
    return (answer.map some, m)

/-- The memory after a row of operations, whether they break off or not. -/
def performAll (depth : Nat) (m : Memory) : List Operation → Run Memory
  | [] => return m
  | operation :: operations => do
    let (_, m) ← m.perform depth operation
    performAll depth m operations

/-- What can be done with predicates if tests may be handed a literal too. -/
inductive Call where
  | operation (operation : Operation)
  | evalLiteral (id : Nat) (v : Value) (literal : String)

/-- Makes a call, with predicates asked by one another up to a depth, and gives
the answer of a predicate that was asked. -/
def call (depth : Nat) (m : Memory) :
    Call → Run (Except OperationError (Option Bool) × Memory)
  | .operation operation => m.perform depth operation
  | .evalLiteral id v literal => do
    let answer ← (m.evalLiteralAt id v literal).run
    return (answer.map some, m)

/-- The memory after a row of calls, whether they break off or not. -/
def callAll (depth : Nat) (m : Memory) : List Call → Run Memory
  | [] => return m
  | call :: calls => do
    let (_, m) ← m.call depth call
    callAll depth m calls

end Memory

end ImageSelect.Filter
