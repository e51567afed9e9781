import ImageSelect.Filter.Compiled

/-!
# Selecting candidates

A selection goes through candidates in order and counts them.  One that is not
of the type that the filter is meant for is passed over with a warning; of the
others, those that the filter accepts give a row.

Candidates come from a supply, which makes each one when it is its turn, and may
add to the session then.  A list of candidates is a supply that adds nothing.

A selection breaks off where a predicate or the extractor cannot look at a
candidate, or where a number of a candidate cannot be written.
-/

namespace ImageSelect

/-- Candidates that are made when it is their turn. -/
abbrev Supply := List (Run Value)

/-- The rows of the candidates that were selected. -/
structure Selection where
  keys : List String
  rows : List Row
  seen : Nat
  deriving Repr, DecidableEq

/-- Why a selection breaks off: its expression does not compile, there is a
candidate that a predicate, or the extractor, cannot look at, or a number of a
candidate cannot be written. -/
inductive SelectError where
  | expression (why : Filter.CompileError)
  | predicate (why : Filter.EvalError)
  | extractor (got : ValueType)
  | number (why : Text.WriteError)

/-- What is said of a selection that breaks off. -/
def SelectError.message : SelectError → String
  | .expression why => why.message
  | .predicate why => why.message
  | .extractor got => "the extractor cannot look at " ++ got.name
  | .number why => why.message

namespace Selection

/-- The number of candidates that were selected. -/
def selected (s : Selection) : Nat :=
  s.rows.length

/-- The logger of selections. -/
def logger : String := "imageset.select"

variable [CurrentDirectory]

/-- The row of a candidate that was selected. -/
def rowOf (extractor : Extractor) (candidate : Value) : ExceptT SelectError Run Row :=
  if extractor.reads candidate then (extractor.extract candidate).adapt .number
  else throw (.extractor candidate.type)

/-- Looks at one candidate: its row if it is selected. -/
def consider (f : Filter) (extractor : Extractor) (candidate : Value) :
    ExceptT SelectError Run (Option Row) := do
  if candidate.isA f.candidates then
    if ← (f.ask candidate).adapt .predicate then some <$> rowOf extractor candidate
    else return none
  else
    let form ← ExceptT.adapt .number (liftExcept candidate.shown : Writing String)
    Run.log .warning logger ("Skipping " ++ form ++ ": expected " ++ f.candidates.name)
    return none

/-- How far a selection has come: the rows of the candidates that were selected,
and the number of candidates. -/
structure Progress where
  rows : Array Row := #[]
  seen : Nat := 0

/-- The progress by one more candidate. -/
def Progress.add (p : Progress) (row? : Option Row) : Progress :=
  ⟨row?.elim p.rows p.rows.push, p.seen + 1⟩

/-- Looks at the candidates of a supply, each before the next one is made. -/
def drain (f : Filter) (extractor : Extractor) (p : Progress) :
    Supply → ExceptT SelectError Run Progress
  | [] => return p
  | make :: supply => do
    let candidate ← make
    let row? ← consider f extractor candidate
    drain f extractor (p.add row?) supply

end Selection

variable [CurrentDirectory]

/-- Selects the candidates of a supply that an expression accepts.  Without an
extractor the one for the candidates' type is used. -/
def selectFrom (text : String) (supply : Supply) (extractor : Option Extractor)
    (type : ValueType) : ExceptT SelectError Run Selection := do
  let extractor := extractor.getD (Extractor.forType type .shared)
  let f ← (ExceptT.mk (Filter.ofText text type (some extractor))).adapt .expression
  Run.log .info Selection.logger ("Filtering with: " ++ f.tree.render)
  let p ← Selection.drain f extractor {} supply
  Run.log .info Selection.logger
    ("Selected " ++ toString p.rows.size ++ " of " ++ toString p.seen ++ " candidates")
  return ⟨extractor.keys, p.rows.toList, p.seen⟩

/-- Selects the candidates of a list that an expression accepts. -/
def select (text : String) (candidates : List Value) (extractor : Option Extractor)
    (type : ValueType) : ExceptT SelectError Run Selection :=
  selectFrom text (candidates.map pure) extractor type

end ImageSelect
