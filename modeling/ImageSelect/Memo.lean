/-!
# Memo cells

A cell keeps the first value that a computation gives and runs no
computation after that.  A computation that fails leaves the cell empty.

`Memo` is what a cell comes to.  `Memo.Fields` is a cell as an object with two
fields, which a request reads and writes one after the other.
-/

namespace ImageSelect

/-- A cell for one value. -/
inductive Memo (α : Type) where
  | empty
  | filled (value : α)
  deriving Repr, DecidableEq

namespace Memo

variable {σ α ε : Type}

/-- Whether a cell has its value. -/
def isFilled : Memo α → Bool
  | .empty => false
  | .filled _ => true

/-- What a request to a cell comes to. -/
structure Reply (ε α : Type) where
  result : Except ε α
  cell : Memo α
  /-- Whether the request's own computation ran. -/
  computed : Bool

/-- Asks a cell for its value, with a computation in case it is empty. -/
def get (cell : Memo α) (compute : Unit → Except ε α) : Reply ε α :=
  match cell with
  | .filled value => ⟨.ok value, cell, false⟩
  | .empty =>
    match compute () with
    | .ok value => ⟨.ok value, .filled value, true⟩
    | .error e => ⟨.error e, .empty, true⟩

/-- A filled cell answers with its value. -/
@[simp] theorem get_filled (value : α) (compute : Unit → Except ε α) :
    (filled value).get compute = ⟨.ok value, .filled value, false⟩ := rfl

/-- An empty cell answers as the computation does. -/
@[simp] theorem result_get_empty (compute : Unit → Except ε α) :
    ((empty : Memo α).get compute).result = compute () := by
  cases h : compute () <;> simp [get, h]

/-! ## Cells as objects -/

/-- The fields of a cell.  Something stands for the value at all times; it
counts once the cell is filled. -/
structure Fields (α : Type) where
  filled : Bool
  value : α
  deriving Repr, DecidableEq

/-- A computation that may change the world around it, and may fail. -/
abbrev Compute (σ ε α : Type) := ExceptT ε (StateM σ) α

/-- Steps on the fields of a cell.  What they have written stays when they fail. -/
abbrev Steps (σ ε α : Type) := ExceptT ε (StateT (Fields α) (StateM σ))

/-- Runs a computation, which cannot reach the fields of the cell. -/
def Steps.outside (compute : Compute σ ε α) : Steps σ ε α α :=
  ExceptT.mk (StateT.lift compute.run)

namespace Fields

/-- What the fields come to. -/
def toMemo (fields : Fields α) : Memo α :=
  if fields.filled then .filled fields.value else .empty

/-- Asks a cell for its value, with a computation in case it is not filled. -/
def request (compute : Compute σ ε α) : Steps σ ε α α := do
  let fields ← MonadState.get
  if fields.filled then return fields.value
  let value ← Steps.outside compute
  modify fun fields => { fields with value }
  modify fun fields => { fields with filled := true }
  return value

/-- Asks a cell again and again, each time with another computation, whether it
fails or not.  Gives for each request what it comes to and the fields after it. -/
def requestAll :
    List (Compute σ ε α) → StateT (Fields α) (StateM σ) (List (Except ε α × Fields α))
  | [] => return []
  | compute :: more => do
    let result ← (request compute).run
    let fields ← MonadState.get
    return (result, fields) :: (← requestAll more)

end Fields

end Memo

end ImageSelect
