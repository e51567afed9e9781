import ImageSelect.Filter.Error

/-!
# Registries of symbols

A registry binds symbols to classes of predicates.  A symbol that is bound
stays bound to its class.  A class carries the symbol under which it was
registered last; one that never was carries the empty one.

Classes can be told apart, also where two have one name.  The name is what
messages show.
-/

namespace ImageSelect.Filter

/-- Symbols with their classes, and classes with the symbols they carry. -/
structure Registry (κ : Type := String) where
  bindings : List (String × κ) := []
  carried : List (κ × String) := []
  deriving Repr, DecidableEq

/-- A symbol that is bound to another class. -/
structure Conflict (κ : Type := String) where
  symbol : String
  existing : κ
  deriving Repr, DecidableEq

/-- What is said of a conflict. -/
def Conflict.message {κ : Type} [ToString κ] (e : Conflict κ) : String :=
  "Symbol '" ++ e.symbol ++ "' is already registered to " ++ toString e.existing

namespace Registry

/-- The logger of registries. -/
def logger : String := "imageset.core.registry"

/-- Sets the value of a key, in its place if the key is there. -/
def put {α β : Type} [DecidableEq α] (key : α) (value : β) : List (α × β) → List (α × β)
  | [] => [(key, value)]
  | (k, v) :: rest => if k = key then (key, value) :: rest else (k, v) :: put key value rest

variable {κ : Type} [DecidableEq κ]

/-- The symbol that a class carries. -/
def symbolOf (r : Registry κ) (c : κ) : String :=
  (r.carried.lookup c).getD ""

/-- Binds a symbol to a class. -/
def register (r : Registry κ) (symbol : String) (c : κ) : Except (Conflict κ) (Registry κ) :=
  match r.bindings.lookup symbol with
  | some existing =>
    if existing = c then .ok (bind r) else .error ⟨symbol, existing⟩
  | none => .ok (bind r)
where
  bind (r : Registry κ) : Registry κ :=
    ⟨put symbol c r.bindings, put c symbol r.carried⟩

/-- The record of a binding. -/
def registered [ToString κ] (symbol : String) (c : κ) : Logging.Record :=
  ⟨.debug, logger, "Registered predicate " ++ toString c ++ " for symbol '" ++ symbol ++ "'"⟩

/-- The class of a symbol. -/
def lookup (r : Registry κ) (symbol : String) : Option κ :=
  r.bindings.lookup symbol

/-- Sorts by code points. -/
def sorted (texts : List String) : List String :=
  texts.mergeSort fun a b => !decide (b < a)

/-- The symbols that are bound, in order. -/
def symbols (r : Registry κ) : List String :=
  sorted (r.bindings.map (·.1))

/-! ## Requests -/

/-- What a registry is asked for. -/
inductive Request (κ : Type) where
  | register (symbol : String) (c : κ)
  | lookup (symbol : String)
  deriving Repr, DecidableEq

/-- Why a registry refuses what it is asked for: a symbol is bound to another
class, or to none. -/
inductive Refusal (κ : Type) where
  | conflict (e : Conflict κ)
  | unknown (symbol : String) (available : List String)
  deriving Repr, DecidableEq

/-- What is said of a refusal. -/
def Refusal.message [ToString κ] : Refusal κ → String
  | .conflict e => e.message
  | .unknown symbol available => unknownMessage symbol available

/-- What comes of a request: a class if one was looked up, or nothing. -/
abbrev Answer (κ : Type) := Except (Refusal κ) (Option κ)

/-- Answers a request. -/
def answer (r : Registry κ) : Request κ → Answer κ × Registry κ
  | .register symbol c =>
    match r.register symbol c with
    | .ok r => (.ok none, r)
    | .error e => (.error (.conflict e), r)
  | .lookup symbol =>
    match r.lookup symbol with
    | some c => (.ok (some c), r)
    | none => (.error (.unknown symbol r.symbols), r)

/-- Answers one request after the other. -/
def answerAll (r : Registry κ) : List (Request κ) → List (Answer κ) × Registry κ
  | [] => ([], r)
  | q :: more =>
    let (a, r) := r.answer q
    let (answers, r) := r.answerAll more
    (a :: answers, r)

end Registry

end ImageSelect.Filter
