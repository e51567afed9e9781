import ImageSelect.Filter.Predicate
import ImageSelect.Filter.Token
import ImageSelect.Regex.Error

/-!
# What is wrong with a filter

`PredicateError` is misuse of a single predicate: while it is made, while
its literal or its children are attached, and while it is evaluated too
early.  `EvalError` is why an evaluation breaks off.  `ExpressionError` is
what is wrong with the text of an expression; misuse of a predicate then comes
with the position of its symbol.

A pattern may also be refused for a reason that is no fault of the
expression's form (see `Regex.Error`).  Such a reason is not wrapped.
-/

namespace ImageSelect.Filter

/-- Misuse of a predicate. -/
inductive PredicateError where
  | takesNoParameter (symbol : String)
  | needsKey
  | unknownKey (key : String) (available : List String)
  | alreadyComplete (symbol : String)
  | incomplete (symbol : String)
  | usesLiteral (symbol : String)
  | usesChildren (symbol : String)
  | needsText (symbol : String) (got : ValueType)
  | badPattern (symbol literal : String) (why : Regex.Error)
  | arity (symbol : String) (bounds : Nat × Option Nat) (got : Nat)
  | noPredicate (symbol : String) (child : Value)
  | mismatch (child : String) (consumes : ValueType) (symbol : String) (supplies : ValueType)
  | incompleteChild (child symbol : String)

/-- The bounds on a number of children, in words. -/
def arityText : Nat × Option Nat → String
  | (least, none) => "at least " ++ toString least ++ " subpredicate(s)"
  | (least, some most) =>
    if most = least then "exactly " ++ toString least ++ " subpredicate(s)"
    else toString least ++ " to " ++ toString most ++ " subpredicates"

/-- What is said of misuse. -/
def PredicateError.message : PredicateError → String
  | .takesNoParameter symbol => "'" ++ symbol ++ "' does not take a parameter"
  | .needsKey =>
    "'" ++ metadataSymbol ++ "' needs a key, e.g. " ++ metadataSymbol ++ "[Series]"
  | .unknownKey key available =>
    "Unknown metadata key '" ++ key ++ "'. Available: " ++ Text.quotedList available
  | .alreadyComplete symbol => "'" ++ symbol ++ "' is already complete"
  | .incomplete symbol => "'" ++ symbol ++ "' is incomplete"
  | .usesLiteral symbol => "'" ++ symbol ++ "' uses a literal, not subpredicates"
  | .usesChildren symbol => "'" ++ symbol ++ "' uses subpredicates, not a literal"
  | .needsText symbol got => "'" ++ symbol ++ "' needs a string literal, got " ++ got.name
  | .badPattern symbol literal why =>
    "Invalid regular expression for '" ++ symbol ++ "': " ++ Text.quoted literal ++ " (" ++
      why.message literal.toList ++ ")"
  | .arity symbol bounds got =>
    "'" ++ symbol ++ "' takes " ++ arityText bounds ++ ", got " ++ toString got
  | .noPredicate symbol child =>
    Text.messageOr (("'" ++ symbol ++ "' got a non-predicate child: " ++ ·) <$> child.shown)
  | .mismatch child consumes symbol supplies =>
    "'" ++ child ++ "' consumes " ++ consumes.name ++ " but '" ++ symbol ++ "' supplies " ++
      supplies.name
  | .incompleteChild child symbol => "'" ++ child ++ "' under '" ++ symbol ++ "' is incomplete"

/-- Why attaching a literal fails: misuse, or a pattern whose refusal is
passed on as it is. -/
inductive AttachError where
  | misuse (why : PredicateError)
  | pattern (why : Regex.Error)

/-- Why a predicate does not answer: it is misused, it cannot look at a value
of this type, it has no child to ask, or a number of the value cannot be
written. -/
inductive EvalError where
  | misuse (why : PredicateError)
  | unsupported (symbol : String) (got : ValueType)
  | childless (symbol : String)
  | number (why : Text.WriteError)

/-- What is said of a predicate that does not answer. -/
def EvalError.message : EvalError → String
  | .misuse why => why.message
  | .unsupported symbol got => "'" ++ symbol ++ "' cannot look at " ++ got.name
  | .childless symbol => "'" ++ symbol ++ "' has no child"
  | .number why => why.message

/-- What is wrong with the text of an expression. -/
inductive ExpressionError where
  | lexical (why : LexError)
  | empty
  | ended
  | expected (position : Nat) (got : String)
  | unknown (symbol : String)
  | misused (why : PredicateError) (position : Nat)
  | expectsLiteral (symbol : String) (position : Nat)
  | unclosed (position : Nat)
  | strayLiteral (text : String) (position : Nat)
  | extra (value : String) (position : Nat)
  | inapplicable (symbol : String) (candidates : ValueType)

/-- What is said of an unknown symbol. -/
def unknownMessage (symbol : String) (available : List String) : String :=
  "Unknown predicate '" ++ symbol ++ "'. Available: " ++ Text.quotedList available

/-- What is said of the text of an expression. -/
def ExpressionError.message : ExpressionError → String
  | .lexical why => why.message
  | .empty => "Empty filter expression"
  | .ended => "Expression ended where a predicate was expected"
  | .expected position got =>
    "Expected a predicate at position " ++ toString position ++ ", got " ++ Text.quoted got
  | .unknown symbol => unknownMessage symbol knownSymbols
  | .misused why position => why.message ++ " (at position " ++ toString position ++ ")"
  | .expectsLiteral symbol position =>
    "'" ++ symbol ++ "' at position " ++ toString position ++ " expects a literal"
  | .unclosed position => "Missing ')' for '(' at position " ++ toString position
  | .strayLiteral text position =>
    "Unexpected literal " ++ Text.quoted text ++ " at position " ++ toString position
  | .extra value position =>
    "Unexpected " ++ Text.quoted value ++ " at position " ++ toString position
  | .inapplicable symbol candidates =>
    "'" ++ symbol ++ "' cannot be applied to " ++ candidates.name ++ " candidates"

/-- Why an expression does not compile: its text, or a pattern whose refusal
is passed on as it is. -/
inductive CompileError where
  | expression (why : ExpressionError)
  | pattern (why : Regex.Error)

/-- The refusal of a predicate at a position. -/
def AttachError.atPosition (position : Nat) : AttachError → CompileError
  | .misuse why => .expression (.misused why position)
  | .pattern why => .pattern why

/-- What is said of an expression that does not compile.  Refusals that are
passed on show nothing of the pattern. -/
def CompileError.message : CompileError → String
  | .expression why => why.message
  | .pattern why => why.message []

end ImageSelect.Filter
