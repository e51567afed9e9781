import ImageSelect.Filter.Token

/-!
# Outlines of expressions

The outline of an expression says which symbol has which literal or
operands, and knows nothing of what symbols stand for.  A symbol that is
followed by a literal has that literal and nothing more; any other symbol
takes every operand up to the next closing parenthesis or the end.

Every token list has an outline.  Where it breaks the rules, the outline
holds the offending spot in the place where an operand or an expression is
due, and nothing behind that spot.
-/

namespace ImageSelect.Filter

mutual

/-- The outline of an expression. -/
inductive Outline where
  /-- There is no token where an expression is due. -/
  | missing
  /-- There is a token that starts no expression. -/
  | misplaced (token : Token)
  /-- A symbol and its literal. -/
  | withLiteral (name : String) (param : Option String) (position : Nat) (literal : String)
  /-- A symbol and its operands. -/
  | withOperands (name : String) (param : Option String) (position : Nat) (operands : Operands)

/-- The outline of operands. -/
inductive Operands where
  | done
  /-- An operand without parentheses. -/
  | bare (operand : Outline) (more : Operands)
  /-- An operand in parentheses. -/
  | group (operand : Outline) (more : Operands)
  /-- An operand behind a parenthesis that is not closed. -/
  | unclosed (position : Nat) (operand : Outline)
  /-- A literal where an operand is due. -/
  | stray (literal : String) (position : Nat)

end

mutual

/-- The outline of the expression at the front of a token list, and the
number of tokens that belong to it. -/
def outline : List Token → Outline × Nat
  | [] => (.missing, 0)
  | ⟨.symbol name param, position⟩ :: ⟨.literal text, _⟩ :: _ =>
    (.withLiteral name param position text, 2)
  | ⟨.symbol name param, position⟩ :: rest =>
    let (inner, used) := operands rest
    (.withOperands name param position inner, used + 1)
  | token :: _ => (.misplaced token, 0)
  termination_by tokens => tokens.length

/-- The outline of the operands at the front of a token list, and the number
of tokens that belong to them. -/
def operands : List Token → Operands × Nat
  | [] => (.done, 0)
  | ⟨.rparen, _⟩ :: _ => (.done, 0)
  | ⟨.literal text, position⟩ :: _ => (.stray text position, 0)
  | ⟨.symbol name param, position⟩ :: ⟨.literal text, _⟩ :: rest =>
    let (more, used) := operands rest
    (.bare (.withLiteral name param position text) more, used + 2)
  | ⟨.symbol name param, position⟩ :: rest =>
    let (inner, used) := operands rest
    (.bare (.withOperands name param position inner) .done, used + 1)
  | ⟨.lparen, position⟩ :: rest =>
    let (inner, used) := outline rest
    match h : rest.drop used with
    | ⟨.rparen, _⟩ :: left =>
      have : left.length + 1 ≤ rest.length := by
        have := congrArg List.length h
        simp only [List.length_drop, List.length_cons] at this
        omega
      let (more, usedBehind) := operands left
      (.group inner more, used + usedBehind + 2)
    | _ => (.unclosed position inner, used + 1)
  termination_by tokens => tokens.length

end

/-- The outline of a whole expression, and the first token that does not
belong to it. -/
def outlineAll (tokens : List Token) : Outline × Option Token :=
  let (whole, used) := outline tokens
  (whole, (tokens.drop used).head?)

end ImageSelect.Filter
