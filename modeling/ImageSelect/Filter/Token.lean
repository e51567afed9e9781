import ImageSelect.Text.Quoted
import ImageSelect.Unicode.Space

/-!
# Tokens of filter expressions

An expression is made of parentheses, symbols and literals.  A symbol is a
letter or underscore followed by letters, digits, underscores and hyphens,
all ASCII; a parameter in brackets may follow it directly.  A literal stands
between double quotes, in which a backslash takes the meaning off a quote or
another backslash and stands for itself otherwise.

`Token.scan` reads a text from left to right and gives each token with the
position of its first character.  It stops at the first position where no
token starts.
-/

namespace ImageSelect.Filter

/-- A token without its position. -/
inductive Lexeme where
  | lparen
  | rparen
  | literal (text : String)
  | symbol (name : String) (param : Option String)
  deriving Repr, DecidableEq

/-- A token. -/
structure Token where
  lexeme : Lexeme
  position : Nat
  deriving Repr, DecidableEq

/-- The text of a lexeme in messages. -/
def Lexeme.value : Lexeme → String
  | .lparen => "("
  | .rparen => ")"
  | .literal text => text
  | .symbol name _ => name

/-- Why a text has no tokens. -/
inductive LexError where
  | unterminated (position : Nat)
  | unexpected (c : Char) (position : Nat)
  deriving Repr, DecidableEq

/-- What is said of such a text. -/
def LexError.message : LexError → String
  | .unterminated position =>
    "Unterminated literal starting at position " ++ toString position
  | .unexpected c position =>
    "Unexpected character " ++ Text.quoted (String.ofList [c]) ++ " at position " ++
      toString position

/-! ## Literals -/

/-- The inside of a literal, each quote and backslash behind a backslash. -/
def escapeLiteral : List Char → List Char
  | [] => []
  | c :: rest => if c = '"' || c = '\\' then '\\' :: c :: escapeLiteral rest
    else c :: escapeLiteral rest

/-- A literal as it is written in an expression. -/
def quoteLiteral (text : String) : String :=
  String.ofList ('"' :: escapeLiteral text.toList ++ ['"'])

/-- Reads a literal behind its opening quote: its text and what follows the
closing quote. -/
def readLiteral : List Char → Option (List Char × List Char)
  | [] => none
  | '"' :: rest => some ([], rest)
  | '\\' :: '"' :: rest => (readLiteral rest).map fun (text, after) => ('"' :: text, after)
  | '\\' :: '\\' :: rest => (readLiteral rest).map fun (text, after) => ('\\' :: text, after)
  | c :: rest => (readLiteral rest).map fun (text, after) => (c :: text, after)

/-- A literal uses up at least its closing quote. -/
theorem length_of_readLiteral {text inside after : List Char}
    (h : readLiteral text = some (inside, after)) : after.length < text.length := by
  induction text using readLiteral.induct generalizing inside after with
  | case1 => simp [readLiteral] at h
  | case2 rest =>
    simp only [readLiteral, Option.some.injEq, Prod.mk.injEq] at h
    simp [h.2]
  | case3 rest ih =>
    simp only [readLiteral, Option.map_eq_some_iff, Prod.exists, Prod.mk.injEq] at h
    obtain ⟨t, a, ha, -, rfl⟩ := h
    have := ih ha
    simp only [List.length_cons]
    omega
  | case4 rest ih =>
    simp only [readLiteral, Option.map_eq_some_iff, Prod.exists, Prod.mk.injEq] at h
    obtain ⟨t, a, ha, -, rfl⟩ := h
    have := ih ha
    simp only [List.length_cons]
    omega
  | case5 c rest h1 h2 h3 ih =>
    rw [readLiteral] at h
    · simp only [Option.map_eq_some_iff, Prod.exists, Prod.mk.injEq] at h
      obtain ⟨t, a, ha, -, rfl⟩ := h
      have := ih ha
      simp only [List.length_cons]
      omega
    all_goals assumption

/-! ## Symbols -/

/-- The characters that a symbol may start with. -/
def isSymbolStart (c : Char) : Bool :=
  c.isAlpha || c = '_'

/-- The characters that a symbol may go on with. -/
def isSymbolChar (c : Char) : Bool :=
  c.isAlphanum || c = '_' || c = '-'

/-- The characters of a parameter. -/
def isParamChar (c : Char) : Bool :=
  c ≠ '[' && c ≠ ']' && c ≠ '"' && !Unicode.isSpace c

/-- Reads a parameter in brackets, if a well-formed one is there. -/
def readParam (text : List Char) : Option (List Char × List Char) :=
  match text with
  | '[' :: rest =>
    match rest.takeWhile isParamChar, rest.dropWhile isParamChar with
    | c :: more, ']' :: after => some (c :: more, after)
    | _, _ => none
  | _ => none

/-- A parameter uses up at least its brackets. -/
theorem length_of_readParam {text param after : List Char}
    (h : readParam text = some (param, after)) : after.length < text.length := by
  unfold readParam at h
  split at h
  · rename_i rest
    split at h
    · rename_i c more after' h1 h2
      simp only [Option.some.injEq, Prod.mk.injEq] at h
      have := (List.dropWhile_suffix (l := rest) isParamChar).length_le
      rw [h2] at this
      simp only [List.length_cons] at this ⊢
      rw [← h.2]
      omega
    · simp at h
  · simp at h

/-- Reads a symbol that starts with `first`: the lexeme and what follows. -/
def readSymbol (first : Char) (rest : List Char) : Lexeme × List Char :=
  let name := String.ofList (first :: rest.takeWhile isSymbolChar)
  let after := rest.dropWhile isSymbolChar
  match readParam after with
  | some (param, after) => (.symbol name (some (String.ofList param)), after)
  | none => (.symbol name none, after)

/-- A symbol uses up no more than there is. -/
theorem length_readSymbol (first : Char) (rest : List Char) :
    (readSymbol first rest).2.length ≤ rest.length := by
  have hd := (List.dropWhile_suffix (l := rest) isSymbolChar).length_le
  unfold readSymbol
  simp only
  split
  · rename_i param after h
    exact Nat.le_trans (Nat.le_of_lt (length_of_readParam h)) hd
  · exact hd

/-! ## Scanning -/

/-- The token that starts with `c`, and what follows it. -/
def readLexeme (c : Char) (rest : List Char) : Option (Lexeme × List Char) :=
  if c = '(' then some (.lparen, rest)
  else if c = ')' then some (.rparen, rest)
  else if c = '"' then
    (readLiteral rest).map fun (text, after) => (.literal (String.ofList text), after)
  else if isSymbolStart c then some (readSymbol c rest)
  else none

/-- What follows a token is no more than what follows its first character. -/
theorem length_of_readLexeme {c : Char} {rest after : List Char} {lexeme : Lexeme}
    (h : readLexeme c rest = some (lexeme, after)) : after.length ≤ rest.length := by
  unfold readLexeme at h
  split at h
  · simp only [Option.some.injEq, Prod.mk.injEq] at h
    obtain ⟨-, rfl⟩ := h
    exact Nat.le_refl _
  · split at h
    · simp only [Option.some.injEq, Prod.mk.injEq] at h
      obtain ⟨-, rfl⟩ := h
      exact Nat.le_refl _
    · split at h
      · simp only [Option.map_eq_some_iff, Prod.exists, Prod.mk.injEq] at h
        obtain ⟨t, a, ha, -, rfl⟩ := h
        exact Nat.le_of_lt (length_of_readLiteral ha)
      · split at h
        · simp only [Option.some.injEq] at h
          have := length_readSymbol c rest
          rw [h] at this
          exact this
        · simp at h

/-- Why no token starts with `c`. -/
def lexError (c : Char) (position : Nat) : LexError :=
  if c = '"' then .unterminated position else .unexpected c position

namespace Token

/-- The tokens of `text`, whose first character has the given position. -/
def scan (position : Nat) (text : List Char) : Except LexError (List Token) :=
  match text with
  | [] => .ok []
  | c :: rest =>
    if Unicode.isSpace c then scan (position + 1) rest
    else
      match h : readLexeme c rest with
      | none => .error (lexError c position)
      | some (lexeme, after) =>
        have := length_of_readLexeme h
        match scan (position + (rest.length + 1 - after.length)) after with
        | .ok tokens => .ok (⟨lexeme, position⟩ :: tokens)
        | .error e => .error e
  termination_by text.length
  decreasing_by all_goals simp only [List.length_cons]; omega

end Token

/-- The tokens of an expression. -/
def tokenize (text : String) : Except LexError (List Token) :=
  Token.scan 0 text.toList

end ImageSelect.Filter
