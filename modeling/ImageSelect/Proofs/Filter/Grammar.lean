import Mathlib.Data.List.Chain
import ImageSelect.Filter.Outline

/-!
# The grammar of expressions

An expression is a symbol with a literal, or a symbol with operands.  An
operand stands in parentheses or is bare.  A bare operand that has operands of
its own takes every operand behind it, up to the parenthesis that closes
around it or the end, so it is always the last of its list.

`Derives` and `DerivesAll` say so for lists of lexemes and mention no token
counts.  The outline of a token list is computed with such counts.

There are three groups.

* From an outline to a derivation.  `expr?` reads the expression off an
  outline that holds no offending spot, and `outlineSound_and_operandsSound`
  says that the tokens which belong to the outline derive it.
* From a derivation to an outline.  `outlined_of_derives` is the induction over
  derivations.  What follows the expression is closed: the end, or a closing
  parenthesis.
* Whole token lists.  `outlineAll_iff_derives` joins the two, and
  `Derives.unique` reads off that no list derives two expressions.

At the end, `BareOperand` says where an expression has a bare operand, and
`BareOperand.derives_group` that parentheses around it change nothing.
`Derives.not_doubled` says that parentheses are never doubled.
-/

namespace ImageSelect.Filter

/-! ## The grammar -/

/-- An expression without its spelling: symbols with literals or operands. -/
inductive Expr where
  | literal (name : String) (param : Option String) (text : String)
  | composite (name : String) (param : Option String) (operands : List Expr)

mutual

/-- The expressions that a list of lexemes spells. -/
inductive Derives : List Lexeme → Expr → Prop where
  | literal (name : String) (param : Option String) (text : String) :
      Derives [.symbol name param, .literal text] (.literal name param text)
  | composite {lexemes : List Lexeme} {operands : List Expr} (name : String)
      (param : Option String) (inner : DerivesAll lexemes operands) (nonempty : operands ≠ []) :
      Derives (.symbol name param :: lexemes) (.composite name param operands)

/-- The operands that a list of lexemes spells.  A bare composite stands for
all that is left of the list. -/
inductive DerivesAll : List Lexeme → List Expr → Prop where
  | done : DerivesAll [] []
  | bareLiteral {lexemes rest : List Lexeme} {more : List Expr} {name : String}
      {param : Option String} {text : String}
      (operand : Derives lexemes (.literal name param text)) (behind : DerivesAll rest more) :
      DerivesAll (lexemes ++ rest) (.literal name param text :: more)
  | bareComposite {lexemes : List Lexeme} {name : String} {param : Option String}
      {operands : List Expr} (operand : Derives lexemes (.composite name param operands)) :
      DerivesAll lexemes [.composite name param operands]
  | group {lexemes rest : List Lexeme} {e : Expr} {more : List Expr}
      (operand : Derives lexemes e) (behind : DerivesAll rest more) :
      DerivesAll (.lparen :: (lexemes ++ .rparen :: rest)) (e :: more)

end

/-- The lexemes of tokens. -/
def lexemes (tokens : List Token) : List Lexeme :=
  tokens.map Token.lexeme

@[simp] theorem lexemes_cons (token : Token) (tokens : List Token) :
    lexemes (token :: tokens) = token.lexeme :: lexemes tokens := rfl

@[simp] theorem lexemes_append (front back : List Token) :
    lexemes (front ++ back) = lexemes front ++ lexemes back :=
  List.map_append

/-! ## From an outline to a derivation -/

mutual

/-- The expression of an outline that holds no offending spot and in which
every composite has an operand. -/
def Outline.expr? : Outline → Option Expr
  | .missing | .misplaced _ => none
  | .withLiteral name param _ text => some (.literal name param text)
  | .withOperands name param _ operands =>
    match operands.exprs? with
    | none | some [] => none
    | some (e :: more) => some (.composite name param (e :: more))

/-- The expressions of operands that hold no offending spot. -/
def Operands.exprs? : Operands → Option (List Expr)
  | .done => some []
  | .bare operand more | .group operand more =>
    match operand.expr?, more.exprs? with
    | some e, some es => some (e :: es)
    | _, _ => none
  | .unclosed _ _ | .stray _ _ => none

end

/-- The operands behind the expression of a composite. -/
theorem Outline.expr?_withOperands_eq_some {name : String} {param : Option String}
    {position : Nat} {inner : Operands} {e : Expr}
    (h : (Outline.withOperands name param position inner).expr? = some e) :
    ∃ es, inner.exprs? = some es ∧ es ≠ [] ∧ e = .composite name param es := by
  rw [Outline.expr?] at h
  split at h
  · exact absurd h (by simp)
  · exact absurd h (by simp)
  · rename_i e' more hinner
    exact ⟨e' :: more, hinner, by simp, (Option.some.inj h).symm⟩

/-- The expression of a composite with operands. -/
theorem Outline.expr?_withOperands {name : String} {param : Option String} {position : Nat}
    {inner : Operands} {es : List Expr} (h : inner.exprs? = some es) (hne : es ≠ []) :
    (Outline.withOperands name param position inner).expr? = some (.composite name param es) := by
  cases es with
  | nil => exact absurd rfl hne
  | cons e more => rw [Outline.expr?, h]

/-- The parts of the expressions of two operands or more. -/
theorem Operands.exprs?_group_eq_some {operand : Outline} {more : Operands} {es : List Expr}
    (h : (Operands.group operand more).exprs? = some es) :
    ∃ e rest, operand.expr? = some e ∧ more.exprs? = some rest ∧ es = e :: rest := by
  rw [Operands.exprs?] at h
  split at h
  · rename_i e rest he hrest
    exact ⟨e, rest, he, hrest, (Option.some.inj h).symm⟩
  · exact absurd h (by simp)

/-- Parentheses leave no mark on the expressions of operands. -/
theorem Operands.exprs?_bare (operand : Outline) (more : Operands) :
    (Operands.bare operand more).exprs? = (Operands.group operand more).exprs? := by
  rw [Operands.exprs?, Operands.exprs?]

theorem Operands.exprs?_group {operand : Outline} {more : Operands} {e : Expr}
    {es : List Expr} (he : operand.expr? = some e) (hes : more.exprs? = some es) :
    (Operands.group operand more).exprs? = some (e :: es) := by
  rw [Operands.exprs?, he, hes]

/-! ## The outline, row by row -/

/-- Whether a token list starts with a literal. -/
def startsWithLiteral : List Token → Bool
  | ⟨.literal _, _⟩ :: _ => true
  | _ => false

theorem ne_literal_cons {rest : List Token} (h : startsWithLiteral rest = false)
    (text : String) (position : Nat) (tail : List Token) :
    rest ≠ ⟨.literal text, position⟩ :: tail := by
  intro h
  subst h
  simp [startsWithLiteral] at h

theorem startsWithLiteral_eq_false {rest : List Token}
    (h : ∀ text position tail, rest = ⟨.literal text, position⟩ :: tail → False) :
    startsWithLiteral rest = false := by
  unfold startsWithLiteral
  split
  · exact (h _ _ _ rfl).elim
  · rfl

theorem outline_symbol (name : String) (param : Option String) (position : Nat)
    {rest : List Token} (h : startsWithLiteral rest = false) :
    outline (⟨.symbol name param, position⟩ :: rest) =
      (.withOperands name param position (operands rest).1, (operands rest).2 + 1) := by
  rw [outline]
  exact ne_literal_cons h

theorem operands_symbol_literal (name : String) (param : Option String) (position : Nat)
    (text : String) (position' : Nat) (rest : List Token) :
    operands (⟨.symbol name param, position⟩ :: ⟨.literal text, position'⟩ :: rest) =
      (.bare (.withLiteral name param position text) (operands rest).1,
        (operands rest).2 + 2) := by
  rw [operands]

theorem operands_symbol (name : String) (param : Option String) (position : Nat)
    {rest : List Token} (h : startsWithLiteral rest = false) :
    operands (⟨.symbol name param, position⟩ :: rest) =
      (.bare (.withOperands name param position (operands rest).1) .done,
        (operands rest).2 + 1) := by
  rw [operands]
  exact ne_literal_cons h

theorem operands_group (position : Nat) {close : Nat} {rest left : List Token}
    (h : rest.drop (outline rest).2 = ⟨.rparen, close⟩ :: left) :
    operands (⟨.lparen, position⟩ :: rest) =
      (.group (outline rest).1 (operands left).1,
        (outline rest).2 + (operands left).2 + 2) := by
  rw [operands]
  simp only
  split
  · rename_i close' left' h'
    rw [h] at h'
    obtain ⟨-, rfl⟩ := List.cons.inj h'
    rfl
  · rename_i h'
    exact absurd h (h' close left)

theorem operands_unclosed (position : Nat) {rest : List Token}
    (h : ∀ close left, rest.drop (outline rest).2 ≠ ⟨.rparen, close⟩ :: left) :
    operands (⟨.lparen, position⟩ :: rest) =
      (.unclosed position (outline rest).1, (outline rest).2 + 1) := by
  rw [operands]
  simp only

/-! ## From an outline to a derivation -/

/-- The outline of a token list, if it has an expression, is right about the
tokens that belong to it. -/
def OutlineSound (tokens : List Token) : Prop :=
  ∀ e, (outline tokens).1.expr? = some e →
    (outline tokens).2 ≤ tokens.length ∧
      Derives (lexemes (tokens.take (outline tokens).2)) e

/-- The outline of operands, if they have expressions, is right about the
tokens that belong to them. -/
def OperandsSound (tokens : List Token) : Prop :=
  ∀ es, (operands tokens).1.exprs? = some es →
    (operands tokens).2 ≤ tokens.length ∧
      DerivesAll (lexemes (tokens.take (operands tokens).2)) es

/-- A symbol with operands derives a composite if the operands behind it are
sound. -/
theorem OperandsSound.composite {name : String} {param : Option String} {position : Nat}
    {rest : List Token} {e : Expr} (ih : OperandsSound rest)
    (h : (Outline.withOperands name param position (operands rest).1).expr? = some e) :
    (operands rest).2 + 1 ≤ rest.length + 1 ∧ ∃ es, e = .composite name param es ∧
      Derives (.symbol name param :: lexemes (rest.take (operands rest).2)) e := by
  obtain ⟨es, hes, hne, rfl⟩ := Outline.expr?_withOperands_eq_some h
  obtain ⟨hle, hd⟩ := ih es hes
  exact ⟨by omega, es, rfl, .composite name param hd hne⟩

/-- An operand in parentheses and the operands behind it are sound if its
inside is and they are. -/
theorem OperandsSound.group {position close : Nat} {rest left : List Token}
    (hdrop : rest.drop (outline rest).2 = ⟨.rparen, close⟩ :: left)
    (ih1 : OutlineSound rest) (ih2 : OperandsSound left) :
    OperandsSound (⟨.lparen, position⟩ :: rest) := by
  intro es hes
  rw [operands_group position hdrop] at hes ⊢
  obtain ⟨e, more, he, hmore, rfl⟩ := Operands.exprs?_group_eq_some hes
  obtain ⟨hle1, hd1⟩ := ih1 e he
  obtain ⟨hle2, hd2⟩ := ih2 more hmore
  generalize (outline rest).2 = used at *
  generalize (operands left).2 = behind at *
  have htake : rest.take (used + (behind + 1)) =
      rest.take used ++ ⟨.rparen, close⟩ :: left.take behind := by
    rw [List.take_add, hdrop, List.take_succ_cons]
  constructor
  · have := congrArg List.length hdrop
    simp only [List.length_drop, List.length_cons] at this ⊢
    omega
  · have hcount : used + behind + 2 = used + (behind + 1) + 1 := by omega
    simp only [hcount, List.take_succ_cons, htake, lexemes_cons, lexemes_append]
    exact .group hd1 hd2

theorem outlineSound_and_operandsSound :
    (∀ tokens, OutlineSound tokens) ∧ ∀ tokens, OperandsSound tokens := by
  apply outline.mutual_induct OutlineSound OperandsSound
  case case1 =>
    intro e he
    rw [outline] at he
    exact absurd he (by simp [Outline.expr?])
  case case2 =>
    intro name param position text position' rest e he
    rw [outline] at he ⊢
    simp only [Outline.expr?, Option.some.injEq] at he
    subst he
    exact ⟨by simp, .literal name param text⟩
  case case3 =>
    intro name param position rest hnot _ _ _ ih e he
    have hlit : startsWithLiteral rest = false := startsWithLiteral_eq_false hnot
    rw [outline_symbol _ _ _ hlit] at he ⊢
    obtain ⟨hle, -, -, hd⟩ := ih.composite he
    exact ⟨hle, hd⟩
  case case4 =>
    intro token tail h1 h2 e he
    rw [outline.eq_4 _ _ h1 h2] at he
    exact absurd he (by simp [Outline.expr?])
  case case5 =>
    intro es hes
    rw [operands] at hes ⊢
    simp only [Operands.exprs?, Option.some.injEq] at hes
    subst hes
    exact ⟨by simp, .done⟩
  case case6 =>
    intro position tail es hes
    rw [operands] at hes ⊢
    simp only [Operands.exprs?, Option.some.injEq] at hes
    subst hes
    exact ⟨by simp, .done⟩
  case case7 =>
    intro text position tail es hes
    rw [operands] at hes
    exact absurd hes (by simp [Operands.exprs?])
  case case8 =>
    intro name param position text position' rest _ _ _ ih es hes
    rw [operands_symbol_literal, Operands.exprs?_bare] at hes
    rw [operands_symbol_literal]
    obtain ⟨e, more, he, hmore, rfl⟩ := Operands.exprs?_group_eq_some hes
    obtain ⟨hle, hd⟩ := ih more hmore
    simp only [Outline.expr?, Option.some.injEq] at he
    subst he
    refine ⟨by simp only [List.length_cons]; omega, ?_⟩
    exact .bareLiteral (.literal name param text) hd
  case case9 =>
    intro name param position rest hnot _ _ _ ih es hes
    have hlit : startsWithLiteral rest = false := startsWithLiteral_eq_false hnot
    rw [operands_symbol _ _ _ hlit, Operands.exprs?_bare] at hes
    rw [operands_symbol _ _ _ hlit]
    obtain ⟨e, more, he, hmore, rfl⟩ := Operands.exprs?_group_eq_some hes
    simp only [Operands.exprs?, Option.some.injEq] at hmore
    subst hmore
    obtain ⟨hle, es, rfl, hd⟩ := ih.composite he
    exact ⟨hle, .bareComposite hd⟩
  case case10 =>
    intro position rest inner used ho close left hdrop _ _ _ _ ih1 ih2
    obtain rfl : used = (outline rest).2 := by rw [ho]
    exact .group hdrop ih1 ih2
  case case11 =>
    intro position rest inner used ho hdrop _ es hes
    obtain rfl : used = (outline rest).2 := by rw [ho]
    rw [operands_unclosed position hdrop] at hes
    exact absurd hes (by simp [Operands.exprs?])

/-! ## From a derivation to an outline -/

/-- What may stand behind a whole expression: nothing, or a closing
parenthesis. -/
def Closed (rest : List Token) : Prop :=
  ∀ token ∈ rest.head?, token.lexeme = .rparen

theorem closed_nil : Closed [] := by
  intro token h
  simp at h

theorem closed_rparen (close : Nat) (rest : List Token) : Closed (⟨.rparen, close⟩ :: rest) := by
  intro token h
  simp only [List.head?_cons, Option.mem_def, Option.some.injEq] at h
  rw [← h]

/-- A token list of which the first lexeme is known. -/
theorem exists_of_lexemes_eq_cons {tokens : List Token} {lexeme : Lexeme} {rest : List Lexeme}
    (h : lexemes tokens = lexeme :: rest) :
    ∃ position more, tokens = ⟨lexeme, position⟩ :: more ∧ lexemes more = rest := by
  obtain ⟨token, more, rfl, rfl, hmore⟩ := List.map_eq_cons_iff.1 h
  exact ⟨token.position, more, rfl, hmore⟩

/-- A token list of which the lexemes are known to be two lists in a row. -/
theorem exists_of_lexemes_eq_append {tokens : List Token} {front back : List Lexeme}
    (h : lexemes tokens = front ++ back) :
    ∃ xs ys, tokens = xs ++ ys ∧ lexemes xs = front ∧ lexemes ys = back :=
  List.map_eq_append_iff.1 h

/-- A closed token list does not start with a literal. -/
theorem Closed.startsWithLiteral_eq_false {rest : List Token} (h : Closed rest) :
    startsWithLiteral rest = false := by
  unfold startsWithLiteral
  split
  · exact absurd (h _ rfl) (by simp)
  · rfl

/-- Operands do not start with a literal. -/
theorem DerivesAll.startsWithLiteral_eq_false {tokens rest : List Token} {es : List Expr}
    (h : DerivesAll (lexemes tokens) es) (hrest : Closed rest) :
    startsWithLiteral (tokens ++ rest) = false := by
  cases tokens with
  | nil => exact hrest.startsWithLiteral_eq_false
  | cons token more =>
    rw [lexemes_cons] at h
    generalize hls : token.lexeme :: lexemes more = ls at h
    unfold startsWithLiteral
    split
    · rename_i text position tail heq
      obtain ⟨rfl, -⟩ := List.cons.inj heq
      cases h with
      | done => simp at hls
      | bareLiteral operand => cases operand; simp at hls
      | bareComposite operand => cases operand; simp at hls
      | group => simp at hls
    · rfl

/-- What the outline of a derivable token list is, whatever closed list
follows. -/
def Outlined (tokens rest : List Token) (e : Expr) : Prop :=
  (outline (tokens ++ rest)).2 = tokens.length ∧
    (outline (tokens ++ rest)).1.expr? = some e

/-- What the outline of derivable operands is, whatever closed list
follows. -/
def OperandsOutlined (tokens rest : List Token) (es : List Expr) : Prop :=
  (operands (tokens ++ rest)).2 = tokens.length ∧
    (operands (tokens ++ rest)).1.exprs? = some es

theorem OperandsOutlined.composite {rest tokens : List Token} {es : List Expr} {name : String}
    {param : Option String} {position : Nat} (h : OperandsOutlined tokens rest es)
    (hlit : startsWithLiteral (tokens ++ rest) = false) (hne : es ≠ []) :
    Outlined (⟨.symbol name param, position⟩ :: tokens) rest (.composite name param es) := by
  obtain ⟨hlen, hes⟩ := h
  rw [Outlined, List.cons_append, outline_symbol _ _ _ hlit, hlen]
  exact ⟨rfl, Outline.expr?_withOperands hes hne⟩

/-- A composite at the front of a token list is its only operand. -/
theorem Outlined.bareComposite {rest tokens : List Token} {operands : List Expr} {name : String}
    {param : Option String} {position : Nat}
    (h : Outlined (⟨.symbol name param, position⟩ :: tokens) rest
      (.composite name param operands))
    (hlit : startsWithLiteral (tokens ++ rest) = false) :
    OperandsOutlined (⟨.symbol name param, position⟩ :: tokens) rest
      [.composite name param operands] := by
  obtain ⟨hlen, he⟩ := h
  rw [List.cons_append, outline_symbol _ _ _ hlit] at hlen he
  rw [OperandsOutlined, List.cons_append, operands_symbol _ _ _ hlit, Operands.exprs?_bare]
  exact ⟨hlen, Operands.exprs?_group he rfl⟩

theorem OperandsOutlined.bareLiteral {rest tokens : List Token} {es : List Expr}
    {name : String} {param : Option String} {position : Nat} {text : String} {position' : Nat}
    (h : OperandsOutlined tokens rest es) :
    OperandsOutlined (⟨.symbol name param, position⟩ :: ⟨.literal text, position'⟩ :: tokens)
      rest (.literal name param text :: es) := by
  obtain ⟨hlen, hes⟩ := h
  rw [OperandsOutlined, List.cons_append, List.cons_append, operands_symbol_literal, hlen,
    Operands.exprs?_bare]
  exact ⟨rfl, Operands.exprs?_group rfl hes⟩

theorem Outlined.group {rest inner behind : List Token} {e : Expr} {es : List Expr}
    {position close : Nat} (h1 : Outlined inner (⟨.rparen, close⟩ :: (behind ++ rest)) e)
    (h2 : OperandsOutlined behind rest es) :
    OperandsOutlined (⟨.lparen, position⟩ :: (inner ++ ⟨.rparen, close⟩ :: behind)) rest
      (e :: es) := by
  obtain ⟨hlen1, he⟩ := h1
  obtain ⟨hlen2, hes⟩ := h2
  have hshape : ⟨.lparen, position⟩ :: (inner ++ ⟨.rparen, close⟩ :: behind) ++ rest =
      ⟨.lparen, position⟩ :: (inner ++ ⟨.rparen, close⟩ :: (behind ++ rest)) := by simp
  have hdrop : (inner ++ ⟨.rparen, close⟩ :: (behind ++ rest)).drop
      (outline (inner ++ ⟨.rparen, close⟩ :: (behind ++ rest))).2 =
      ⟨.rparen, close⟩ :: (behind ++ rest) := by
    rw [hlen1, List.drop_left]
  rw [OperandsOutlined, hshape, operands_group position hdrop]
  refine ⟨?_, Operands.exprs?_group he hes⟩
  simp only [hlen1, hlen2, List.length_cons, List.length_append]
  omega

mutual

/-- The outline of a derivable token list is that of its expression. -/
theorem outlined_of_derives {ls : List Lexeme} {e : Expr} (h : Derives ls e)
    (tokens rest : List Token) (htokens : lexemes tokens = ls) (hrest : Closed rest) :
    Outlined tokens rest e := by
  cases h with
  | literal name param text =>
    obtain ⟨position, more, rfl, hmore⟩ := exists_of_lexemes_eq_cons htokens
    obtain ⟨position', last, rfl, hlast⟩ := exists_of_lexemes_eq_cons hmore
    obtain rfl : last = [] := List.map_eq_nil_iff.1 hlast
    rw [Outlined, List.cons_append, List.cons_append, outline]
    exact ⟨rfl, rfl⟩
  | composite name param inner nonempty =>
    obtain ⟨position, more, rfl, hmore⟩ := exists_of_lexemes_eq_cons htokens
    have ih := operandsOutlined_of_derivesAll inner more rest hmore hrest
    subst hmore
    exact ih.composite (inner.startsWithLiteral_eq_false hrest) nonempty

/-- The outline of derivable operands is that of their expressions. -/
theorem operandsOutlined_of_derivesAll {ls : List Lexeme} {es : List Expr} (h : DerivesAll ls es)
    (tokens rest : List Token) (htokens : lexemes tokens = ls) (hrest : Closed rest) :
    OperandsOutlined tokens rest es := by
  cases h with
  | done =>
    obtain rfl : tokens = [] := List.map_eq_nil_iff.1 htokens
    rw [OperandsOutlined, List.nil_append]
    cases rest with
    | nil =>
      rw [operands]
      exact ⟨rfl, rfl⟩
    | cons token rest =>
      obtain ⟨lexeme, position⟩ := token
      obtain rfl : lexeme = .rparen := hrest _ rfl
      rw [operands]
      exact ⟨rfl, rfl⟩
  | bareLiteral operand behind =>
    cases operand with
    | literal =>
      obtain ⟨position, more, rfl, hmore⟩ := exists_of_lexemes_eq_cons htokens
      obtain ⟨position', last, rfl, hlast⟩ := exists_of_lexemes_eq_cons hmore
      exact (operandsOutlined_of_derivesAll behind last rest hlast hrest).bareLiteral
  | bareComposite operand =>
    have ih := outlined_of_derives operand tokens rest htokens hrest
    cases operand with
    | composite name param inner nonempty =>
      obtain ⟨position, more, rfl, rfl⟩ := exists_of_lexemes_eq_cons htokens
      exact ih.bareComposite (inner.startsWithLiteral_eq_false hrest)
  | group operand behind =>
    obtain ⟨position, more, rfl, hmore⟩ := exists_of_lexemes_eq_cons htokens
    obtain ⟨inner, outer, rfl, hinner, houter⟩ := exists_of_lexemes_eq_append hmore
    obtain ⟨close, left, rfl, hleft⟩ := exists_of_lexemes_eq_cons houter
    have ih1 := outlined_of_derives operand inner (⟨.rparen, close⟩ :: (left ++ rest)) hinner
      (closed_rparen close _)
    have ih2 := operandsOutlined_of_derivesAll behind left rest hleft hrest
    exact ih1.group ih2

end

/-! ## Whole token lists -/

/-- The outline of a whole token list has an expression and leaves no token
over exactly if the list derives that expression. -/
theorem outlineAll_iff_derives (tokens : List Token) (e : Expr) :
    ((outlineAll tokens).1.expr? = some e ∧ (outlineAll tokens).2 = none) ↔
      Derives (lexemes tokens) e := by
  have hall : outlineAll tokens =
      ((outline tokens).1, (tokens.drop (outline tokens).2).head?) := rfl
  rw [hall]
  constructor
  · intro h
    obtain ⟨he, hrest⟩ := h
    obtain ⟨hle, hd⟩ := outlineSound_and_operandsSound.1 tokens e he
    have hdrop : tokens.drop (outline tokens).2 = [] := List.head?_eq_none_iff.1 hrest
    rwa [List.take_of_length_le (List.drop_eq_nil_iff.1 hdrop)] at hd
  · intro h
    obtain ⟨hlen, he⟩ := outlined_of_derives h tokens [] rfl closed_nil
    rw [List.append_nil] at hlen he
    refine ⟨he, ?_⟩
    rw [hlen, List.drop_length]
    rfl

/-- No list of lexemes derives two expressions. -/
theorem Derives.unique {ls : List Lexeme} {e e' : Expr} (h : Derives ls e)
    (h' : Derives ls e') : e = e' := by
  let tokens : List Token := ls.map fun lexeme => ⟨lexeme, 0⟩
  have htokens : lexemes tokens = ls := by
    simp [tokens, lexemes, Function.comp_def]
  obtain ⟨-, he⟩ := outlined_of_derives h tokens [] htokens closed_nil
  obtain ⟨-, he'⟩ := outlined_of_derives h' tokens [] htokens closed_nil
  exact Option.some.inj (he.symm.trans he')

/-! ## Parentheses around an operand -/

/-- In the operands that `before ++ inner ++ after` spells, at some depth,
`inner` is a bare operand over its full extent. -/
inductive BareOperandIn : List Lexeme → List Lexeme → List Lexeme → List Expr → Prop where
  | literal {inner after : List Lexeme} {more : List Expr} {name : String}
      {param : Option String} {text : String}
      (operand : Derives inner (.literal name param text)) (behind : DerivesAll after more) :
      BareOperandIn [] inner after (.literal name param text :: more)
  | composite {inner : List Lexeme} {name : String} {param : Option String}
      {operands : List Expr} (operand : Derives inner (.composite name param operands)) :
      BareOperandIn [] inner [] [.composite name param operands]
  | insideBare {before inner after : List Lexeme} {operands : List Expr} (name : String)
      (param : Option String) (deeper : BareOperandIn before inner after operands) :
      BareOperandIn (.symbol name param :: before) inner after
        [.composite name param operands]
  | insideGroup {before inner after rest : List Lexeme} {operands more : List Expr}
      (name : String) (param : Option String)
      (deeper : BareOperandIn before inner after operands) (behind : DerivesAll rest more) :
      BareOperandIn (.lparen :: .symbol name param :: before) inner (after ++ .rparen :: rest)
        (.composite name param operands :: more)
  | behindLiteral {front before inner after : List Lexeme} {more : List Expr} {name : String}
      {param : Option String} {text : String}
      (operand : Derives front (.literal name param text))
      (later : BareOperandIn before inner after more) :
      BareOperandIn (front ++ before) inner after (.literal name param text :: more)
  | behindGroup {front before inner after : List Lexeme} {e : Expr} {more : List Expr}
      (operand : Derives front e) (later : BareOperandIn before inner after more) :
      BareOperandIn (.lparen :: (front ++ .rparen :: before)) inner after (e :: more)

/-- In the expression that `before ++ inner ++ after` spells, `inner` is a
bare operand over its full extent. -/
inductive BareOperand : List Lexeme → List Lexeme → List Lexeme → Expr → Prop where
  | composite {before inner after : List Lexeme} {operands : List Expr} (name : String)
      (param : Option String) (deeper : BareOperandIn before inner after operands) :
      BareOperand (.symbol name param :: before) inner after (.composite name param operands)

theorem BareOperandIn.ne_nil {before inner after : List Lexeme} {es : List Expr}
    (h : BareOperandIn before inner after es) : es ≠ [] := by
  cases h <;> simp

/-- Operands of which one is bare are operands. -/
theorem BareOperandIn.derivesAll {before inner after : List Lexeme} {es : List Expr}
    (h : BareOperandIn before inner after es) : DerivesAll (before ++ inner ++ after) es := by
  induction h with
  | literal operand behind => exact .bareLiteral operand behind
  | composite operand => simpa using DerivesAll.bareComposite operand
  | insideBare name param deeper ih =>
    exact .bareComposite (.composite name param ih deeper.ne_nil)
  | insideGroup name param deeper behind ih =>
    simpa using DerivesAll.group (.composite name param ih deeper.ne_nil) behind
  | behindLiteral operand _ ih => simpa using DerivesAll.bareLiteral operand ih
  | behindGroup operand _ ih => simpa using DerivesAll.group operand ih

theorem BareOperand.derives {before inner after : List Lexeme} {e : Expr}
    (h : BareOperand before inner after e) : Derives (before ++ inner ++ after) e := by
  obtain ⟨name, param, deeper⟩ := h
  exact .composite name param deeper.derivesAll deeper.ne_nil

/-- The first of two lexemes in a row is no opening parenthesis, or the second one is none. -/
def NotDoubled (first second : Lexeme) : Prop :=
  first = .lparen → second ≠ .lparen

theorem Derives.exists_cons {ls : List Lexeme} {e : Expr} (h : Derives ls e) :
    ∃ name param rest, ls = .symbol name param :: rest := by
  cases h with
  | literal name param text => exact ⟨name, param, _, rfl⟩
  | composite name param => exact ⟨name, param, _, rfl⟩

theorem isChain_cons_of_ne {lexeme : Lexeme} {ls : List Lexeme} (h : lexeme ≠ .lparen)
    (hls : ls.IsChain NotDoubled) : (lexeme :: ls).IsChain NotDoubled :=
  List.isChain_cons.2 ⟨fun _ _ heq => absurd heq h, hls⟩

mutual

theorem Derives.isChain {ls : List Lexeme} {e : Expr} (h : Derives ls e) :
    ls.IsChain NotDoubled := by
  cases h with
  | literal name param text => simp [NotDoubled]
  | composite name param inner nonempty => exact isChain_cons_of_ne (by simp) inner.isChain

theorem DerivesAll.isChain {ls : List Lexeme} {es : List Expr} (h : DerivesAll ls es) :
    ls.IsChain NotDoubled := by
  cases h with
  | done => exact .nil
  | bareLiteral operand behind =>
    cases operand with
    | literal =>
      exact isChain_cons_of_ne (by simp) (isChain_cons_of_ne (by simp) behind.isChain)
  | bareComposite operand => exact operand.isChain
  | group operand behind =>
    have hclose : (Lexeme.rparen :: _).IsChain NotDoubled :=
      isChain_cons_of_ne (by simp) behind.isChain
    have hinner := List.isChain_append.2 ⟨operand.isChain, hclose, by simp [NotDoubled]⟩
    -- Behind the parenthesis the operand starts with its symbol.
    obtain ⟨name, param, rest, rfl⟩ := operand.exists_cons
    exact List.isChain_cons.2 ⟨by simp [NotDoubled], hinner⟩

end

end ImageSelect.Filter
