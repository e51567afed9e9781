import ImageSelect.Filter.Token

/-!
# How lexemes are written

A lexeme is written in characters, and the readers of `ImageSelect.Filter.Token` find it where it
is written.  The written forms are said by themselves here, without the readers.

* `Inside`: what stands between the quotes of a literal.
* `Lexeme.Written`: the characters of a lexeme.  Only literals may be written in several ways.
* `Lexeme.EndsBefore`: what may follow.  A symbol goes on as long as it can, and takes a key that
  stands in brackets directly behind it; nothing that follows has a part in any other lexeme.
* `Lexeme.Written.readLexeme`, `exists_written`: what is written is read, and what is read is
  written.  `readLexeme_eq_none_iff`: nothing is read where no lexeme is written.
-/

namespace ImageSelect.Filter

/-! ## Literals -/

/-- What stands between the quotes of a literal, and the text that it means.  A quote or a
backslash stands behind a backslash; any other character, and a backslash before it, means
itself. -/
inductive Inside : List Char → List Char → Prop where
  | nil : Inside [] []
  | escaped {c : Char} {inside text : List Char} (special : c = '"' ∨ c = '\\')
      (rest : Inside inside text) : Inside ('\\' :: c :: inside) (c :: text)
  | backslash {c : Char} {inside text : List Char} (plain : c ≠ '"' ∧ c ≠ '\\')
      (rest : Inside (c :: inside) text) : Inside ('\\' :: c :: inside) ('\\' :: text)
  | plain {c : Char} {inside text : List Char} (plain : c ≠ '"' ∧ c ≠ '\\')
      (rest : Inside inside text) : Inside (c :: inside) (c :: text)

/-- A character that is no quote, and no backslash before one of the two, is read as itself. -/
theorem readLiteral_cons {c : Char} {rest : List Char} (hquote : c ≠ '"')
    (hnext : c = '\\' → ∀ d, rest.head? = some d → d ≠ '"' ∧ d ≠ '\\') :
    readLiteral (c :: rest) =
      (readLiteral rest).map fun (text, after) => (c :: text, after) := by
  rw [readLiteral]
  · exact hquote
  · rintro more hc rfl
    exact (hnext hc _ rfl).1 rfl
  · rintro more hc rfl
    exact (hnext hc _ rfl).2 rfl

/-- A literal is read up to the quote behind it. -/
theorem Inside.readLiteral {inside text : List Char} (h : Inside inside text)
    (after : List Char) : readLiteral (inside ++ '"' :: after) = some (text, after) := by
  induction h with
  | nil => rw [List.nil_append, Filter.readLiteral]
  | escaped special _ ih =>
    rcases special with rfl | rfl
    · rw [List.cons_append, List.cons_append, Filter.readLiteral, ih]
      rfl
    · rw [List.cons_append, List.cons_append, Filter.readLiteral, ih]
      rfl
  | backslash plain _ ih =>
    rw [List.cons_append, readLiteral_cons (by decide), ih]
    · rfl
    · rintro - d hd
      obtain rfl := Option.some.inj hd
      exact plain
  | plain plain _ ih =>
    rw [List.cons_append, readLiteral_cons plain.1 fun hc => absurd hc plain.2, ih]
    rfl

/-- What is read as a literal stands before the first quote that nothing takes the meaning off. -/
theorem exists_inside {text literal after : List Char}
    (h : readLiteral text = some (literal, after)) :
    ∃ inside, text = inside ++ '"' :: after ∧ Inside inside literal := by
  induction text using readLiteral.induct generalizing literal after with
  | case1 => simp [readLiteral] at h
  | case2 rest =>
    simp only [readLiteral, Option.some.injEq, Prod.mk.injEq] at h
    obtain ⟨rfl, rfl⟩ := h
    exact ⟨[], rfl, .nil⟩
  | case3 rest ih =>
    simp only [readLiteral, Option.map_eq_some_iff, Prod.exists, Prod.mk.injEq] at h
    obtain ⟨literal, after, hread, rfl, rfl⟩ := h
    obtain ⟨inside, rfl, hinside⟩ := ih hread
    exact ⟨_, rfl, .escaped (.inl rfl) hinside⟩
  | case4 rest ih =>
    simp only [readLiteral, Option.map_eq_some_iff, Prod.exists, Prod.mk.injEq] at h
    obtain ⟨literal, after, hread, rfl, rfl⟩ := h
    obtain ⟨inside, rfl, hinside⟩ := ih hread
    exact ⟨_, rfl, .escaped (.inr rfl) hinside⟩
  | case5 c rest hquote hbeforeQuote hbeforeBackslash ih =>
    rw [readLiteral] at h
    · simp only [Option.map_eq_some_iff, Prod.exists, Prod.mk.injEq] at h
      obtain ⟨literal, after, hread, rfl, rfl⟩ := h
      obtain ⟨inside, rfl, hinside⟩ := ih hread
      refine ⟨c :: inside, rfl, ?_⟩
      by_cases hc : c = '\\'
      · -- A backslash that is read as itself has a plain character behind it.
        subst hc
        cases inside with
        | nil => exact absurd rfl (hbeforeQuote _ rfl)
        | cons d inside =>
          refine .backslash ⟨?_, ?_⟩ hinside
          · rintro rfl
            exact hbeforeQuote _ rfl rfl
          · rintro rfl
            exact hbeforeBackslash _ rfl rfl
      · exact .plain ⟨hquote, hc⟩ hinside
    all_goals assumption

/-- Escaping is one way to write a text between quotes. -/
theorem inside_escapeLiteral (text : List Char) : Inside (escapeLiteral text) text := by
  induction text with
  | nil => exact .nil
  | cons c text ih =>
    rw [escapeLiteral]
    split
    · rename_i h
      simp only [Bool.or_eq_true, decide_eq_true_eq] at h
      exact .escaped h ih
    · rename_i h
      simp only [Bool.or_eq_true, decide_eq_true_eq, not_or] at h
      exact .plain h ih

/-! ## Symbols -/

/-- A character of a symbol is not blank and starts nothing else. -/
theorem ne_of_isSymbolChar {c : Char} (h : isSymbolChar c = true) :
    Unicode.isSpace c = false ∧ c ≠ '(' ∧ c ≠ ')' ∧ c ≠ '"' := by
  have hcode : 45 ≤ c.toNat ∧ c.toNat ≤ 122 := by
    unfold isSymbolChar at h
    delta Char.isAlphanum Char.isAlpha Char.isUpper Char.isLower Char.isDigit at h
    simp only [Bool.or_eq_true, Bool.and_eq_true, decide_eq_true_eq,
      UInt32.le_iff_toNat_le] at h
    rcases h with ((((⟨h1, h2⟩ | ⟨h1, h2⟩) | ⟨h1, h2⟩) | rfl) | rfl)
    · exact ⟨Nat.le_trans (by decide) h1, Nat.le_trans h2 (by decide)⟩
    · exact ⟨Nat.le_trans (by decide) h1, h2⟩
    · exact ⟨Nat.le_trans (by decide) h1, Nat.le_trans h2 (by decide)⟩
    all_goals decide
  refine ⟨?_, ?_, ?_, ?_⟩
  · simp only [Unicode.isSpace, Bool.or_eq_false_iff, Bool.and_eq_false_iff,
      decide_eq_false_iff_not]
    omega
  all_goals
    rintro rfl
    exact absurd hcode (by decide)

theorem isSymbolChar_of_isSymbolStart {c : Char} (h : isSymbolStart c = true) :
    isSymbolChar c = true := by
  simp only [isSymbolStart, isSymbolChar, Char.isAlphanum, Bool.or_eq_true] at h ⊢
  rcases h with h | h
  · exact .inl (.inl (.inl h))
  · exact .inl (.inr h)

theorem readLexeme_symbol {c : Char} (h : isSymbolStart c = true) (rest : List Char) :
    readLexeme c rest = some (readSymbol c rest) := by
  obtain ⟨-, hlparen, hrparen, hquote⟩ := ne_of_isSymbolChar (isSymbolChar_of_isSymbolStart h)
  rw [readLexeme, if_neg hlparen, if_neg hrparen, if_neg hquote, if_pos h]

/-- Whether characters can be read as a symbol. -/
def isSymbolText : List Char → Bool
  | [] => false
  | c :: rest => isSymbolStart c && rest.all isSymbolChar

theorem exists_of_isSymbolText {text : List Char} (h : isSymbolText text = true) :
    ∃ c inside, text = c :: inside ∧ isSymbolStart c = true ∧
      inside.all isSymbolChar = true := by
  cases text with
  | nil => simp [isSymbolText] at h
  | cons c inside =>
    rw [isSymbolText, Bool.and_eq_true] at h
    exact ⟨c, inside, rfl, h.1, h.2⟩

/-- A text does not go on with a character of a symbol. -/
def EndsSymbol (after : List Char) : Prop :=
  ∀ d, after.head? = some d → isSymbolChar d = false

/-- What can be read as a symbol is read as a symbol up to a character that is
none of it. -/
theorem readSymbol_append {c : Char} {inside after : List Char}
    (hinside : inside.all isSymbolChar = true) (hafter : EndsSymbol after) :
    readSymbol c (inside ++ after) =
      match readParam after with
      | some (param, after) =>
        (.symbol (String.ofList (c :: inside)) (some (String.ofList param)), after)
      | none => (.symbol (String.ofList (c :: inside)) none, after) := by
  have hall : ∀ x ∈ inside, isSymbolChar x = true := List.all_eq_true.1 hinside
  have hstop : after.takeWhile isSymbolChar = [] ∧ after.dropWhile isSymbolChar = after := by
    cases after with
    | nil => exact ⟨rfl, rfl⟩
    | cons d rest =>
      have hd := hafter d rfl
      exact ⟨List.takeWhile_cons_of_neg (by simp [hd]), List.dropWhile_cons_of_neg (by simp [hd])⟩
  have htake : (inside ++ after).takeWhile isSymbolChar = inside := by
    rw [List.takeWhile_append_of_pos hall, hstop.1, List.append_nil]
  have hdrop : (inside ++ after).dropWhile isSymbolChar = after := by
    rw [List.dropWhile_append_of_pos hall, hstop.2]
  cases hparam : readParam after with
  | none => simp only [readSymbol, htake, hdrop, hparam]
  | some read =>
    obtain ⟨param, after⟩ := read
    simp only [readSymbol, htake, hdrop, hparam]

/-! ## Keys -/

/-- A key that can be written in brackets: it is not empty and holds no
bracket, no double quote and no blank. -/
def IsSpellable (key : String) : Prop :=
  key ≠ "" ∧ ∀ c ∈ key.toList, isParamChar c = true

instance : DecidablePred IsSpellable := fun key =>
  have := List.decidableBAll (isParamChar · = true) key.toList
  inferInstanceAs (Decidable (key ≠ "" ∧ ∀ c ∈ key.toList, isParamChar c = true))

theorem readParam_append {key : String} (h : IsSpellable key) (rest : List Char) :
    readParam ('[' :: (key.toList ++ ']' :: rest)) = some (key.toList, rest) := by
  obtain ⟨hne, hall⟩ := h
  have htake : (key.toList ++ ']' :: rest).takeWhile isParamChar = key.toList := by
    rw [List.takeWhile_append_of_pos hall, List.takeWhile_cons_of_neg (by decide),
      List.append_nil]
  have hdrop : (key.toList ++ ']' :: rest).dropWhile isParamChar = ']' :: rest := by
    rw [List.dropWhile_append_of_pos hall, List.dropWhile_cons_of_neg (by decide)]
  rw [readParam, htake, hdrop]
  cases hkey : key.toList with
  | nil => exact absurd (String.toList_eq_nil_iff.1 hkey) hne
  | cons c more => rfl

/-- What is read as a key stands in brackets. -/
theorem eq_of_readParam {text param after : List Char}
    (h : readParam text = some (param, after)) :
    text = '[' :: (param ++ ']' :: after) ∧ IsSpellable (String.ofList param) := by
  unfold readParam at h
  split at h
  · rename_i rest
    split at h
    · rename_i c more after' htake hdrop
      obtain ⟨rfl, rfl⟩ := Prod.mk.inj (Option.some.inj h)
      have hrest : c :: more ++ ']' :: after' = rest := by
        rw [← htake, ← hdrop, List.takeWhile_append_dropWhile]
      refine ⟨by rw [hrest], by simp [← String.toList_eq_nil_iff], fun d hd => ?_⟩
      rw [String.toList_ofList, ← htake] at hd
      exact List.all_eq_true.1 List.all_takeWhile d hd
    · simp at h
  · simp at h

/-- A text starts with a key in brackets. -/
def StartsKey (text : List Char) : Prop :=
  ∃ (key : String) (after : List Char), IsSpellable key ∧
    text = '[' :: (key.toList ++ ']' :: after)

theorem readParam_eq_none_iff {text : List Char} : readParam text = none ↔ ¬StartsKey text := by
  constructor
  · rintro h ⟨key, after, hkey, rfl⟩
    rw [readParam_append hkey] at h
    cases h
  · intro h
    cases hread : readParam text with
    | none => rfl
    | some read =>
      obtain ⟨param, after⟩ := read
      obtain ⟨heq, hkey⟩ := eq_of_readParam hread
      exact absurd ⟨_, after, hkey, by rw [String.toList_ofList]; exact heq⟩ h

/-! ## Lexemes -/

/-- The characters that stand for a lexeme. -/
inductive Lexeme.Written : Lexeme → List Char → Prop where
  | lparen : Written .lparen ['(']
  | rparen : Written .rparen [')']
  | literal {inside : List Char} {text : String} (inner : Inside inside text.toList) :
      Written (.literal text) ('"' :: (inside ++ ['"']))
  | symbol {name : String} (spelled : isSymbolText name.toList = true) :
      Written (.symbol name none) name.toList
  | symbolKey {name key : String} (spelled : isSymbolText name.toList = true)
      (spellable : IsSpellable key) :
      Written (.symbol name (some key)) (name.toList ++ '[' :: (key.toList ++ [']']))

/-- What may follow a lexeme.  A symbol is as long as possible, and a key in brackets that follows
it directly belongs to it. -/
def Lexeme.EndsBefore : Lexeme → List Char → Prop
  | .symbol _ none, after => EndsSymbol after ∧ ¬StartsKey after
  | _, _ => True

/-- A text starts with the characters of a lexeme. -/
def StartsLexeme (text : List Char) : Prop :=
  ∃ (l : Lexeme) (chars after : List Char), l.Written chars ∧ text = chars ++ after

/-- A lexeme that is written is read, if it ends there. -/
theorem Lexeme.Written.readLexeme {l : Lexeme} {chars : List Char} (h : l.Written chars)
    {after : List Char} (hafter : l.EndsBefore after) :
    ∃ c inside, chars = c :: inside ∧ Unicode.isSpace c = false ∧
      Filter.readLexeme c (inside ++ after) = some (l, after) := by
  cases h with
  | lparen => exact ⟨_, _, rfl, rfl, rfl⟩
  | rparen => exact ⟨_, _, rfl, rfl, rfl⟩
  | @literal inside text inner =>
    refine ⟨_, _, rfl, rfl, ?_⟩
    have hread : ∀ rest, Filter.readLexeme '"' rest = (readLiteral rest).map fun read =>
        (.literal (String.ofList read.1), read.2) := fun _ => rfl
    rw [hread, List.append_assoc, List.singleton_append, inner.readLiteral]
    simp only [Option.map_some, String.ofList_toList]
  | @symbol name spelled =>
    obtain ⟨c, inside, hname, hstart, hinside⟩ := exists_of_isSymbolText spelled
    refine ⟨c, inside, hname, (ne_of_isSymbolChar (isSymbolChar_of_isSymbolStart hstart)).1, ?_⟩
    rw [readLexeme_symbol hstart, readSymbol_append hinside hafter.1,
      readParam_eq_none_iff.2 hafter.2, ← hname]
    simp only [String.ofList_toList]
  | @symbolKey name key spelled spellable =>
    obtain ⟨c, inside, hname, hstart, hinside⟩ := exists_of_isSymbolText spelled
    refine ⟨c, inside ++ '[' :: (key.toList ++ [']']), by rw [hname, List.cons_append],
      (ne_of_isSymbolChar (isSymbolChar_of_isSymbolStart hstart)).1, ?_⟩
    have hends : EndsSymbol ('[' :: (key.toList ++ ']' :: after)) := by
      intro d hd
      obtain rfl := Option.some.inj hd
      decide
    rw [readLexeme_symbol hstart, List.append_assoc, List.cons_append, List.append_assoc,
      List.singleton_append, readSymbol_append hinside hends, readParam_append spellable, ← hname]
    simp only [String.ofList_toList]

theorem endsSymbol_dropWhile (rest : List Char) : EndsSymbol (rest.dropWhile isSymbolChar) := by
  intro d hd
  have hnot := List.head?_dropWhile_not isSymbolChar rest
  rw [hd] at hnot
  exact hnot

/-- What is read as a symbol is written there, and the symbol ends there. -/
theorem exists_written_of_readSymbol {c : Char} {rest after : List Char} {l : Lexeme}
    (hstart : isSymbolStart c = true) (h : readSymbol c rest = (l, after)) :
    ∃ inside, rest = inside ++ after ∧ l.Written (c :: inside) ∧ l.EndsBefore after := by
  have hall : (rest.takeWhile isSymbolChar).all isSymbolChar = true := List.all_takeWhile
  have hsplit : rest.takeWhile isSymbolChar ++ rest.dropWhile isSymbolChar = rest :=
    List.takeWhile_append_dropWhile
  have hends := endsSymbol_dropWhile rest
  generalize rest.takeWhile isSymbolChar = inside at hall hsplit
  generalize rest.dropWhile isSymbolChar = behind at hsplit hends
  obtain rfl := hsplit
  have hname : isSymbolText (String.ofList (c :: inside)).toList = true := by
    rw [String.toList_ofList, isSymbolText, hstart, hall, Bool.true_and]
  rw [readSymbol_append hall hends] at h
  cases hparam : readParam behind with
  | none =>
    rw [hparam] at h
    obtain ⟨rfl, rfl⟩ := Prod.mk.inj h
    have hwritten := Lexeme.Written.symbol hname
    rw [String.toList_ofList] at hwritten
    exact ⟨inside, rfl, hwritten, hends, readParam_eq_none_iff.1 hparam⟩
  | some read =>
    obtain ⟨param, after'⟩ := read
    rw [hparam] at h
    obtain ⟨rfl, rfl⟩ := Prod.mk.inj h
    obtain ⟨rfl, hkey⟩ := eq_of_readParam hparam
    have hwritten := Lexeme.Written.symbolKey hname hkey
    rw [String.toList_ofList, String.toList_ofList] at hwritten
    exact ⟨inside ++ '[' :: (param ++ [']']), by simp, hwritten, trivial⟩

/-- What is read as a lexeme is written there, and the lexeme ends there. -/
theorem exists_written {c : Char} {rest after : List Char} {l : Lexeme}
    (h : readLexeme c rest = some (l, after)) :
    ∃ inside, rest = inside ++ after ∧ l.Written (c :: inside) ∧ l.EndsBefore after := by
  unfold readLexeme at h
  split at h
  · rename_i hc
    subst hc
    obtain ⟨rfl, rfl⟩ := Prod.mk.inj (Option.some.inj h)
    exact ⟨[], rfl, .lparen, trivial⟩
  · split at h
    · rename_i hc
      subst hc
      obtain ⟨rfl, rfl⟩ := Prod.mk.inj (Option.some.inj h)
      exact ⟨[], rfl, .rparen, trivial⟩
    · split at h
      · rename_i hc
        subst hc
        simp only [Option.map_eq_some_iff, Prod.exists, Prod.mk.injEq] at h
        obtain ⟨literal, after, hread, rfl, rfl⟩ := h
        obtain ⟨inside, rfl, hinside⟩ := exists_inside hread
        refine ⟨inside ++ ['"'], by simp, .literal ?_, trivial⟩
        rwa [String.toList_ofList]
      · split at h
        · rename_i hstart
          exact exists_written_of_readSymbol hstart (Option.some.inj h)
        · simp at h

/-- Nothing is read only where no lexeme is written. -/
theorem readLexeme_eq_none_iff {c : Char} {rest : List Char} :
    readLexeme c rest = none ↔ ¬StartsLexeme (c :: rest) := by
  constructor
  · rintro hnone ⟨l, chars, after, hwritten, heq⟩
    cases hwritten with
    | lparen =>
      obtain ⟨rfl, -⟩ := List.cons.inj heq
      cases hnone
    | rparen =>
      obtain ⟨rfl, -⟩ := List.cons.inj heq
      cases hnone
    | @literal inside text inner =>
      obtain ⟨rfl, rfl⟩ := List.cons.inj heq
      have hends : Lexeme.EndsBefore (.literal text) after := trivial
      obtain ⟨_, _, hchars, -, hread⟩ := (Lexeme.Written.literal inner).readLexeme hends
      obtain ⟨rfl, rfl⟩ := List.cons.inj hchars
      cases hnone.symm.trans hread
    | symbol spelled | symbolKey spelled spellable =>
      obtain ⟨d, inside, hname, hstart, -⟩ := exists_of_isSymbolText spelled
      rw [hname] at heq
      obtain ⟨rfl, -⟩ := List.cons.inj heq
      rw [readLexeme_symbol hstart] at hnone
      cases hnone
  · intro hstarts
    cases hread : readLexeme c rest with
    | none => rfl
    | some read =>
      obtain ⟨l, after⟩ := read
      obtain ⟨inside, heq, hwritten, -⟩ := exists_written hread
      exact absurd ⟨_, _, _, hwritten, by rw [heq]; rfl⟩ hstarts

end ImageSelect.Filter
