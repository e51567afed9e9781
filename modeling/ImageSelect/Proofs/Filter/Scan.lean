import ImageSelect.Filter.Tree
import ImageSelect.Proofs.Filter.Reading

/-!
# Scanning what was written

The scanner gives back the lexemes of what is written down: symbols with a
space behind them, keys in brackets, quoted literals and parentheses.

`Scans` says that some characters are scanned as some lexemes, whatever
follows them and wherever they stand.  So it goes through concatenation, and a
text is scanned piece by piece.
-/

namespace ImageSelect.Filter

/-! ## Pieces of text -/

/-- Characters are scanned as lexemes, whatever follows them. -/
def Scans (text : List Char) (ls : List Lexeme) : Prop :=
  ∀ (rest : List Char) (position : Nat), ∃ tokens, lexemes tokens = ls ∧
    Token.scan position (text ++ rest) =
      (Token.scan (position + text.length) rest).map (tokens ++ ·)

namespace Scans

theorem append {text text' : List Char} {ls ls' : List Lexeme} (h : Scans text ls)
    (h' : Scans text' ls') : Scans (text ++ text') (ls ++ ls') := by
  intro rest position
  obtain ⟨tokens, rfl, hscan⟩ := h (text' ++ rest) position
  obtain ⟨tokens', rfl, hscan'⟩ := h' rest (position + text.length)
  refine ⟨tokens ++ tokens', lexemes_append _ _, ?_⟩
  rw [List.append_assoc, hscan, hscan', List.length_append, Nat.add_assoc]
  cases Token.scan (position + (text.length + text'.length)) rest with
  | ok more => simp [Except.map]
  | error why => rfl

/-- What is read in the same way whatever stands behind it is scanned. -/
theorem of_reads {text : List Char} {ls : List Lexeme}
    (h : ∀ (behind : List Char) (position : Nat), ∃ tokens, lexemes tokens = ls ∧
      Reads behind position text tokens) : Scans text ls := by
  intro rest position
  obtain ⟨tokens, htokens, hreads⟩ := h rest position
  exact ⟨tokens, htokens, hreads.scan⟩

/-- A text that is one lexeme, whatever follows. -/
theorem written {l : Lexeme} {chars : List Char} (h : l.Written chars)
    (hends : ∀ after, l.EndsBefore after) : Scans chars [l] := by
  refine of_reads fun behind position => ⟨[⟨l, position⟩], rfl, ?_⟩
  have hreads : Reads behind position (chars ++ []) [⟨l, position⟩] :=
    .lexeme h (hends _) .nil
  rwa [List.append_nil] at hreads

theorem space : Scans [' '] [] :=
  of_reads fun _ _ => ⟨[], rfl, .blank rfl .nil⟩

theorem lparen : Scans ['('] [.lparen] :=
  written .lparen fun _ => trivial

theorem rparen : Scans [')'] [.rparen] :=
  written .rparen fun _ => trivial

theorem quoteLiteral (text : String) : Scans (quoteLiteral text).toList [.literal text] := by
  rw [Filter.quoteLiteral, String.toList_ofList, List.cons_append]
  exact written (.literal (inside_escapeLiteral _)) fun _ => trivial

/-- A symbol with a space behind it. -/
theorem symbol {name : String} (h : isSymbolText name.toList = true) :
    Scans (name.toList ++ [' ']) [.symbol name none] := by
  refine of_reads fun behind position => ⟨[⟨.symbol name none, position⟩], rfl, ?_⟩
  exact .lexeme (.symbol h) (.append_space rfl (.nil _) behind) (.blank rfl .nil)

/-- A symbol with a key in brackets. -/
theorem symbolKey {name key : String} (hname : isSymbolText name.toList = true)
    (hkey : IsSpellable key) :
    Scans (name.toList ++ '[' :: (key.toList ++ [']'])) [.symbol name (some key)] :=
  written (.symbolKey hname hkey) fun _ => trivial

/-- What is scanned from beginning to end. -/
theorem tokenize {text : String} {ls : List Lexeme} (h : Scans text.toList ls) :
    ∃ tokens, tokenize text = .ok tokens ∧ lexemes tokens = ls := by
  obtain ⟨tokens, htokens, hscan⟩ := h [] 0
  refine ⟨tokens, ?_, htokens⟩
  rw [List.append_nil, Token.scan] at hscan
  simpa [Except.map, Filter.tokenize] using hscan

end Scans

/-! ## What is scanned can be written -/

/-- The key of a symbol can be written in brackets. -/
def Lexeme.IsSpellable : Lexeme → Prop
  | .symbol _ (some key) => Filter.IsSpellable key
  | _ => True

theorem Lexeme.Written.isSpellable {l : Lexeme} {chars : List Char} (h : l.Written chars) :
    l.IsSpellable := by
  cases h with
  | symbolKey spelled spellable => exact spellable
  | _ => trivial

/-- The keys in a text that is scanned can be written in brackets. -/
theorem Token.isSpellable_of_scan {position : Nat} {text : List Char} {tokens : List Token}
    (h : scan position text = .ok tokens) : ∀ token ∈ tokens, token.lexeme.IsSpellable := by
  intro token htoken
  obtain ⟨_, _, _, -, -, hwritten, -⟩ := (scan_eq_ok_iff.1 h).exists_written token htoken
  exact hwritten.isSpellable

end ImageSelect.Filter
