import ImageSelect.Proofs.Filter.Reading
import ImageSelect.Proofs.Filter.Typing

/-!
# Spelling lexemes

A list of lexemes is spelled as a text, with blanks between them, and the scanner finds each lexeme
where it was spelled.

* `Lexeme.spell`: the text of one lexeme.  A literal is quoted, a key follows its symbol in
  brackets.
* `Spelling`: lexemes with the blanks behind each of them.  There is at least one blank between
  neighbours, so that no symbol goes on in the next lexeme.
* `reads_spellAll`: what is spelled is read.
* `compileText_congr`: blanks mean nothing, as a text compiles by its lexemes.
* `tokenize_spelling`: tokens of a spelling, for any lexemes and any blanks.

Spellings leave out texts with no blank around a parenthesis or behind a literal.  Those are read
too, and `compileText_congr` is about them as well.
-/

namespace ImageSelect.Filter

/-! ## One lexeme -/

/-- A lexeme as it is written. -/
def Lexeme.spell : Lexeme → String
  | .lparen => "("
  | .rparen => ")"
  | .literal text => quoteLiteral text
  | .symbol name none => name
  | .symbol name (some key) => name ++ "[" ++ key ++ "]"

/-- A lexeme can be written.  Literals may hold any text. -/
def Lexeme.HasSpelling : Lexeme → Prop
  | .symbol name none => isSymbolText name.toList = true
  | .symbol name (some key) => isSymbolText name.toList = true ∧ Filter.IsSpellable key
  | _ => True

instance : DecidablePred Lexeme.HasSpelling
  | .symbol name none => inferInstanceAs (Decidable (isSymbolText name.toList = true))
  | .symbol name (some key) =>
    inferInstanceAs (Decidable (isSymbolText name.toList = true ∧ Filter.IsSpellable key))
  | .lparen | .rparen | .literal _ => inferInstanceAs (Decidable True)

theorem Lexeme.HasSpelling.written {l : Lexeme} (h : l.HasSpelling) :
    l.Written l.spell.toList := by
  cases l with
  | lparen => exact .lparen
  | rparen => exact .rparen
  | literal text =>
    rw [spell, quoteLiteral, String.toList_ofList]
    exact .literal (inside_escapeLiteral text.toList)
  | symbol name key =>
    cases key with
    | none => exact .symbol h
    | some key =>
      have hspell : (name ++ "[" ++ key ++ "]").toList =
          name.toList ++ '[' :: (key.toList ++ [']']) := by
        simp
      rw [spell, hspell]
      exact .symbolKey h.1 h.2

/-! ## Many lexemes -/

/-- Every character is a blank. -/
def IsBlank (gap : String) : Prop :=
  ∀ c ∈ gap.toList, Unicode.isSpace c = true

instance : DecidablePred IsBlank := fun gap =>
  List.decidableBAll (Unicode.isSpace · = true) gap.toList

/-- Lexemes one after the other, each with what stands behind it. -/
def spellAll : List (Lexeme × String) → String
  | [] => ""
  | (l, gap) :: parts => l.spell ++ gap ++ spellAll parts

/-- Lexemes that are spelled behind a text, each where it stands. -/
def placed (before : String) (parts : List (Lexeme × String)) : List Token :=
  parts.mapIdx fun i part => ⟨part.1, (before ++ spellAll (parts.take i)).length⟩

theorem placed_cons (before : String) (l : Lexeme) (gap : String)
    (parts : List (Lexeme × String)) :
    placed before ((l, gap) :: parts) =
      ⟨l, before.length⟩ :: placed (before ++ (l.spell ++ gap)) parts := by
  simp [placed, List.mapIdx_cons, spellAll, String.append_assoc]

theorem lexemes_placed (before : String) (parts : List (Lexeme × String)) :
    lexemes (placed before parts) = parts.map Prod.fst := by
  induction parts generalizing before with
  | nil => rfl
  | cons part parts ih => rw [placed_cons, lexemes_cons, ih, List.map_cons]

/-- One lexeme is read with the blanks behind it, if there are any or nothing else stands there. -/
theorem Lexeme.HasSpelling.reads {l : Lexeme} (h : l.HasSpelling) {gap : String}
    (hgap : IsBlank gap) {behind : List Char} (hends : gap ≠ "" ∨ behind = []) (position : Nat) :
    Reads behind position (l.spell ++ gap).toList [⟨l, position⟩] := by
  have halone : Reads [] position (l.spell.toList ++ []) [⟨l, position⟩] :=
    .lexeme h.written (.nil l) .nil
  rw [List.append_nil] at halone
  rw [String.toList_append]
  by_cases hne : gap = ""
  · obtain rfl := hends.resolve_left (not_not.2 hne)
    rwa [hne, String.toList_empty, List.append_nil]
  · exact halone.append_gap (mt String.toList_eq_nil_iff.1 hne) hgap behind

/-- What is spelled is read, each lexeme where it stands. -/
theorem reads_spellAll {parts : List (Lexeme × String)}
    (hspelled : ∀ part ∈ parts, part.1.HasSpelling) (hblank : ∀ part ∈ parts, IsBlank part.2)
    (hapart : ∀ part ∈ parts.dropLast, part.2 ≠ "") (before : String) :
    Reads [] before.length (spellAll parts).toList (placed before parts) := by
  induction parts generalizing before with
  | nil => exact .nil
  | cons part parts ih =>
    obtain ⟨l, gap⟩ := part
    obtain ⟨hl, hspelled⟩ := List.forall_mem_cons.1 hspelled
    obtain ⟨hgap, hblank⟩ := List.forall_mem_cons.1 hblank
    have hends : gap ≠ "" ∨ (spellAll parts).toList ++ [] = [] := by
      cases parts with
      | nil => exact .inr rfl
      | cons next parts => exact .inl (hapart (l, gap) List.mem_cons_self)
    have hrest : ∀ part ∈ parts.dropLast, part.2 ≠ "" := by
      cases parts with
      | nil => simp
      | cons next parts => exact fun part hpart => hapart part (List.mem_cons_of_mem _ hpart)
    have hreads := ih hspelled hblank hrest (before ++ (l.spell ++ gap))
    rw [String.length_append, ← String.length_toList (s := l.spell ++ gap)] at hreads
    rw [placed_cons, spellAll, String.toList_append]
    exact (hl.reads hgap hends before.length).append hreads

/-! ## What blanks mean -/

/-- A text compiles by its lexemes, wherever they stand. -/
theorem compileText_congr {text text' : String} {tokens tokens' : List Token}
    (h : tokenize text = .ok tokens) (h' : tokenize text' = .ok tokens')
    (hlexemes : lexemes tokens = lexemes tokens') (extractor : Option Extractor)
    (candidates : ValueType) (t : Tree) :
    compileText extractor candidates text = .ok t ↔
      compileText extractor candidates text' = .ok t := by
  simp only [compileText_eq_ok_iff, h, h', Except.ok.injEq, exists_eq_left',
    compileTokens_eq_ok_iff, hlexemes]

/-! ## Spellings -/

/-- Lexemes that are spelled with blanks before the first one, between neighbours and behind the
last one. -/
structure Spelling where
  /-- What stands before the first lexeme. -/
  lead : String
  /-- The lexemes, each with what stands behind it. -/
  parts : List (Lexeme × String)
  spelled : ∀ part ∈ parts, part.1.HasSpelling
  lead_blank : IsBlank lead
  gap_blank : ∀ part ∈ parts, IsBlank part.2
  apart : ∀ part ∈ parts.dropLast, part.2 ≠ ""

namespace Spelling

def text (s : Spelling) : String :=
  s.lead ++ spellAll s.parts

/-- The lexemes that are spelled. -/
def lexemes (s : Spelling) : List Lexeme :=
  s.parts.map Prod.fst

/-- The lexemes, each with the length of what is spelled before it. -/
def tokens (s : Spelling) : List Token :=
  placed s.lead s.parts

/-- One lexeme, with no blanks. -/
def single (l : Lexeme) (h : l.HasSpelling) : Spelling where
  lead := ""
  parts := [(l, "")]
  spelled := by simpa using h
  lead_blank := by simp [IsBlank]
  gap_blank := by simp [IsBlank]
  apart := by simp

theorem reads (s : Spelling) : Reads [] 0 s.text.toList s.tokens := by
  have hreads := reads_spellAll s.spelled s.gap_blank s.apart s.lead
  have hlead : Reads ((spellAll s.parts).toList ++ []) 0 s.lead.toList [] :=
    .blanks s.lead_blank 0
  rw [text, String.toList_append]
  refine hlead.append ?_
  rwa [Nat.zero_add, String.length_toList]

theorem tokenize_text (s : Spelling) : tokenize s.text = .ok s.tokens :=
  tokenize_eq_ok_iff.2 s.reads

end Spelling

/-- Tokens of a text that was spelled.

A spelling of any lexemes, with any blanks between them, has these lexemes as its tokens, each at
the offset at which it was spelled.  A quoted literal is a single token, whatever its text.

Blanks mean nothing: a spelling compiles to the same tree as any other text with the same lexemes,
spelled with other blanks or written in another way. -/
theorem tokenize_spelling :
    (∀ s : Spelling, tokenize s.text = .ok s.tokens) ∧
    (∀ literal : String, tokenize (quoteLiteral literal) = .ok [⟨.literal literal, 0⟩]) ∧
    (∀ s s' : Spelling, s.lexemes = s'.lexemes → ∀ extractor candidates t,
      compileText extractor candidates s.text = .ok t ↔
        compileText extractor candidates s'.text = .ok t) ∧
    (∀ (s : Spelling) (text : String) (tokens : List Token), tokenize text = .ok tokens →
      lexemes tokens = s.lexemes → ∀ extractor candidates t,
        compileText extractor candidates text = .ok t ↔
          compileText extractor candidates s.text = .ok t) := by
  have hlexemes : ∀ s : Spelling, lexemes s.tokens = s.lexemes :=
    fun s => lexemes_placed s.lead s.parts
  refine ⟨Spelling.tokenize_text, fun literal => ?_, fun s s' h => ?_, fun s text tokens h h' => ?_⟩
  · have hsingle := (Spelling.single (.literal literal) trivial).tokenize_text
    simpa [Spelling.single, Spelling.text, Spelling.tokens, spellAll, placed, Lexeme.spell]
      using hsingle
  · exact compileText_congr s.tokenize_text s'.tokenize_text (by rw [hlexemes, hlexemes, h])
  · exact compileText_congr h s.tokenize_text (by rw [hlexemes, h'])

/-- A test of a backslash and a quote, spelled with one space and with more blanks than needed. -/
theorem tokenize_spelling_backslash :
    ∃ s s' : Spelling, s.text = "eq \"\\\\\\\"\"" ∧ s'.text = "\teq \n\"\\\\\\\"\" " ∧
      tokenize s.text = .ok [⟨.symbol "eq" none, 0⟩, ⟨.literal "\\\"", 3⟩] ∧
      tokenize s'.text = .ok [⟨.symbol "eq" none, 1⟩, ⟨.literal "\\\"", 5⟩] ∧
      ∀ t, compileText none .text s.text = .ok t ↔ compileText none .text s'.text = .ok t := by
  let s : Spelling :=
    { lead := ""
      parts := [(.symbol "eq" none, " "), (.literal "\\\"", "")]
      spelled := by decide
      lead_blank := by decide
      gap_blank := by decide
      apart := by decide }
  let s' : Spelling :=
    { lead := "\t"
      parts := [(.symbol "eq" none, " \n"), (.literal "\\\"", " ")]
      spelled := by decide
      lead_blank := by decide
      gap_blank := by decide
      apart := by decide }
  have htokens : s.tokens = [⟨.symbol "eq" none, 0⟩, ⟨.literal "\\\"", 3⟩] := by decide
  have htokens' : s'.tokens = [⟨.symbol "eq" none, 1⟩, ⟨.literal "\\\"", 5⟩] := by decide
  exact ⟨s, s', by decide, by decide, htokens ▸ tokenize_spelling.1 s,
    htokens' ▸ tokenize_spelling.1 s', tokenize_spelling.2.2.1 s s' rfl none .text⟩

end ImageSelect.Filter
