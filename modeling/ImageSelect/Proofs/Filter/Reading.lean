import Mathlib.Data.Nat.Init
import Mathlib.Tactic.ByContra
import ImageSelect.Proofs.Filter.Grammar
import ImageSelect.Proofs.Filter.Lexeme

/-!
# What the scanner reads

A text is blanks and written lexemes, one after the other, as far as it is read.  `Reads` says
that characters are read as tokens, with regard to what stands behind them: a symbol there would
go on, and a key in brackets would belong to the symbol before it.

* `Reads.scan`: the scanner takes what is read, and goes on behind it.
* `exists_reads`: every text is read up to its end, or up to a character that is no blank and
  starts no lexeme.  So the scanner succeeds exactly on what is read to the end
  (`Token.scan_eq_ok_iff`), and says of the rest where it stopped (`Token.scan_eq_error_iff`).
* `Reads.append`, `Reads.shift`: what is read one after the other is read together, and where a
  text starts plays no part but in the positions.
* `tokenize_exact`: all that together.
-/

namespace ImageSelect.Filter

/-! ## One step of the scanner -/

theorem Token.scan_space {c : Char} (h : Unicode.isSpace c = true) (position : Nat)
    (rest : List Char) : scan position (c :: rest) = scan (position + 1) rest := by
  rw [scan, if_pos h]

/-- A lexeme that is read is the first of what is scanned. -/
theorem Token.scan_lexeme {c : Char} {inside after : List Char} {lexeme : Lexeme}
    (hspace : Unicode.isSpace c = false)
    (hread : readLexeme c (inside ++ after) = some (lexeme, after)) (position : Nat) :
    scan position (c :: (inside ++ after)) =
      (scan (position + (inside.length + 1)) after).map (⟨lexeme, position⟩ :: ·) := by
  have hlength : (inside ++ after).length + 1 - after.length = inside.length + 1 := by
    rw [List.length_append]
    omega
  rw [scan, if_neg (by simp [hspace])]
  split
  · rename_i h
    exact absurd (h.symm.trans hread) (by simp)
  · rename_i lexeme' after' h
    obtain ⟨rfl, rfl⟩ := Prod.mk.inj (Option.some.inj (h.symm.trans hread))
    rw [hlength]
    cases scan (position + (inside.length + 1)) after' <;> simp [Except.map]

theorem Token.scan_stuck {c : Char} {rest : List Char} (hspace : Unicode.isSpace c = false)
    (hstuck : ¬StartsLexeme (c :: rest)) (position : Nat) :
    scan position (c :: rest) = .error (lexError c position) := by
  have hnone := readLexeme_eq_none_iff.2 hstuck
  rw [scan, if_neg (by simp [hspace])]
  split
  · rfl
  · rename_i hsome
    cases hnone.symm.trans hsome

/-! ## Where lexemes end -/

theorem isSymbolChar_of_isSpace {c : Char} (h : Unicode.isSpace c = true) :
    isSymbolChar c = false := by
  by_contra hc
  have hspace := (ne_of_isSymbolChar (by simpa using hc)).1
  exact Bool.false_ne_true (hspace.symm.trans h)

theorem StartsKey.append {text : List Char} (h : StartsKey text) (more : List Char) :
    StartsKey (text ++ more) := by
  obtain ⟨key, after, hkey, rfl⟩ := h
  exact ⟨key, after ++ more, hkey, by simp⟩

/-- A key in brackets holds no blank, so it ends before one. -/
theorem StartsKey.of_append_space {text rest : List Char} {c : Char}
    (hc : Unicode.isSpace c = true) (h : StartsKey (text ++ c :: rest)) : StartsKey text := by
  obtain ⟨key, after, hkey, heq⟩ := h
  have hsplit : text ++ c :: rest = ('[' :: (key.toList ++ [']'])) ++ after := by
    rw [heq]
    simp
  have hmem : c ∉ '[' :: (key.toList ++ [']']) := by
    intro hmem
    simp only [List.mem_cons, List.mem_append, List.not_mem_nil, or_false] at hmem
    rcases hmem with rfl | hmem | rfl
    · exact absurd hc (by decide)
    · have hparam := hkey.2 c hmem
      simp [isParamChar, hc] at hparam
    · exact absurd hc (by decide)
  rcases List.append_eq_append_iff.1 hsplit with ⟨middle, hkeyText, hrest⟩ | ⟨after', htext, -⟩
  · cases middle with
    | nil =>
      rw [List.append_nil] at hkeyText
      exact ⟨key, [], hkey, by rw [← hkeyText]⟩
    | cons d middle =>
      obtain ⟨rfl, -⟩ := List.cons.inj hrest
      exact absurd (by rw [hkeyText]; simp) hmem
  · exact ⟨key, after', hkey, by rw [htext]; simp⟩

namespace Lexeme.EndsBefore

variable {l : Lexeme} {text text' : List Char}

theorem of_ends (hsymbol : EndsSymbol text) (hkey : ¬StartsKey text) : l.EndsBefore text := by
  cases l with
  | symbol name key =>
    cases key with
    | none => exact ⟨hsymbol, hkey⟩
    | some key => trivial
  | _ => trivial

theorem imp (h : l.EndsBefore text) (hsymbol : EndsSymbol text → EndsSymbol text')
    (hkey : StartsKey text' → StartsKey text) : l.EndsBefore text' := by
  cases l with
  | symbol name key =>
    cases key with
    | none => exact ⟨hsymbol h.1, fun hstarts => h.2 (hkey hstarts)⟩
    | some key => trivial
  | _ => trivial

theorem nil (l : Lexeme) : l.EndsBefore [] := by
  refine of_ends (fun d hd => ?_) ?_
  · cases hd
  · rintro ⟨key, after, -, heq⟩
    cases heq

/-- What does not go on in a text does not go on in the front of it. -/
theorem of_append {more : List Char} (h : l.EndsBefore (text ++ more)) : l.EndsBefore text := by
  refine h.imp (fun hsymbol d hd => hsymbol d ?_) fun hkey => hkey.append more
  rw [List.head?_append, hd]
  rfl

/-- A blank behind a text takes no part in what ends before the text. -/
theorem append_space {c : Char} (hc : Unicode.isSpace c = true) (h : l.EndsBefore text)
    (rest : List Char) : l.EndsBefore (text ++ c :: rest) := by
  refine h.imp (fun hsymbol d hd => ?_) fun hkey => hkey.of_append_space hc
  cases text with
  | nil =>
    obtain rfl := Option.some.inj hd
    exact isSymbolChar_of_isSpace hc
  | cons first text => exact hsymbol d hd

end Lexeme.EndsBefore

/-! ## Reading -/

/-- With other characters behind them, characters that start at a position are read as tokens. -/
inductive Reads (behind : List Char) : Nat → List Char → List Token → Prop where
  | nil {position : Nat} : Reads behind position [] []
  | blank {position : Nat} {c : Char} {text : List Char} {tokens : List Token}
      (space : Unicode.isSpace c = true) (rest : Reads behind (position + 1) text tokens) :
      Reads behind position (c :: text) tokens
  | lexeme {position : Nat} {l : Lexeme} {chars text : List Char} {tokens : List Token}
      (written : l.Written chars) (ends : l.EndsBefore (text ++ behind))
      (rest : Reads behind (position + chars.length) text tokens) :
      Reads behind position (chars ++ text) (⟨l, position⟩ :: tokens)

/-- A token that stands further behind. -/
def Token.shift (offset : Nat) (token : Token) : Token :=
  { token with position := offset + token.position }

theorem Lexeme.Written.exists_cons {l : Lexeme} {chars : List Char} (h : l.Written chars) :
    ∃ c inside, chars = c :: inside := by
  cases h with
  | symbol spelled | symbolKey spelled spellable =>
    obtain ⟨c, inside, hname, -⟩ := exists_of_isSymbolText spelled
    rw [hname]
    exact ⟨_, _, rfl⟩
  | _ => exact ⟨_, _, rfl⟩

namespace Reads

variable {behind text : List Char} {position : Nat} {tokens : List Token}

/-- The scanner takes what is read, and goes on with what stands behind it. -/
theorem scan (h : Reads behind position text tokens) :
    Token.scan position (text ++ behind) =
      (Token.scan (position + text.length) behind).map (tokens ++ ·) := by
  induction h with
  | nil =>
    rw [List.nil_append, List.length_nil, Nat.add_zero]
    cases Token.scan _ behind <;> rfl
  | @blank position c text tokens space _ ih =>
    have hposition : position + (c :: text).length = position + 1 + text.length := by
      rw [List.length_cons]
      omega
    rw [List.cons_append, Token.scan_space space, ih, hposition]
  | @lexeme position l chars text tokens written ends _ ih =>
    obtain ⟨c, inside, rfl, hspace, hread⟩ := written.readLexeme ends
    have hposition : position + (c :: inside ++ text).length =
        position + (c :: inside).length + text.length := by
      rw [List.length_append]
      omega
    rw [List.append_assoc, List.cons_append, Token.scan_lexeme hspace hread, ← List.length_cons,
      ih, hposition]
    cases Token.scan (position + (c :: inside).length + text.length) behind <;> rfl

/-- What is read one after the other is read together. -/
theorem append {more : List Char} {tokens' : List Token}
    (h : Reads (more ++ behind) position text tokens)
    (hmore : Reads behind (position + text.length) more tokens') :
    Reads behind position (text ++ more) (tokens ++ tokens') := by
  induction h with
  | nil => exact hmore
  | @blank position c text tokens space _ ih =>
    refine .blank space (ih ?_)
    rwa [List.length_cons, Nat.add_comm text.length, ← Nat.add_assoc] at hmore
  | @lexeme position l chars text tokens written ends _ ih =>
    rw [List.append_assoc]
    refine .lexeme written (by rwa [List.append_assoc]) (ih ?_)
    rwa [List.length_append, ← Nat.add_assoc] at hmore

/-- Blanks are read as no token. -/
theorem blanks {gap : List Char} (h : ∀ c ∈ gap, Unicode.isSpace c = true) :
    ∀ position : Nat, Reads behind position gap [] := by
  induction gap with
  | nil => exact fun _ => .nil
  | cons c gap ih =>
    obtain ⟨hc, hgap⟩ := List.forall_mem_cons.1 h
    exact fun position => .blank hc (ih hgap (position + 1))

/-- What is read with other characters behind it is read by itself. -/
theorem alone (h : Reads behind position text tokens) : Reads [] position text tokens := by
  induction h with
  | nil => exact .nil
  | blank space _ ih => exact .blank space ih
  | lexeme written ends _ ih =>
    exact .lexeme written (by rw [List.append_nil]; exact ends.of_append) ih

/-- What is read by itself is read with a blank behind it. -/
theorem before_space {c : Char} (hc : Unicode.isSpace c = true)
    (h : Reads [] position text tokens) (rest : List Char) :
    Reads (c :: rest) position text tokens := by
  induction h with
  | nil => exact .nil
  | blank space _ ih => exact .blank space ih
  | lexeme written ends _ ih =>
    rw [List.append_nil] at ends
    exact .lexeme written (ends.append_space hc rest) ih

/-- Blanks keep apart what is read before them and what stands behind them. -/
theorem append_gap {gap : List Char} (h : Reads [] position text tokens) (hne : gap ≠ [])
    (hgap : ∀ c ∈ gap, Unicode.isSpace c = true) (behind : List Char) :
    Reads behind position (text ++ gap) tokens := by
  obtain ⟨c, more, rfl⟩ := List.exists_cons_of_ne_nil hne
  have hc : Unicode.isSpace c = true := hgap c List.mem_cons_self
  have happend := (h.before_space hc (more ++ behind)).append (blanks hgap _)
  rwa [List.append_nil] at happend

/-- Further behind, the same is read. -/
theorem shift (h : Reads behind position text tokens) (offset : Nat) :
    Reads behind (offset + position) text (tokens.map (Token.shift offset)) := by
  induction h with
  | nil => exact .nil
  | blank space _ ih => exact .blank space ih
  | lexeme written ends _ ih =>
    rw [← Nat.add_assoc] at ih
    exact .lexeme written ends ih

theorem position_le (h : Reads behind position text tokens) :
    ∀ token ∈ tokens, position ≤ token.position := by
  induction h with
  | nil => simp
  | blank _ _ ih => exact fun token htoken => Nat.le_of_succ_le (ih token htoken)
  | lexeme _ _ _ ih =>
    refine List.forall_mem_cons.2 ⟨Nat.le_refl _, fun token htoken => ?_⟩
    exact Nat.le_trans (Nat.le_add_right _ _) (ih token htoken)

/-- Tokens stand one behind the other. -/
theorem pairwise_position (h : Reads behind position text tokens) :
    tokens.Pairwise fun a b => a.position < b.position := by
  induction h with
  | nil => exact .nil
  | blank _ _ ih => exact ih
  | @lexeme position l chars text tokens written _ rest ih =>
    obtain ⟨c, inside, rfl⟩ := written.exists_cons
    refine .cons (fun token htoken => ?_) ih
    have hle := rest.position_le token htoken
    rw [List.length_cons] at hle
    dsimp only
    omega

/-- A token is written where it stands, and ends there. -/
theorem exists_written (h : Reads behind position text tokens) :
    ∀ token ∈ tokens, ∃ before chars after, text = before ++ (chars ++ after) ∧
      token.position = position + before.length ∧ token.lexeme.Written chars ∧
      token.lexeme.EndsBefore (after ++ behind) := by
  induction h with
  | nil => simp
  | @blank position c text tokens _ _ ih =>
    intro token htoken
    obtain ⟨before, chars, after, rfl, hposition, hwritten, hends⟩ := ih token htoken
    refine ⟨c :: before, chars, after, rfl, ?_, hwritten, hends⟩
    rw [hposition, List.length_cons]
    omega
  | @lexeme position l chars text tokens written ends _ ih =>
    refine List.forall_mem_cons.2 ⟨⟨[], chars, text, rfl, rfl, written, ends⟩, ?_⟩
    intro token htoken
    obtain ⟨before, chars', after, rfl, hposition, hwritten, hends⟩ := ih token htoken
    refine ⟨chars ++ before, chars', after, by rw [List.append_assoc], ?_, hwritten, hends⟩
    rw [hposition, List.length_append]
    omega

end Reads

/-! ## How far a text is read -/

/-- A text is read up to its end, or up to a character that is no blank and starts no lexeme. -/
theorem exists_reads (text : List Char) : ∀ position : Nat, ∃ before behind tokens,
    text = before ++ behind ∧ Reads behind position before tokens ∧
      ∀ c rest, behind = c :: rest → Unicode.isSpace c = false ∧ ¬StartsLexeme behind := by
  induction hlength : text.length using Nat.strong_induction_on generalizing text with
  | _ n ih =>
    intro position
    cases text with
    | nil => exact ⟨[], [], [], rfl, .nil, by simp⟩
    | cons c rest =>
      subst hlength
      cases hspace : Unicode.isSpace c with
      | true =>
        obtain ⟨before, behind, tokens, rfl, hreads, hstop⟩ :=
          ih _ (by simp) rest rfl (position + 1)
        exact ⟨c :: before, behind, tokens, rfl, .blank hspace hreads, hstop⟩
      | false =>
        cases hread : readLexeme c rest with
        | none =>
          refine ⟨[], c :: rest, [], rfl, .nil, ?_⟩
          rintro d rest' heq
          obtain ⟨rfl, rfl⟩ := List.cons.inj heq
          exact ⟨hspace, readLexeme_eq_none_iff.1 hread⟩
        | some read =>
          obtain ⟨l, after⟩ := read
          obtain ⟨inside, rfl, hwritten, hends⟩ := exists_written hread
          obtain ⟨before, behind, tokens, rfl, hreads, hstop⟩ :=
            ih _ (by simp only [List.length_cons, List.length_append]; omega) after rfl
              (position + (c :: inside).length)
          exact ⟨c :: inside ++ before, behind, _, by simp, .lexeme hwritten hends hreads, hstop⟩

/-- The scanner succeeds on what is read to its end. -/
theorem Token.scan_eq_ok_iff {position : Nat} {text : List Char} {tokens : List Token} :
    scan position text = .ok tokens ↔ Reads [] position text tokens := by
  constructor
  · intro h
    obtain ⟨before, behind, tokens', rfl, hreads, hstop⟩ := exists_reads text position
    rw [hreads.scan] at h
    cases behind with
    | nil =>
      rw [scan] at h
      obtain rfl : tokens' ++ [] = tokens := Except.ok.inj h
      rwa [List.append_nil, List.append_nil]
    | cons c rest =>
      obtain ⟨hspace, hstuck⟩ := hstop c rest rfl
      rw [scan_stuck hspace hstuck] at h
      cases h
  · intro h
    have hscan := h.scan
    rw [List.append_nil, scan] at hscan
    rw [hscan]
    exact congrArg Except.ok (List.append_nil tokens)

/-- The scanner fails where it has read to a character that is no blank and starts no lexeme. -/
theorem Token.scan_eq_error_iff {position : Nat} {text : List Char} {why : LexError} :
    scan position text = .error why ↔
      ∃ before c rest tokens, text = before ++ c :: rest ∧
        Reads (c :: rest) position before tokens ∧ Unicode.isSpace c = false ∧
        ¬StartsLexeme (c :: rest) ∧ why = lexError c (position + before.length) := by
  constructor
  · intro h
    obtain ⟨before, behind, tokens, rfl, hreads, hstop⟩ := exists_reads text position
    rw [hreads.scan] at h
    cases behind with
    | nil =>
      rw [scan] at h
      cases h
    | cons c rest =>
      obtain ⟨hspace, hstuck⟩ := hstop c rest rfl
      rw [scan_stuck hspace hstuck] at h
      exact ⟨before, c, rest, tokens, rfl, hreads, hspace, hstuck, (Except.error.inj h).symm⟩
  · rintro ⟨before, c, rest, tokens, rfl, hreads, hspace, hstuck, rfl⟩
    rw [hreads.scan, scan_stuck hspace hstuck]
    rfl

/-! ## Tokens of a text -/

theorem tokenize_eq_ok_iff {text : String} {tokens : List Token} :
    tokenize text = .ok tokens ↔ Reads [] 0 text.toList tokens :=
  Token.scan_eq_ok_iff

theorem tokenize_eq_error_iff {text : String} {why : LexError} :
    tokenize text = .error why ↔
      ∃ before c rest tokens, text.toList = before ++ c :: rest ∧
        Reads (c :: rest) 0 before tokens ∧ Unicode.isSpace c = false ∧
        ¬StartsLexeme (c :: rest) ∧ why = lexError c before.length := by
  rw [tokenize, Token.scan_eq_error_iff]
  simp only [Nat.zero_add]

/-- Each failure is about one position. -/
theorem eq_of_lexError_eq {c c' : Char} {position position' : Nat}
    (h : lexError c position = lexError c' position') : position = position' := by
  unfold lexError at h
  split at h <;> split at h <;> cases h <;> rfl

/-- Of all places that a text is read to, the failure is about the first one where reading
stops. -/
theorem isSpace_or_startsLexeme_of_lt {text : String} {position : Nat} {c : Char}
    (h : tokenize text = .error (lexError c position)) {before rest : List Char} {d : Char}
    {tokens : List Token} (htext : text.toList = before ++ d :: rest)
    (hreads : Reads (d :: rest) 0 before tokens) (hlt : before.length < position) :
    Unicode.isSpace d = true ∨ StartsLexeme (d :: rest) := by
  by_contra hstop
  obtain ⟨hspace, hstuck⟩ := not_or.1 hstop
  have herror : tokenize text = .error (lexError d before.length) :=
    tokenize_eq_error_iff.2 ⟨before, d, rest, tokens, htext, hreads, by simpa using hspace,
      hstuck, rfl⟩
  have hsame := eq_of_lexError_eq (Except.error.inj (h.symm.trans herror))
  omega

theorem tokenize_append {a gap b : String} {as bs : List Token} (ha : tokenize a = .ok as)
    (hb : tokenize b = .ok bs) (hne : gap ≠ "")
    (hgap : ∀ c ∈ gap.toList, Unicode.isSpace c = true) :
    tokenize (a ++ gap ++ b) = .ok (as ++ bs.map (Token.shift (a ++ gap).length)) := by
  rw [tokenize_eq_ok_iff] at ha hb ⊢
  have hne' : gap.toList ≠ [] := mt String.toList_eq_nil_iff.1 hne
  have hback := hb.shift (0 + (a.toList ++ gap.toList).length)
  rw [Nat.add_zero] at hback
  have hlength : (a ++ gap).length = 0 + (a.toList ++ gap.toList).length := by
    rw [Nat.zero_add, ← String.toList_append, String.length_toList]
  rw [String.toList_append, String.toList_append, hlength]
  exact (ha.append_gap hne' hgap _).append hback

/-- The scanner reads a text as it is written, all of it or up to where it stops.

It gives tokens for a text exactly if the text is blanks and the lexemes of these tokens, each
written at its position, which are in order; a symbol is as long as possible and takes a key that
follows it directly, and a literal ends at the first quote that is not escaped.

It fails exactly if a text is read so far only, to a character that is no blank and starts no
lexeme.  The failure is about the position of that character, the first such place in the reading,
and says that a literal is not terminated if the character is a quote.  The text before it has the
tokens that were read.

Two texts with tokens that are put together with blanks between them have the tokens of the first
one, and those of the second one further behind. -/
theorem tokenize_exact :
    (∀ (text : String) (tokens : List Token),
      tokenize text = .ok tokens ↔ Reads [] 0 text.toList tokens) ∧
    (∀ (text : String) (tokens : List Token), tokenize text = .ok tokens →
      (tokens.Pairwise fun a b => a.position < b.position) ∧
      ∀ token ∈ tokens, ∃ before chars after, text.toList = before ++ (chars ++ after) ∧
        token.position = before.length ∧ token.lexeme.Written chars ∧
        token.lexeme.EndsBefore after) ∧
    (∀ (text : String) (why : LexError), tokenize text = .error why ↔
      ∃ before c rest tokens, text.toList = before ++ c :: rest ∧
        Reads (c :: rest) 0 before tokens ∧ Unicode.isSpace c = false ∧
        ¬StartsLexeme (c :: rest) ∧ tokenize (String.ofList before) = .ok tokens ∧
        (∀ before' d rest' tokens', text.toList = before' ++ d :: rest' →
          Reads (d :: rest') 0 before' tokens' → before'.length < before.length →
            Unicode.isSpace d = true ∨ StartsLexeme (d :: rest')) ∧
        why = if c = '"' then .unterminated before.length else .unexpected c before.length) ∧
    (∀ (a gap b : String) (as bs : List Token), tokenize a = .ok as → tokenize b = .ok bs →
      gap ≠ "" → (∀ c ∈ gap.toList, Unicode.isSpace c = true) →
        tokenize (a ++ gap ++ b) = .ok (as ++ bs.map (Token.shift (a ++ gap).length))) := by
  refine ⟨fun _ _ => tokenize_eq_ok_iff, ?positions, ?failure,
    fun _ _ _ _ _ => tokenize_append⟩
  case positions =>
    intro text tokens h
    have hreads := tokenize_eq_ok_iff.1 h
    refine ⟨hreads.pairwise_position, fun token htoken => ?_⟩
    obtain ⟨before, chars, after, htext, hposition, hwritten, hends⟩ :=
      hreads.exists_written token htoken
    rw [Nat.zero_add] at hposition
    rw [List.append_nil] at hends
    exact ⟨before, chars, after, htext, hposition, hwritten, hends⟩
  case failure =>
    intro text why
    constructor
    · intro h
      obtain ⟨before, c, rest, tokens, htext, hreads, hspace, hstuck, rfl⟩ :=
        tokenize_eq_error_iff.1 h
      refine ⟨before, c, rest, tokens, htext, hreads, hspace, hstuck, ?_, ?_, rfl⟩
      · rw [tokenize_eq_ok_iff, String.toList_ofList]
        exact hreads.alone
      · exact fun _ _ _ _ => isSpace_or_startsLexeme_of_lt h
    · rintro ⟨before, c, rest, tokens, htext, hreads, hspace, hstuck, -, -, rfl⟩
      exact tokenize_eq_error_iff.2 ⟨before, c, rest, tokens, htext, hreads, hspace, hstuck, rfl⟩

/-- The statement for a look-up and a test of a quote, with a tab and a space between them. -/
theorem tokenize_exact_quote :
    let front := "metadata[Frame]"
    let back := "eq \"\\\"\""
    let tokens : List Token := [⟨.symbol "metadata" (some "Frame"), 0⟩, ⟨.symbol "eq" none, 17⟩,
      ⟨.literal "\"", 20⟩]
    tokenize (front ++ "\t " ++ back) = .ok tokens ∧
      (tokens.Pairwise fun a b => a.position < b.position) ∧
      ∃ before chars after, (front ++ "\t " ++ back).toList = before ++ (chars ++ after) ∧
        20 = before.length ∧ (Lexeme.literal "\"").Written chars := by
  intro front back tokens
  have hfront : tokenize front = .ok [⟨.symbol "metadata" (some "Frame"), 0⟩] := by
    decide +kernel
  have hback : tokenize back = .ok [⟨.symbol "eq" none, 0⟩, ⟨.literal "\"", 3⟩] := by
    decide +kernel
  have hgap : ∀ c ∈ "\t ".toList, Unicode.isSpace c = true := by simp [Unicode.isSpace]
  have hwhole := tokenize_exact.2.2.2 front "\t " back _ _ hfront hback (by decide) hgap
  have hlength : (front ++ "\t ").length = 17 := by decide
  rw [hlength] at hwhole
  change tokenize (front ++ "\t " ++ back) = .ok tokens at hwhole
  obtain ⟨hpairwise, hwritten⟩ := tokenize_exact.2.1 _ _ hwhole
  obtain ⟨before, chars, after, htext, hposition, hchars, -⟩ :=
    hwritten ⟨.literal "\"", 20⟩ (by decide)
  exact ⟨hwhole, hpairwise, before, chars, after, htext, hposition, hchars⟩

end ImageSelect.Filter
