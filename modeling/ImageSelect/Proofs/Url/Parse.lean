import Mathlib.Data.List.TakeWhile
import Mathlib.Tactic.Tauto
import ImageSelect.Proofs.Except
import ImageSelect.Proofs.Text.Split
import ImageSelect.Proofs.Url.Percent
import ImageSelect.Url.Basic

/-!
# URLs and their parts

What is read from a URL is found in its text: the scheme in front of the first
colon, the authority behind a double slash, then the path and what follows it
(`exists_of_parse`).

A URL that is written from a scheme, an authority that was accepted and an
encoded path is read as those parts and nothing else (`parse_write`).

Reading checks the escapes of the text as a whole.  Escapes do not run over a
character that is no digit, so the parts can be checked one by one
(`escapesFit_append`).
-/

namespace ImageSelect.Url

open ImageSelect.Text

/-! ## Characters -/

/-- What holds of all ASCII characters holds of a character below U+0080. -/
theorem ascii_all {P : Char → Prop} (h : ∀ n < 0x80, P (Char.ofNat n)) {c : Char}
    (hc : c.toNat < 0x80) : P c := by
  have hchar := h c.toNat hc
  rwa [Char.ofNat_toNat] at hchar

theorem toLower_eq_self {c : Char} (h : c.isUpper = false) : c.toLower = c := by
  unfold Char.toLower
  exact dif_neg (of_decide_eq_false h)

theorem toLower_toLower (c : Char) : c.toLower.toLower = c.toLower := by
  unfold Char.toLower
  grind

theorem toNat_lt_of_isEncoded {c : Char} (h : isEncoded c = true) : c.toNat < 0x80 := by
  simp only [isEncoded, Bool.or_eq_true, decide_eq_true_eq] at h
  rcases h with h | rfl
  · exact toNat_lt_of_isSafe h
  · decide

theorem isUrlChar_of_isEncoded {c : Char} (h : isEncoded c = true) : isUrlChar c = true :=
  ascii_all (P := fun c => isEncoded c = true → isUrlChar c = true) (by decide)
    (toNat_lt_of_isEncoded h) h

/-! ## Escapes -/

theorem escapesFit_cons {c : Char} (h : c ≠ '%') (text : List Char) :
    escapesFit (c :: text) = escapesFit text := by
  rw [escapesFit]
  exact h

/-- What has no percent sign fits in front of anything. -/
theorem escapesFit_append_left {text : List Char} (h : '%' ∉ text) (more : List Char) :
    escapesFit (text ++ more) = escapesFit more := by
  induction text with
  | nil => rfl
  | cons c text ih =>
    obtain ⟨hc, htext⟩ := List.ne_and_not_mem_of_not_mem_cons h
    rw [List.cons_append, escapesFit_cons (Ne.symm hc), ih htext]

/-- An escape ends before a character that is no digit. -/
theorem escapesFit_append {more : List Char}
    (h : ∀ c, more.head? = some c → isHexDigit c = false) (text : List Char) :
    escapesFit (text ++ more) = (escapesFit text && escapesFit more) := by
  induction text with
  | nil => simp [escapesFit]
  | cons c text ih =>
    by_cases hc : c = '%'
    · subst hc
      rcases text with _ | ⟨a, _ | ⟨b, text⟩⟩
      · rcases more with _ | ⟨x, _ | ⟨y, more⟩⟩
        · rfl
        · rfl
        · simp [escapesFit, h x rfl]
      · rcases more with _ | ⟨x, more⟩
        · rfl
        · simp [escapesFit, h x rfl]
      · rw [List.cons_append, List.cons_append, List.cons_append, escapesFit, escapesFit]
        rw [List.cons_append, List.cons_append] at ih
        rw [ih]
        simp only [Bool.and_assoc]
    · rw [List.cons_append, escapesFit_cons hc, escapesFit_cons hc, ih]

theorem isHexDigit_upperHexDigit : ∀ n < 16, isHexDigit (upperHexDigit n) = true := by
  decide

theorem upperHexDigit_ne_percent : ∀ n < 16, upperHexDigit n ≠ '%' := by
  decide

theorem escapesFit_escapeByte (b : UInt8) (text : List Char) :
    escapesFit (escapeByte b ++ text) = escapesFit text := by
  have hb : b.toNat < 256 := b.toNat_lt
  have hhigh : b.toNat / 16 < 16 := by omega
  have hlow : b.toNat % 16 < 16 := by omega
  rw [escapeByte, List.cons_append, List.cons_append, List.singleton_append, escapesFit,
    isHexDigit_upperHexDigit _ hhigh, isHexDigit_upperHexDigit _ hlow, Bool.true_and,
    Bool.true_and, escapesFit_cons (upperHexDigit_ne_percent _ hhigh),
    escapesFit_cons (upperHexDigit_ne_percent _ hlow)]

theorem escapesFit_escapes (bytes : List UInt8) (text : List Char) :
    escapesFit (bytes.flatMap escapeByte ++ text) = escapesFit text := by
  induction bytes with
  | nil => rfl
  | cons b bytes ih => rw [List.flatMap_cons, List.append_assoc, escapesFit_escapeByte, ih]

/-- The escapes of an encoded text fit. -/
theorem escapesFit_percentEncode (text : List Char) : escapesFit (percentEncode text) = true := by
  induction text with
  | nil => rfl
  | cons c text ih =>
    have hcons : percentEncode (c :: text) = encodeChar c ++ percentEncode text :=
      List.flatMap_cons
    rw [hcons, encodeChar]
    split
    · rename_i hsafe
      have hne : c ≠ '%' := by
        rintro rfl
        exact absurd hsafe (by decide)
      rw [List.singleton_append, escapesFit_cons hne, ih]
    · rw [escapesFit_escapes, ih]

/-! ## Schemes -/

/-- A text that may stand as a scheme: a letter, and characters of schemes. -/
structure IsScheme (scheme : List Char) : Prop where
  letter : ∃ first more, scheme = first :: more ∧ first.isAlpha = true
  chars : ∀ c ∈ scheme, isSchemeChar c = true

theorem toNat_lt_of_isSchemeChar {c : Char} (h : isSchemeChar c = true) : c.toNat < 0x80 := by
  simp only [isSchemeChar, Bool.or_eq_true, decide_eq_true_eq] at h
  rcases h with ((h | rfl) | rfl) | rfl
  · exact toNat_lt_of_isAlphanum h
  all_goals decide

theorem IsScheme.not_mem {scheme : List Char} (h : IsScheme scheme) {c : Char}
    (hc : isSchemeChar c = false) : c ∉ scheme :=
  fun hmem => absurd (h.chars c hmem) (by rw [hc]; exact Bool.false_ne_true)

/-- A scheme in lower case is one. -/
theorem IsScheme.lower {scheme : List Char} (h : IsScheme scheme) :
    IsScheme (scheme.map Char.toLower) where
  letter := by
    obtain ⟨first, more, rfl, hfirst⟩ := h.letter
    refine ⟨first.toLower, more.map Char.toLower, rfl, ?_⟩
    exact ascii_all (P := fun c => c.isAlpha = true → c.toLower.isAlpha = true) (by decide)
      (toNat_lt_of_isSchemeChar (h.chars first (List.mem_cons_self ..))) hfirst
  chars := by
    intro c hc
    obtain ⟨x, hx, rfl⟩ := List.mem_map.1 hc
    exact ascii_all (P := fun c => isSchemeChar c = true → isSchemeChar c.toLower = true)
      (by decide) (toNat_lt_of_isSchemeChar (h.chars x hx)) (h.chars x hx)

theorem map_toLower_toLower (scheme : List Char) :
    (scheme.map Char.toLower).map Char.toLower = scheme.map Char.toLower := by
  rw [List.map_map]
  exact List.map_congr_left fun c _ => toLower_toLower c

theorem IsScheme.isUrlChar {scheme : List Char} (h : IsScheme scheme) {c : Char}
    (hc : c ∈ scheme) : isUrlChar c = true :=
  ascii_all (P := fun c => isSchemeChar c = true → Url.isUrlChar c = true) (by decide)
    (toNat_lt_of_isSchemeChar (h.chars c hc)) (h.chars c hc)

theorem cutScheme_append {scheme : List Char} (h : IsScheme scheme) (rest : List Char) :
    cutScheme (scheme ++ ':' :: rest) = (scheme.map Char.toLower, rest) := by
  have hcut : cut ':' (scheme ++ ':' :: rest) = (scheme, some rest) :=
    cut_append (h.not_mem (by decide))
  obtain ⟨first, more, rfl, hfirst⟩ := h.letter
  have hall : (first :: more).all isSchemeChar = true := List.all_eq_true.2 h.chars
  rw [cutScheme, hcut]
  dsimp only
  rw [hfirst, hall]
  rfl

theorem exists_of_cutScheme {text scheme rest : List Char} (h : cutScheme text = (scheme, rest))
    (hne : scheme ≠ []) :
    ∃ raw, text = raw ++ ':' :: rest ∧ IsScheme raw ∧ scheme = raw.map Char.toLower := by
  unfold cutScheme at h
  split at h
  · rename_i first more after hcut
    obtain ⟨rfl, -⟩ := cut_eq_some hcut
    split at h
    · rename_i hscheme
      obtain ⟨hfirst, hall⟩ := (Bool.and_eq_true _ _).mp hscheme
      cases h
      exact ⟨first :: more, rfl, ⟨⟨first, more, rfl, hfirst⟩, List.all_eq_true.1 hall⟩, rfl⟩
    · cases h
      exact absurd rfl hne
  · cases h
    exact absurd rfl hne

/-! ## Authorities -/

/-- An authority that was accepted, with its port. -/
structure IsAuthority (authority : List Char) (port : Option Nat) : Prop where
  chars : ∀ c ∈ authority, isUrlChar c = true
  inside : ∀ c ∈ authority, endsAuthority c = false
  escapes : escapesFit authority = true
  host : checkHost authority = .ok ()
  compatible : checkCompatibility authority = .ok ()
  port : readPort authority = .ok port

theorem isAuthority_nil : IsAuthority [] none where
  chars := fun _ h => absurd h List.not_mem_nil
  inside := fun _ h => absurd h List.not_mem_nil
  escapes := rfl
  host := rfl
  compatible := rfl
  port := rfl

/-- What follows an authority: nothing, or a character that ends it. -/
def FollowsAuthority (rest : List Char) : Prop :=
  ∀ c, rest.head? = some c → endsAuthority c = true

theorem cutAuthority_append {authority rest : List Char}
    (h : ∀ c ∈ authority, endsAuthority c = false) (hrest : FollowsAuthority rest) :
    cutAuthority ('/' :: '/' :: authority ++ rest) = (authority, rest) := by
  have hall : ∀ c ∈ authority, (!endsAuthority c) = true := fun c hc => by rw [h c hc]; rfl
  have hstop : rest.takeWhile (!endsAuthority ·) = [] ∧
      rest.dropWhile (!endsAuthority ·) = rest := by
    cases rest with
    | nil => exact ⟨rfl, rfl⟩
    | cons c more => simp [hrest c rfl]
  rw [List.cons_append, List.cons_append, cutAuthority,
    List.takeWhile_append_of_pos hall, List.dropWhile_append_of_pos hall, hstop.1, hstop.2,
    List.append_nil]

theorem eq_of_cutAuthority {text authority rest : List Char}
    (h : cutAuthority text = (authority, rest)) (hne : authority ≠ []) :
    text = '/' :: '/' :: authority ++ rest ∧ (∀ c ∈ authority, endsAuthority c = false) ∧
      FollowsAuthority rest := by
  unfold cutAuthority at h
  split at h
  · rename_i below
    cases h
    refine ⟨?_, ?_, ?_⟩
    · rw [List.cons_append, List.cons_append, List.takeWhile_append_dropWhile]
    · intro c hc
      simpa using List.mem_takeWhile_imp hc
    · intro c hc
      have hstop := List.head?_dropWhile_not (!endsAuthority ·) below
      rw [hc] at hstop
      simpa using hstop
  · cases h
    exact absurd rfl hne

/-! ## Tails -/

theorem cutTail_of_not_mem {mark : Char} {text : List Char} (h : mark ∉ text) :
    cutTail mark text = (text, []) := by
  rw [cutTail, cut_of_not_mem h]
  rfl

theorem exists_of_cutTail {mark : Char} {text before after : List Char}
    (h : cutTail mark text = (before, after)) :
    ∃ tail, text = before ++ tail ∧ mark ∉ before ∧ (tail = [] ∨ tail = mark :: after) := by
  unfold cutTail at h
  cases hcut : cut mark text with
  | mk start rest =>
    rw [hcut] at h
    cases h
    cases rest with
    | none =>
      obtain ⟨rfl, hno⟩ := cut_eq_none hcut
      exact ⟨[], (List.append_nil _).symm, hno, .inl rfl⟩
    | some rest =>
      obtain ⟨rfl, hno⟩ := cut_eq_some hcut
      exact ⟨mark :: rest, rfl, hno, .inr rfl⟩

/-! ## Whole URLs -/

theorem cutParts_eq_ok_iff {text : List Char} {url : Url} :
    cutParts text = .ok url ↔
      ∃ rest below front, cutScheme text = (url.scheme, rest) ∧
        cutAuthority rest = (url.authority, below) ∧
        cutTail '#' below = (front, url.fragment) ∧ cutTail '?' front = (url.path, url.query) ∧
        checkHost url.authority = .ok () ∧ checkCompatibility url.authority = .ok () ∧
        readPort url.authority = .ok url.port := by
  unfold cutParts
  rcases hscheme : cutScheme text with ⟨scheme, rest⟩
  rcases hauthority : cutAuthority rest with ⟨authority, below⟩
  rcases hfragment : cutTail '#' below with ⟨front, fragment⟩
  rcases hquery : cutTail '?' front with ⟨path, query⟩
  simp only [hauthority, hfragment, hquery, Except.bind_eq_ok_iff, pure, Except.pure]
  constructor
  · rintro ⟨⟨⟩, hhost, ⟨⟩, hcompatible, port, hport, heq⟩
    cases heq
    exact ⟨rest, below, front, rfl, hauthority, hfragment, hquery, hhost, hcompatible, hport⟩
  · rintro ⟨rest', below', front', hs, ha, hf, hq, hhost, hcompatible, hport⟩
    cases hs
    rw [hauthority] at ha
    cases ha
    rw [hfragment] at hf
    cases hf
    rw [hquery] at hq
    cases hq
    exact ⟨(), hhost, (), hcompatible, url.port, hport, rfl⟩

theorem parse_eq_ok_iff {text : List Char} {url : Url} :
    parse text = .ok url ↔
      (∀ c ∈ text, isUrlChar c = true) ∧ escapesFit text = true ∧ cutParts text = .ok url ∧
        url.scheme ≠ [] := by
  unfold parse
  rw [← List.all_eq_true]
  cases text.all isUrlChar with
  | false => simp [throw, throwThe, MonadExceptOf.throw, bind, Except.bind]
  | true =>
    cases escapesFit text with
    | false => simp [throw, throwThe, MonadExceptOf.throw, bind, Except.bind]
    | true =>
      cases cutParts text with
      | error why => simp [Except.mapError, bind, Except.bind]
      | ok url' =>
        by_cases hscheme : url'.scheme = []
        · have hnone : url' = url → url.scheme = [] := by
            rintro rfl
            exact hscheme
          simpa [Except.mapError, bind, Except.bind, hscheme, throw, throwThe,
            MonadExceptOf.throw] using hnone
        · have hsome : url' = url → url.scheme ≠ [] := by
            rintro rfl
            exact hscheme
          simpa [Except.mapError, bind, Except.bind, hscheme, pure, Except.pure] using hsome

/-! ## Texts of URLs -/

theorem write_eq (scheme authority path : List Char) :
    write scheme authority path = scheme ++ ':' :: ('/' :: '/' :: authority ++ path) := by
  rw [write, List.append_assoc, List.cons_append]

theorem mem_write_iff {scheme authority path : List Char} {c : Char} :
    c ∈ write scheme authority path ↔
      c ∈ scheme ∨ c = ':' ∨ c = '/' ∨ c ∈ authority ∨ c ∈ path := by
  simp only [write, List.mem_append, List.mem_cons]
  tauto

theorem FollowsAuthority.not_isHexDigit {rest : List Char} (h : FollowsAuthority rest) {c : Char}
    (hc : rest.head? = some c) : isHexDigit c = false := by
  have hends := h c hc
  simp only [endsAuthority, Bool.or_eq_true, decide_eq_true_eq] at hends
  rcases hends with (rfl | rfl) | rfl <;> decide

/-- The escapes of a URL are those of its authority and of what follows. -/
theorem escapesFit_write {scheme : List Char} (hscheme : IsScheme scheme) {path : List Char}
    (hpath : FollowsAuthority path) (authority : List Char) :
    escapesFit (write scheme authority path) = (escapesFit authority && escapesFit path) := by
  have hmark : '%' ∉ scheme ++ [':', '/', '/'] := by
    rw [List.mem_append, not_or]
    exact ⟨hscheme.not_mem (by decide), by decide⟩
  have hwrite : write scheme authority path =
      (scheme ++ [':', '/', '/']) ++ (authority ++ path) := by simp [write]
  rw [hwrite, escapesFit_append_left hmark, escapesFit_append fun c => hpath.not_isHexDigit]

/-- The parts of a URL with an authority stand in its text. -/
theorem exists_of_parse {text : List Char} {url : Url} (h : parse text = .ok url)
    (hne : url.authority ≠ []) :
    ∃ raw tail, text = write raw url.authority (url.path ++ tail) ∧
      IsScheme raw ∧ url.scheme = raw.map Char.toLower ∧ IsAuthority url.authority url.port ∧
      (∀ c, url.path.head? = some c → c = '/') ∧
      (tail = [] ∨ '?' ∈ tail ∨ '#' ∈ tail) := by
  obtain ⟨hchars, hescapes, hparts, hscheme⟩ := parse_eq_ok_iff.1 h
  obtain ⟨rest, below, front, hs, ha, hf, hq, hhost, hcompatible, hport⟩ :=
    cutParts_eq_ok_iff.1 hparts
  obtain ⟨raw, rfl, hraw, hlower⟩ := exists_of_cutScheme hs hscheme
  obtain ⟨rfl, hinside, hfollows⟩ := eq_of_cutAuthority ha hne
  obtain ⟨behind, rfl, hhash, hbehind⟩ := exists_of_cutTail hf
  obtain ⟨query, rfl, hquestion, hquery⟩ := exists_of_cutTail hq
  rw [List.append_assoc] at hfollows
  have htext : raw ++ ':' :: ('/' :: '/' :: url.authority ++ (url.path ++ query ++ behind)) =
      write raw url.authority (url.path ++ (query ++ behind)) := by
    rw [write_eq, List.append_assoc]
  rw [htext] at hchars hescapes
  rw [escapesFit_write hraw hfollows, Bool.and_eq_true] at hescapes
  refine ⟨raw, query ++ behind, htext, hraw, hlower, ?_, ?_, ?_⟩
  · exact ⟨fun c hc => hchars c (mem_write_iff.2 (.inr (.inr (.inr (.inl hc))))), hinside,
      hescapes.1, hhost, hcompatible, hport⟩
  · intro c hc
    have hmem : c ∈ url.path := List.mem_of_mem_head? hc
    have hends := hfollows c (by rw [List.head?_append, hc]; rfl)
    simp only [endsAuthority, Bool.or_eq_true, decide_eq_true_eq] at hends
    rcases hends with (rfl | rfl) | rfl
    · rfl
    · exact absurd hmem hquestion
    · exact absurd (List.mem_append_left _ hmem) hhash
  · rcases hquery with rfl | rfl
    · rcases hbehind with rfl | rfl
      · exact .inl rfl
      · exact .inr (.inr List.mem_cons_self)
    · exact .inr (.inl List.mem_cons_self)

theorem not_mem_percentEncode {c : Char} (h : isEncoded c = false) (text : List Char) :
    c ∉ percentEncode text :=
  fun hmem => absurd (isEncoded_of_mem_percentEncode hmem) (by rw [h]; exact Bool.false_ne_true)

/-- What is written from a scheme, an authority and an encoded path is read as
these. -/
theorem parse_write {scheme authority text : List Char} {port : Option Nat}
    (hscheme : IsScheme scheme) (hauthority : IsAuthority authority port)
    (htext : ∀ c, text.head? = some c → c = '/') :
    parse (write (scheme.map Char.toLower) authority (percentEncode text)) =
      .ok ⟨scheme.map Char.toLower, authority, percentEncode text, [], [], port⟩ := by
  have hlower := hscheme.lower
  have hfollows : FollowsAuthority (percentEncode text) := by
    cases text with
    | nil => exact fun c hc => by cases hc
    | cons first rest =>
      obtain rfl := htext first rfl
      rw [percentEncode_slash]
      exact fun c hc => by
        obtain rfl := Option.some.inj hc
        rfl
  refine parse_eq_ok_iff.2 ⟨?_, ?_, ?_, ?_⟩
  · intro c hc
    rcases mem_write_iff.1 hc with hc | rfl | rfl | hc | hc
    · exact hlower.isUrlChar hc
    · decide
    · decide
    · exact hauthority.chars c hc
    · exact isUrlChar_of_isEncoded (isEncoded_of_mem_percentEncode hc)
  · rw [escapesFit_write hlower hfollows, hauthority.escapes, escapesFit_percentEncode]
    rfl
  · refine cutParts_eq_ok_iff.2 ⟨'/' :: '/' :: authority ++ percentEncode text,
      percentEncode text, percentEncode text, ?_, ?_, ?_, ?_, hauthority.host,
      hauthority.compatible, hauthority.port⟩
    · rw [write_eq, cutScheme_append hlower, map_toLower_toLower]
    · exact cutAuthority_append hauthority.inside hfollows
    · exact cutTail_of_not_mem (not_mem_percentEncode (by decide) text)
    · exact cutTail_of_not_mem (not_mem_percentEncode (by decide) text)
  · obtain ⟨first, more, heq, -⟩ := hlower.letter
    rw [heq]
    exact List.cons_ne_nil _ _

end ImageSelect.Url
