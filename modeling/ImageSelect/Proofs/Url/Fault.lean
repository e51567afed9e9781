import Mathlib.Tactic.Push
import ImageSelect.Proofs.Url.Parse

/-!
# What is wrong with a URL

A text is refused as a URL for one of a few reasons, and each of them can be seen in the text
without reading it in order.

* `AuthorityFault.Found` and `Fault.Found` say where a fault stands.
* `Fault.found_of_parse`: the fault that is reported is there.
* `exists_parse_error_iff`: a text is refused exactly if some fault is there.
-/

namespace ImageSelect.Url

open ImageSelect.Text

/-! ## Faults of an authority -/

/-- The text that must be an address in an authority with brackets. -/
def addressText (authority : List Char) : List Char :=
  match cut '[' (hostAndPort authority) with
  | (_, some inside) => (cutTail ']' inside).1
  | (host, none) => (cutTail ':' host).1

/-- The number that a text of digits stands for. -/
def portNumber (digits : List Char) : Nat :=
  ofDigits (digits.map fun c => c.toNat - 0x30)

/-- An authority has brackets of both kinds. -/
def HasBrackets (authority : List Char) : Prop :=
  '[' ∈ authority ∧ ']' ∈ authority

/-- Behind the last `@` nothing stands before the brackets, and only a port follows them. -/
def PlacesBrackets (authority : List Char) : Prop :=
  ∀ front inside, hostAndPort authority = front ++ '[' :: inside → '[' ∉ front →
    front = [] ∧ ∀ host after, inside = host ++ ']' :: after → ']' ∉ host →
      after = [] ∨ after.head? = some ':'

/-- A fault can be seen in an authority. -/
inductive AuthorityFault.Found (authority : List Char) : AuthorityFault → Prop
  | unpaired (h : ¬('[' ∈ authority ↔ ']' ∈ authority)) : Found authority .brackets
  | misplaced (both : HasBrackets authority) (h : ¬PlacesBrackets authority) :
      Found authority .brackets
  | laterVersion (both : HasBrackets authority)
      (version : (addressText authority).head? = some 'v')
      (h : isLaterVersion (addressText authority) = false) : Found authority .laterVersion
  | bracketedIPv4 (both : HasBrackets authority)
      (noVersion : (addressText authority).head? ≠ some 'v')
      (h : isIPv4 (addressText authority) = true) : Found authority .bracketedIPv4
  | noAddress (both : HasBrackets authority)
      (noVersion : (addressText authority).head? ≠ some 'v')
      (h : isIPv6 (addressText authority) = false) :
      Found authority (.noAddress (addressText authority))
  | compatibility {c : Char} (mem : c ∈ authority) (h : Unicode.hidesDelimiter c = true) :
      Found authority (.compatibility authority)
  | portDigits {c : Char} (mem : c ∈ portText authority) (h : c.isDigit = false) :
      Found authority (.portDigits (portText authority))
  | portLength (h : digitLimit < (portText authority).length) :
      Found authority (.portLength (portText authority).length)
  | portRange (h : 65535 < portNumber (portText authority)) : Found authority .portRange

section
variable {authority : List Char} {why : AuthorityFault}

/-- The check of what stands between brackets. -/
def checkAddress (host : List Char) : Except AuthorityFault Unit :=
  if host.head? = some 'v' then
    if isLaterVersion host then .ok () else .error .laterVersion
  else if isIPv4 host then .error .bracketedIPv4
  else if isIPv6 host then .ok ()
  else .error (.noAddress host)

theorem checkBrackets_of_places (h : PlacesBrackets authority) :
    checkBrackets authority = checkAddress (addressText authority) := by
  unfold checkBrackets addressText
  rcases hcut : cut '[' (hostAndPort authority) with ⟨front, _ | inside⟩
  · rfl
  · obtain ⟨hsplit, hfirst⟩ := cut_eq_some hcut
    obtain ⟨rfl, hafter⟩ := h front inside hsplit hfirst
    rcases htail : cutTail ']' inside with ⟨host, after⟩
    have hport : after = [] ∨ after.head? = some ':' := by
      obtain ⟨tail, rfl, hno, rfl | rfl⟩ := exists_of_cutTail htail
      · rw [List.append_nil, cutTail_of_not_mem hno] at htail
        cases htail
        exact .inl rfl
      · exact hafter host after rfl hno
    have hfits : (!after.isEmpty && decide (after.head? ≠ some ':')) = false := by
      rcases hport with rfl | hport
      · rfl
      · simp [hport]
    simp only [htail, hfits]
    rfl

theorem checkBrackets_of_not_places (h : ¬PlacesBrackets authority) :
    checkBrackets authority = .error .brackets := by
  unfold checkBrackets
  unfold PlacesBrackets at h
  push Not at h
  obtain ⟨front, inside, hsplit, hfirst, hplaced⟩ := h
  rw [hsplit, cut_append hfirst]
  cases front with
  | cons c front => rfl
  | nil =>
    obtain ⟨host, after, rfl, hno, hne, hhead⟩ := hplaced rfl
    have htail : cutTail ']' (host ++ ']' :: after) = (host, after) := by
      rw [cutTail, cut_append hno]
      rfl
    have hstray : (!after.isEmpty && decide (after.head? ≠ some ':')) = true := by
      simp [hne, hhead]
    simp only [htail, hstray]
    rfl

theorem checkHost_of_both (h : HasBrackets authority) :
    checkHost authority = checkBrackets authority := by
  unfold checkHost
  rw [List.contains_iff_mem.2 h.1, List.contains_iff_mem.2 h.2]

theorem checkHost_of_unpaired (h : ¬('[' ∈ authority ↔ ']' ∈ authority)) :
    checkHost authority = .error .brackets := by
  rw [← List.contains_iff_mem, ← List.contains_iff_mem] at h
  unfold checkHost
  cases hopen : authority.contains '[' <;> cases hclose : authority.contains ']'
  · exact absurd (by rw [hopen, hclose]) h
  · rfl
  · rfl
  · exact absurd (by rw [hopen, hclose]) h

theorem checkHost_of_none (hopen : '[' ∉ authority) (hclose : ']' ∉ authority) :
    checkHost authority = .ok () := by
  unfold checkHost
  rw [← List.contains_iff_mem, Bool.not_eq_true] at hopen hclose
  rw [hopen, hclose]
  rfl

theorem found_of_checkHost (h : checkHost authority = .error why) : why.Found authority := by
  by_cases hpair : '[' ∈ authority ↔ ']' ∈ authority
  case neg =>
    rw [checkHost_of_unpaired hpair] at h
    cases h
    exact .unpaired hpair
  by_cases hopen : '[' ∈ authority
  case neg =>
    rw [checkHost_of_none hopen fun hclose => hopen (hpair.2 hclose)] at h
    cases h
  have both : HasBrackets authority := ⟨hopen, hpair.1 hopen⟩
  rw [checkHost_of_both both] at h
  by_cases hplaces : PlacesBrackets authority
  case neg =>
    rw [checkBrackets_of_not_places hplaces] at h
    cases h
    exact .misplaced both hplaces
  rw [checkBrackets_of_places hplaces, checkAddress] at h
  split at h
  · rename_i version
    split at h
    · cases h
    · rename_i hversion
      cases h
      exact .laterVersion both version (Bool.not_eq_true _ ▸ hversion)
  · rename_i noVersion
    split at h
    · rename_i hfour
      cases h
      exact .bracketedIPv4 both noVersion hfour
    · split at h
      · cases h
      · rename_i hsix
        cases h
        exact .noAddress both noVersion (Bool.not_eq_true _ ▸ hsix)

/-- What is between brackets in the right places is an address if the host is accepted. -/
theorem checkAddress_of_checkHost (both : HasBrackets authority)
    (h : checkHost authority = .ok ()) :
    PlacesBrackets authority ∧ checkAddress (addressText authority) = .ok () := by
  rw [checkHost_of_both both] at h
  by_cases hplaces : PlacesBrackets authority
  · rw [checkBrackets_of_places hplaces] at h
    exact ⟨hplaces, h⟩
  · rw [checkBrackets_of_not_places hplaces] at h
    cases h

theorem checkCompatibility_eq_ok_iff :
    checkCompatibility authority = .ok () ↔ ∀ c ∈ authority, Unicode.hidesDelimiter c = false := by
  unfold checkCompatibility
  split
  · rename_i hany
    obtain ⟨c, hc, hhides⟩ := List.any_eq_true.1 hany
    simp only [reduceCtorEq, false_iff]
    intro hall
    rw [hall c hc] at hhides
    cases hhides
  · rename_i hnone
    simpa [pure, Except.pure] using hnone

theorem found_of_checkCompatibility (h : checkCompatibility authority = .error why) :
    why.Found authority := by
  unfold checkCompatibility at h
  split at h
  · rename_i hany
    obtain ⟨c, hc, hhides⟩ := List.any_eq_true.1 hany
    cases h
    exact .compatibility hc hhides
  · cases h

theorem found_of_readPort (h : readPort authority = .error why) : why.Found authority := by
  unfold readPort at h
  dsimp only at h
  split at h
  · cases h
  · split at h
    · rename_i hdigits
      simp only [Bool.not_eq_true', List.all_eq_false, Bool.not_eq_true] at hdigits
      obtain ⟨c, hc, hno⟩ := hdigits
      cases h
      exact .portDigits hc hno
    · split at h
      · rename_i hlength
        cases h
        exact .portLength hlength
      · split at h
        · cases h
        · rename_i hrange
          cases h
          exact .portRange (Nat.lt_of_not_le hrange)

/-- A port that is read is short enough, has digits only, and is in range. -/
theorem portText_of_readPort {port : Option Nat} (h : readPort authority = .ok port) :
    (∀ c ∈ portText authority, c.isDigit = true) ∧ (portText authority).length ≤ digitLimit ∧
      portNumber (portText authority) ≤ 65535 := by
  unfold readPort at h
  dsimp only at h
  split at h
  · rename_i hempty
    rw [List.isEmpty_iff.1 hempty]
    exact ⟨by simp, by decide, by decide⟩
  · split at h
    · cases h
    · rename_i hdigits
      split at h
      · cases h
      · rename_i hlength
        split at h
        · rename_i hrange
          exact ⟨by simpa using hdigits, Nat.le_of_not_lt hlength, hrange⟩
        · cases h

/-- An authority in which a fault can be seen does not pass all checks. -/
theorem AuthorityFault.Found.not_accepted (h : why.Found authority) {port : Option Nat}
    (hhost : checkHost authority = .ok ()) (hcompatible : checkCompatibility authority = .ok ())
    (hport : readPort authority = .ok port) : False := by
  obtain ⟨hdigits, hlength, hrange⟩ := portText_of_readPort hport
  cases h with
  | unpaired h =>
    rw [checkHost_of_unpaired h] at hhost
    cases hhost
  | misplaced both h => exact h (checkAddress_of_checkHost both hhost).1
  | laterVersion both version h =>
    have haddress := (checkAddress_of_checkHost both hhost).2
    simp [checkAddress, version, h] at haddress
  | bracketedIPv4 both noVersion h =>
    have haddress := (checkAddress_of_checkHost both hhost).2
    simp [checkAddress, noVersion, h] at haddress
  | noAddress both noVersion h =>
    have haddress := (checkAddress_of_checkHost both hhost).2
    rw [checkAddress, if_neg noVersion, h] at haddress
    split at haddress <;> cases haddress
  | compatibility hc h =>
    rw [checkCompatibility_eq_ok_iff.1 hcompatible _ hc] at h
    cases h
  | portDigits hc h =>
    rw [hdigits _ hc] at h
    cases h
  | portLength h => exact absurd hlength (Nat.not_le_of_lt h)
  | portRange h => exact absurd hrange (Nat.not_le_of_lt h)

end

/-! ## Faults of a URL -/

/-- A text starts with two hexadecimal digits. -/
def StartsEscape (text : List Char) : Prop :=
  ∃ a b rest, text = a :: b :: rest ∧ isHexDigit a = true ∧ isHexDigit b = true

/-- A fault can be seen in a text. -/
inductive Fault.Found (text : List Char) : Fault → Prop
  | foreign {c : Char} (mem : c ∈ text) (noAscii : isAsciiUrlChar c = false)
      (low : c.toNat < 0xA0) : Found text .illegalCharacter
  | blank {c : Char} (mem : c ∈ text) (h : Unicode.isSpace c = true) :
      Found text .illegalCharacter
  | badEscape {front rest : List Char} (split : text = front ++ '%' :: rest)
      (h : ¬StartsEscape rest) : Found text .badEscape
  | authority {front authority rest : List Char} {why : AuthorityFault}
      (split : text = front ++ '/' :: '/' :: authority ++ rest)
      (scheme : front = [] ∨ ∃ scheme, IsScheme scheme ∧ front = scheme ++ [':'])
      (inside : ∀ c ∈ authority, endsAuthority c = false) (follows : FollowsAuthority rest)
      (h : why.Found authority) : Found text (.authority why)
  | noScheme (h : ∀ scheme rest, IsScheme scheme → text ≠ scheme ++ ':' :: rest) :
      Found text .noScheme

theorem escapesFit_percent {rest : List Char} :
    escapesFit ('%' :: rest) = true ↔ StartsEscape rest ∧ escapesFit rest = true := by
  rcases rest with _ | ⟨a, _ | ⟨b, rest⟩⟩
  · simp [escapesFit, StartsEscape]
  · simp [escapesFit, StartsEscape]
  · simp [escapesFit, StartsEscape, Bool.and_eq_true, and_assoc]

/-- The escapes of a text fit if two digits follow every percent sign. -/
theorem escapesFit_iff {text : List Char} :
    escapesFit text = true ↔ ∀ front rest, text = front ++ '%' :: rest → StartsEscape rest := by
  induction text with
  | nil => simp [escapesFit]
  | cons c text ih =>
    by_cases hc : c = '%'
    · subst hc
      rw [escapesFit_percent, ih]
      constructor
      · rintro ⟨hfirst, hmore⟩ front rest hsplit
        cases front with
        | nil =>
          cases hsplit
          exact hfirst
        | cons d front =>
          obtain ⟨-, hsplit⟩ := List.cons.inj hsplit
          exact hmore front rest hsplit
      · intro h
        exact ⟨h [] text rfl, fun front rest hsplit => h ('%' :: front) rest (by rw [hsplit]; rfl)⟩
    · rw [escapesFit_cons hc, ih]
      constructor
      · intro h front rest hsplit
        cases front with
        | nil =>
          cases hsplit
          exact absurd rfl hc
        | cons d front =>
          obtain ⟨-, hsplit⟩ := List.cons.inj hsplit
          exact h front rest hsplit
      · intro h front rest hsplit
        exact h (c :: front) rest (by rw [hsplit]; rfl)

theorem isUrlChar_eq_false_iff {c : Char} :
    isUrlChar c = false ↔
      (isAsciiUrlChar c = false ∧ c.toNat < 0xA0) ∨ Unicode.isSpace c = true := by
  rw [isUrlChar, Bool.and_eq_false_iff, Bool.or_eq_false_iff, decide_eq_false_iff_not,
    Nat.not_le, Bool.not_eq_false']

/-- What is in front of an authority: nothing, or a scheme and its colon. -/
theorem cutScheme_cases (text : List Char) :
    (cutScheme text = ([], text) ∧
        ∀ scheme rest, IsScheme scheme → text ≠ scheme ++ ':' :: rest) ∨
      ∃ scheme rest, IsScheme scheme ∧ text = scheme ++ ':' :: rest ∧
        cutScheme text = (scheme.map Char.toLower, rest) := by
  by_cases h : ∃ scheme rest, IsScheme scheme ∧ text = scheme ++ ':' :: rest
  · obtain ⟨scheme, rest, hscheme, rfl⟩ := h
    exact .inr ⟨scheme, rest, hscheme, rfl, cutScheme_append hscheme rest⟩
  · push Not at h
    refine .inl ⟨?_, h⟩
    unfold cutScheme
    split
    · rename_i first more rest hcut
      split
      · rename_i hscheme
        obtain ⟨hfirst, hall⟩ := (Bool.and_eq_true _ _).mp hscheme
        exact absurd (cut_eq_some hcut).1
          (h (first :: more) rest ⟨⟨first, more, rfl, hfirst⟩, List.all_eq_true.1 hall⟩)
      · rfl
    · rfl

/-- A scheme is cut off in front of a slash. -/
theorem cutScheme_slash {front : List Char}
    (h : front = [] ∨ ∃ scheme, IsScheme scheme ∧ front = scheme ++ [':']) (rest : List Char) :
    (cutScheme (front ++ '/' :: rest)).2 = '/' :: rest := by
  rcases h with rfl | ⟨scheme, hscheme, rfl⟩
  · rcases cutScheme_cases ('/' :: rest) with ⟨hcut, -⟩ | ⟨scheme, rest', hscheme, hsplit, -⟩
    · rw [List.nil_append, hcut]
    · obtain ⟨first, more, rfl, hfirst⟩ := hscheme.letter
      obtain ⟨rfl, -⟩ := List.cons.inj hsplit
      exact absurd hfirst (by decide)
  · rw [List.append_assoc, List.singleton_append, cutScheme_append hscheme]

/-- A URL whose parts are refused has a fault in its authority. -/
theorem exists_of_cutParts_error {text : List Char} {why : AuthorityFault}
    (h : cutParts text = .error why) : ∃ rest authority below,
      (cutScheme text).2 = rest ∧ cutAuthority rest = (authority, below) ∧
      why.Found authority := by
  unfold cutParts at h
  rcases hscheme : cutScheme text with ⟨scheme, rest⟩
  rcases hauthority : cutAuthority rest with ⟨authority, below⟩
  refine ⟨rest, authority, below, rfl, hauthority, ?_⟩
  simp only [hscheme, hauthority, Except.bind_eq_error_iff, pure, Except.pure] at h
  rcases h with hhost | ⟨-, -, hcompatible | ⟨-, -, hport | ⟨_, -, h⟩⟩⟩
  · exact found_of_checkHost hhost
  · exact found_of_checkCompatibility hcompatible
  · exact found_of_readPort hport
  · cases h

/-- A fault in an authority is one in the text around it. -/
theorem Fault.found_authority {text rest authority below : List Char} {why : AuthorityFault}
    (hrest : (cutScheme text).2 = rest) (hauthority : cutAuthority rest = (authority, below))
    (h : why.Found authority) : (Fault.authority why).Found text := by
  have hne : authority ≠ [] := by
    rintro rfl
    exact h.not_accepted isAuthority_nil.host isAuthority_nil.compatible isAuthority_nil.port
  obtain ⟨rfl, hinside, hfollows⟩ := eq_of_cutAuthority hauthority hne
  rcases cutScheme_cases text with ⟨hcut, -⟩ | ⟨scheme, rest', hscheme, rfl, hcut⟩
  · rw [hcut] at hrest
    have hsplit : text = [] ++ '/' :: '/' :: authority ++ below := hrest
    exact .authority hsplit (.inl rfl) hinside hfollows h
  · rw [hcut] at hrest
    subst hrest
    have hsplit : scheme ++ ':' :: ('/' :: '/' :: authority ++ below) =
        scheme ++ [':'] ++ '/' :: '/' :: authority ++ below := by simp
    exact .authority hsplit (.inr ⟨scheme, hscheme, rfl⟩) hinside hfollows h

theorem Fault.found_illegalCharacter {text : List Char} (h : text.all isUrlChar = false) :
    Fault.illegalCharacter.Found text := by
  obtain ⟨c, hc, hforeign⟩ := List.all_eq_false.1 h
  rw [Bool.not_eq_true] at hforeign
  rcases isUrlChar_eq_false_iff.1 hforeign with ⟨hno, hlow⟩ | hblank
  · exact .foreign hc hno hlow
  · exact .blank hc hblank

theorem Fault.found_badEscape {text : List Char} (h : escapesFit text = false) :
    Fault.badEscape.Found text := by
  have hbad := mt escapesFit_iff.2 (by rw [h]; exact Bool.false_ne_true)
  push Not at hbad
  obtain ⟨front, rest, hsplit, hno⟩ := hbad
  exact .badEscape hsplit hno

/-- The fault that is reported is in the text. -/
theorem Fault.found_of_parse {text : List Char} {why : Fault} (h : parse text = .error why) :
    why.Found text := by
  unfold parse at h
  cases hchars : text.all isUrlChar with
  | false =>
    simp [hchars, throw, throwThe, MonadExceptOf.throw, bind, Except.bind] at h
    exact h ▸ found_illegalCharacter hchars
  | true =>
    cases hescapes : escapesFit text with
    | false =>
      simp [hchars, hescapes, throw, throwThe, MonadExceptOf.throw, bind, Except.bind] at h
      exact h ▸ found_badEscape hescapes
    | true =>
      simp only [hchars, hescapes, Bool.not_true, Bool.false_eq_true, if_false,
        Except.bind_eq_error_iff, Except.mapError_eq_error_iff, Except.mapError_eq_ok_iff] at h
      rcases h with ⟨why, hparts, rfl⟩ | ⟨url, hparts, hscheme⟩
      · obtain ⟨rest, authority, below, hrest, hauthority, hfound⟩ :=
          exists_of_cutParts_error hparts
        exact found_authority hrest hauthority hfound
      · split at hscheme
        · rename_i hempty
          cases hscheme
          obtain ⟨rest, _, _, hcut, -⟩ := cutParts_eq_ok_iff.1 hparts
          rcases cutScheme_cases text with ⟨-, hno⟩ | ⟨scheme, rest', hscheme, -, hcut'⟩
          · exact .noScheme hno
          · rw [hcut'] at hcut
            obtain ⟨first, more, rfl, -⟩ := hscheme.letter
            rw [← (Prod.mk.inj hcut).1] at hempty
            cases hempty
        · cases hscheme

/-- A text in which a fault can be seen is refused. -/
theorem Fault.Found.parse_ne_ok {text : List Char} {why : Fault} (h : why.Found text)
    (url : Url) : parse text ≠ .ok url := by
  intro hparse
  obtain ⟨hchars, hescapes, hparts, hscheme⟩ := parse_eq_ok_iff.1 hparse
  obtain ⟨rest, below, front, hcut, hauthority, -, -, hhost, hcompatible, hport⟩ :=
    cutParts_eq_ok_iff.1 hparts
  cases h with
  | foreign hc hno hlow =>
    have hforeign := isUrlChar_eq_false_iff.2 (.inl ⟨hno, hlow⟩)
    rw [hchars _ hc] at hforeign
    cases hforeign
  | blank hc hblank =>
    have hforeign := isUrlChar_eq_false_iff.2 (.inr hblank)
    rw [hchars _ hc] at hforeign
    cases hforeign
  | badEscape hsplit hno => exact hno (escapesFit_iff.1 hescapes _ _ hsplit)
  | @authority front' authority rest' why hsplit hfront hinside hfollows hfound =>
    have hrest : rest = '/' :: '/' :: authority ++ rest' := by
      rw [hsplit, List.append_assoc] at hcut
      exact (congrArg Prod.snd hcut).symm.trans (cutScheme_slash hfront _)
    rw [hrest, cutAuthority_append hinside hfollows] at hauthority
    obtain ⟨rfl, -⟩ := Prod.mk.inj hauthority
    exact hfound.not_accepted hhost hcompatible hport
  | noScheme hno =>
    obtain ⟨raw, hsplit, hraw, -⟩ := exists_of_cutScheme hcut hscheme
    exact hno raw rest hraw hsplit

/-- A text is refused as a URL exactly if a fault can be seen in it. -/
theorem exists_parse_error_iff {text : List Char} :
    (∃ why, parse text = .error why) ↔ ∃ why : Fault, why.Found text := by
  constructor
  · rintro ⟨why, h⟩
    exact ⟨why, Fault.found_of_parse h⟩
  · rintro ⟨why, h⟩
    cases hparse : parse text with
    | error why' => exact ⟨why', rfl⟩
    | ok url => exact absurd hparse (h.parse_ne_ok url)

end ImageSelect.Url
