import ImageSelect.Regex.Piece
import ImageSelect.Unicode.Identifier
import ImageSelect.Unicode.Letter

/-!
# The head of a group

Behind an opening parenthesis a question mark starts a head that says what
kind of group follows.  Reading a head needs no knowledge of the groups
before it; names and numbers are looked up later.
-/

namespace ImageSelect.Regex

/-- A group that another part of a pattern refers to. -/
inductive GroupRef where
  | named (name : List Char)
  | numbered (number : Nat)
  deriving Repr, DecidableEq

/-- What stands behind an opening parenthesis. -/
inductive Head where
  | capture (name : Option (List Char))
  | backref (name : List Char)
  | plain
  | comment
  | look (behind negated : Bool)
  | conditional (group : GroupRef) (size : Nat)
  | atomic
  | globalFlags (on : Flags)
  | scopedFlags (on off : Flags)
  deriving Repr, DecidableEq

/-! ## Flags -/

/-- A flag letter: one of the flags, or the letter for a locale, which texts
do not have. -/
inductive FlagLetter where
  | flag (f : Flag)
  | locale
  deriving Repr, DecidableEq

/-- The flag that a letter stands for. -/
def flagLetter? : Char → Option FlagLetter
  | 'i' => some (.flag .ignoreCase)
  | 'L' => some .locale
  | 'm' => some (.flag .multiline)
  | 's' => some (.flag .dotAll)
  | 'x' => some (.flag .verbose)
  | 'a' => some (.flag .ascii)
  | 't' => some (.flag .template)
  | 'u' => some (.flag .unicode)
  | _ => none

/-- The flag letter that a piece is. -/
def Piece.flagLetter? (p : Piece) : Option FlagLetter :=
  if p.escaped then none else Regex.flagLetter? p.char

/-- Stops at a piece, just used, where a flag or `what` is due. -/
def flagExpected {α : Type} (after : Ahead) (p : Piece) (what : String) : Except Halt α :=
  after.fail (if !p.escaped && Unicode.isLetter p.char then .unknownFlag else .missing what)
    p.text.length

/-- Turns a flag on. -/
def turnOn (ahead : Ahead) (on : Flags) : FlagLetter → Except Halt Flags
  | .locale => ahead.fail .localeFlag
  | .flag f =>
    let on := if on.contains f then on else on ++ [f]
    if f.isAlphabet && on.any (fun g => g.isAlphabet && g ≠ f) then ahead.fail .alphabetFlags
    else .ok on

/-- Turns a flag off. -/
def turnOff (ahead : Ahead) (off : Flags) : FlagLetter → Except Halt Flags
  | .locale => ahead.fail .alphabetFlagOff
  | .flag f =>
    if f.isAlphabet then ahead.fail .alphabetFlagOff
    else .ok (if off.contains f then off else off ++ [f])

/-- Reads the letters of flags that are turned on, from `letter` up to one of
`)`, `-` and `:`.  Gives the flags and the number of pieces used, the last
one among them. -/
def readFlagsOn (size : Nat) (on : Flags) (letter : FlagLetter) (used : Nat) :
    List Piece → Except Halt (Flags × Nat)
  | [] => do
    let _ ← turnOn ⟨size, []⟩ on letter
    Ahead.fail ⟨size, []⟩ (.missing "-, : or )")
  | p :: rest => do
    let on ← turnOn ⟨size, p :: rest⟩ on letter
    if p.is ')' || p.is '-' || p.is ':' then return (on, used + 1)
    match p.flagLetter? with
    | some letter => readFlagsOn size on letter (used + 1) rest
    | none => flagExpected ⟨size, rest⟩ p "-, : or )"

/-- Reads the letters of flags that are turned off, from `letter` up to a
colon. -/
def readFlagsOff (size : Nat) (off : Flags) (letter : FlagLetter) (used : Nat) :
    List Piece → Except Halt (Flags × Nat)
  | [] => do
    let _ ← turnOff ⟨size, []⟩ off letter
    Ahead.fail ⟨size, []⟩ (.missing ":")
  | p :: rest => do
    let off ← turnOff ⟨size, p :: rest⟩ off letter
    if p.is ':' then return (off, used + 1)
    match p.flagLetter? with
    | some letter => readFlagsOff size off letter (used + 1) rest
    | none => flagExpected ⟨size, rest⟩ p ":"

/-- Checks the flags of a group once its colon is read. -/
def checkScoped (after : Ahead) (on off : Flags) (used : Nat) : Except Halt (Head × Nat) :=
  if off.contains .template then after.fail .globalFlagOff 1
  else if on.any off.contains then after.fail .flagOnAndOff 1
  else .ok (.scopedFlags on off, used)

/-- Reads the flags behind the minus sign of a group. -/
def readOff (ahead : Ahead) (on : Flags) (used : Nat) : Except Halt (Head × Nat) :=
  match ahead.pieces with
  | [] => ahead.fail (.missing "flag")
  | p :: rest =>
    match p.flagLetter? with
    | none => flagExpected (ahead.drop 1) p "flag"
    | some letter => do
      let (off, more) ← readFlagsOff ahead.size [] letter 1 rest
      checkScoped (ahead.drop more) on off (used + more)

/-- Reads the flags of a group from their first letter on. -/
def readOn (ahead : Ahead) (letter : FlagLetter) : Except Halt (Head × Nat) := do
  let (on, used) ← readFlagsOn ahead.size [] letter 0 ahead.pieces
  let after := ahead.drop used
  let last := (ahead.drop (used - 1)).next?
  if last.any (·.is ')') then return (.globalFlags on, used)
  if on.contains .template then after.fail .globalFlagOn 1
  if last.any (·.is '-') then readOff after on used
  else checkScoped after on [] used

/-! ## Names -/

/-- Reads a name up to a terminator. -/
def readName (ahead : Ahead) (terminator : Char) : Except Halt (List Char × Nat) := do
  let (name, used) ← ahead.takeUntil terminator "group name"
  if Unicode.isIdentifier name then return (name, used)
  else (ahead.drop used).fail (.badGroupName name) (name.length + 1)

/-- Reads the reference to a group up to a closing parenthesis: a name, or a
positive integer. -/
def readReference (ahead : Ahead) : Except Halt (Head × Nat) := do
  let (name, used) ← ahead.takeUntil ')' "group name"
  let after := ahead.drop used
  if Unicode.isIdentifier name then return (.conditional (.named name) name.length, used)
  match Text.readInteger name with
  | .value n =>
    if n < 0 then after.fail (.badGroupName name) (name.length + 1)
    else if n = 0 then after.fail .badGroupNumber (name.length + 1)
    else if 1073741823 ≤ n then after.fail (.invalidReference n.toNat) (name.length + 1)
    else return (.conditional (.numbered n.toNat) name.length, used)
  | _ => after.fail (.badGroupName name) (name.length + 1)

/-! ## Heads -/

/-- Reads what follows `(?P`. -/
def readNamedHead (ahead : Ahead) : Except Halt (Head × Nat) :=
  if ahead.startsWith '<' then do
    let (name, used) ← readName (ahead.drop 1) '>'
    return (.capture (some name), used + 1)
  else if ahead.startsWith '=' then do
    let (name, used) ← readName (ahead.drop 1) ')'
    return (.backref name, used + 1)
  else
    match ahead.next? with
    | none => ahead.fail .unexpectedEnd
    | some p => (ahead.drop 1).fail (.unknownExtension ('P' :: p.text)) (p.text.length + 2)

/-- Reads what follows `(?<`. -/
def readBehindHead (ahead : Ahead) : Except Halt (Head × Nat) :=
  match ahead.next? with
  | none => ahead.fail .unexpectedEnd
  | some p =>
    if p.is '=' then .ok (.look true false, 1)
    else if p.is '!' then .ok (.look true true, 1)
    else (ahead.drop 1).fail (.unknownExtension ('<' :: p.text)) (p.text.length + 2)

/-- Counts some pieces more. -/
def plus (more : Nat) (head : Head × Nat) : Head × Nat :=
  (head.1, head.2 + more)

/-- Reads the head of a group whose opening parenthesis is already used. -/
def readHead (ahead : Ahead) : Except Halt (Head × Nat) :=
  if !ahead.startsWith '?' then .ok (.capture none, 0)
  else
    let after := ahead.drop 1
    let next := ahead.drop 2
    match after.next? with
    | none => after.fail .unexpectedEnd
    | some p =>
      if p.is 'P' then (readNamedHead next).map (plus 2)
      else if p.is ':' then .ok (.plain, 2)
      else if p.is '#' then .ok (.comment, 2)
      else if p.is '=' then .ok (.look false false, 2)
      else if p.is '!' then .ok (.look false true, 2)
      else if p.is '<' then (readBehindHead next).map (plus 2)
      else if p.is '(' then (readReference next).map (plus 2)
      else if p.is '>' then .ok (.atomic, 2)
      else if p.is '-' then (readOff next [] 0).map (plus 2)
      else
        match p.flagLetter? with
        | some letter => (readOn next letter).map (plus 2)
        | none => next.fail (.unknownExtension p.text) (p.text.length + 1)

end ImageSelect.Regex
