import ImageSelect.Regex.CharTest

/-!
# Matching

An expression is tried at a place in a text and hands each way to match on
to what follows, the preferred way first; the first way that what follows
accepts is the match.  A way that fails leaves no trace.

A turn of a repetition that uses no characters is a way to match, but no
further turn starts behind it.
-/

namespace ImageSelect.Regex

/-- A place in a text: the text before it, nearest character first, the text
behind it, and the groups matched so far, latest first. -/
structure Place where
  before : List Char
  after : List Char
  groups : List (Nat × List Char) := []
  deriving Repr, DecidableEq

namespace Place

/-- The place one character further. -/
def next (s : Place) (c : Char) (rest : List Char) : Place :=
  { s with before := c :: s.before, after := rest }

/-- The place some characters further, which stand behind this one. -/
def forward : Nat → Place → Place
  | 0, s => s
  | n + 1, s =>
    match s.after with
    | [] => s
    | c :: rest => forward n (s.next c rest)

/-- The place some characters back, if there are as many. -/
def back? : Nat → Place → Option Place
  | 0, s => some s
  | n + 1, s =>
    match s.before with
    | [] => none
    | c :: rest => back? n { s with before := rest, after := c :: s.after }

/-- The text between two places, the first one in front. -/
def upTo (start stop : Place) : List Char :=
  start.after.take (start.after.length - stop.after.length)

/-- Whether a place is as an anchor says. -/
def fits (flags : Flags) (s : Place) : Anchor → Bool
  | .textStart => s.before.isEmpty
  | .textEnd => s.after.isEmpty
  | .lineStart =>
    s.before.isEmpty || (flags.contains .multiline && s.before.head? = some '\n')
  | .lineEnd =>
    s.after.isEmpty || s.after = ['\n'] ||
      (flags.contains .multiline && s.after.head? = some '\n')
  | .boundary =>
    !(s.before.isEmpty && s.after.isEmpty) &&
      s.before.head?.any (isWordChar flags) != s.after.head?.any (isWordChar flags)
  | .inside =>
    !(s.before.isEmpty && s.after.isEmpty) &&
      s.before.head?.any (isWordChar flags) == s.after.head?.any (isWordChar flags)

end Place

/-- What follows a match: it accepts a place or refuses it. -/
abbrev Follow := Place → Option Place

/-- An expression that is ready to be tried. -/
abbrev Attempt := Place → Follow → Option Place

/-- Tries one character. -/
def attemptChar (accept : Char → Bool) : Attempt := fun s k =>
  match s.after with
  | [] => none
  | c :: rest => if accept c then k (s.next c rest) else none

/-- Whether a text starts with another, case ignored if the flags say so. -/
def startsLike (flags : Flags) : List Char → List Char → Bool
  | [], _ => true
  | _ :: _, [] => false
  | a :: as, b :: bs =>
    (if flags.foldsCase then flags.lower a.toNat = flags.lower b.toNat else a = b) &&
      startsLike flags as bs

/-- Tries a fixed number of turns. -/
def exactly (body : Attempt) : Nat → Attempt
  | 0, s, k => k s
  | n + 1, s, k => body s fun s => exactly body n s k

/-- Tries further turns, at most `left` of them, as many as possible. -/
def greedily (body : Attempt) (left : Option Nat) (s : Place) (k : Follow) : Option Place :=
  if left = some 0 then k s
  else
    match body s fun t =>
      if t.after.length < s.after.length then greedily body (left.map (· - 1)) t k else k t
    with
    | some found => some found
    | none => k s
  termination_by s.after.length

/-- Tries further turns, at most `left` of them, as few as possible. -/
def lazily (body : Attempt) (left : Option Nat) (s : Place) (k : Follow) : Option Place :=
  match k s with
  | some found => some found
  | none =>
    if left = some 0 then none
    else
      body s fun t =>
        if t.after.length < s.after.length then lazily body (left.map (· - 1)) t k else k t
  termination_by s.after.length

/-- Makes further turns, at most `left` of them, as many as possible, and
keeps them. -/
def possessively (body : Attempt) (left : Option Nat) (s : Place) : Place :=
  if left = some 0 then s
  else
    match body s some with
    | none => s
    | some t =>
      if t.after.length < s.after.length then possessively body (left.map (· - 1)) t else t
  termination_by s.after.length

/-- Makes a fixed number of turns and keeps each. -/
def exactlyKeeping (body : Attempt) : Nat → Place → Option Place
  | 0, s => some s
  | n + 1, s => (body s some).bind (exactlyKeeping body n)

/-- Tries a repetition. -/
def repeated (appetite : Appetite) (least : Nat) (most : Option Nat) (body : Attempt) :
    Attempt := fun s k =>
  let left := most.map (· - least)
  match appetite with
  | .greedy => exactly body least s fun s => greedily body left s k
  | .lazy => exactly body least s fun s => lazily body left s k
  | .possessive =>
    (exactlyKeeping body least s).bind fun s => k (possessively body left s)

/-- Looks from a place without leaving it. -/
def looking (behind : Option Width) (negated : Bool) (body : Attempt) : Attempt := fun s k =>
  let found :=
    match behind with
    | none => body s some
    | some width => (s.back? width.least).bind fun s => body s some
  match found with
  | some t => if negated then none else k { s with groups := t.groups }
  | none => if negated then k s else none

/-- Tries an expression. -/
def Node.attempt (flags : Flags) : Node → Attempt
  | .empty, s, k => k s
  | .char negated code, s, k => attemptChar (fun c => isChar flags code c != negated) s k
  | .any, s, k => attemptChar (fun c => flags.contains .dotAll || c ≠ '\n') s k
  | .set negated members, s, k =>
    attemptChar (fun c => members.any (·.holds flags c) != negated) s k
  | .anchor place, s, k => if s.fits flags place then k s else none
  | .backref group, s, k =>
    match s.groups.lookup group with
    | none => none
    | some text =>
      if startsLike flags text s.after then k (s.forward text.length) else none
  | .seq a b, s, k => a.attempt flags s fun s => b.attempt flags s k
  | .alt a b, s, k =>
    match a.attempt flags s k with
    | some found => some found
    | none => b.attempt flags s k
  | .capture group body, s, k =>
    body.attempt flags s fun t => k { t with groups := (group, s.upTo t) :: t.groups }
  | .scoped on off body, s, k => body.attempt (flags.inner on off) s k
  | .atomic body, s, k => (body.attempt flags s some).bind k
  | .look behind negated body, s, k => looking behind negated (body.attempt flags) s k
  | .conditional group yes no, s, k =>
    if (s.groups.lookup group).isSome then yes.attempt flags s k else no.attempt flags s k
  | .iterate appetite least most body, s, k =>
    repeated appetite least most (body.attempt flags) s k

/-- Finds the first place from which an expression matches, and gives the
place where the match ends. -/
def Node.search (flags : Flags) (node : Node) (before : List Char) :
    List Char → Option Place
  | [] => node.attempt flags ⟨before, [], []⟩ some
  | c :: rest =>
    match node.attempt flags ⟨before, c :: rest, []⟩ some with
    | some found => some found
    | none => node.search flags (c :: before) rest

end ImageSelect.Regex
