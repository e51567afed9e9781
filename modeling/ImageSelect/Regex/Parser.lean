import ImageSelect.Regex.Escape
import ImageSelect.Regex.Group

/-!
# Reading a pattern

A pattern is read from left to right.  The groups that are open are kept in
a stack of frames; a bar closes a branch of the innermost one and a closing
parenthesis closes the frame.  A character set that is open stands on top of
the stack.

Every step uses one piece and says how many of the following ones it uses
too, so reading ends with the pattern.
-/

namespace ImageSelect.Regex

/-! ## What is open -/

/-- The kind of an open group. -/
inductive Opener where
  | top
  | capture (group : Nat)
  | scoped (on off : Flags)
  | atomic
  | look (behind negated : Bool) (outermost : Bool)
  | conditional (group : Nat)
  deriving Repr, DecidableEq

/-- An open group: the branches that are complete, in order, and the items
of the branch that is being read, latest first. -/
structure Frame where
  opener : Opener
  start : Nat
  verbose : Bool
  branches : List Node := []
  items : List Node := []
  deriving Repr, DecidableEq

/-- A character set that is open, its members latest first. -/
structure OpenSet where
  start : Nat
  negated : Bool
  members : List Member := []
  deriving Repr, DecidableEq

/-- What has been read of a pattern. -/
structure Reading where
  flags : Flags := []
  /-- The widths of the groups from group one on; none while open. -/
  groups : List (Option Width) := []
  /-- The groups that have names. -/
  names : List (List Char × Nat) := []
  /-- The number of groups, group zero included, at the start of the
  outermost open look-behind. -/
  lookbehind : Option Nat := none
  /-- The numbered groups that conditions ask for, with the position of the
  first such condition. -/
  asked : List (Nat × Nat) := []
  frame : Frame := ⟨.top, 0, false, [], []⟩
  outer : List Frame := []
  openSet : Option OpenSet := none

namespace Reading

/-- The number of groups, group zero included. -/
def groupCount (r : Reading) : Nat :=
  r.groups.length + 1

/-- The width of a group that is closed. -/
def closedWidth? (r : Reading) (group : Nat) : Option Width :=
  if group = 0 then none else (r.groups[group - 1]?).join

/-- The widths of the groups. -/
def widths (r : Reading) (group : Nat) : Width :=
  (r.closedWidth? group).getD .none

/-- Adds an item to the branch that is being read. -/
def add (r : Reading) (node : Node) : Reading :=
  { r with frame := { r.frame with items := node :: r.frame.items } }

/-- Opens a frame inside the innermost one. -/
def push (r : Reading) (frame : Frame) : Reading :=
  { r with frame, outer := r.frame :: r.outer }

/-! ## Groups -/

/-- Refuses a reference from inside a look-behind to a group that is open or
began inside it. -/
def checkLookbehind (r : Reading) (after : Ahead) (group : Nat) : Except Halt Unit :=
  match r.lookbehind with
  | none => .ok ()
  | some first =>
    if (r.closedWidth? group).isNone then after.fail .openGroup
    else if first ≤ group then after.fail .sameLookbehind
    else .ok ()

/-- Refuses a reference to a group that is not there or not closed.  `size`
is the length of the reference's text. -/
def checkReference (r : Reading) (after : Ahead) (group size : Nat) : Except Halt Unit :=
  if r.groupCount ≤ group then after.fail (.invalidReference group) (size - 1)
  else if (r.closedWidth? group).isNone then after.fail .openGroup size
  else r.checkLookbehind after group

/-- Opens a capturing group. -/
def openCapture (r : Reading) (after : Ahead) (start : Nat) (name : Option (List Char)) :
    Except Halt Reading :=
  let group := r.groupCount
  let opened : Reading :=
    { r with groups := r.groups ++ [none] }.push ⟨.capture group, start, r.frame.verbose, [], []⟩
  match name with
  | none => .ok opened
  | some name =>
    match r.names.lookup name with
    | some first => after.fail (.redefinedGroup name group first) (name.length + 1)
    | none => .ok { opened with names := (name, group) :: r.names }

/-- Opens a group that a head describes; `after` is what follows the head. -/
def openHead (r : Reading) (after : Ahead) (start : Nat) : Head → Except Halt Reading
  | .capture name => r.openCapture after start name
  | .backref name =>
    match r.names.lookup name with
    | none => after.fail (.unknownGroup name) (name.length + 1)
    | some group =>
      if (r.closedWidth? group).isNone then after.fail .openGroup (name.length + 1)
      else do
        r.checkLookbehind after group
        return r.add (.backref group)
  | .plain => .ok (r.push ⟨.scoped [] [], start, r.frame.verbose, [], []⟩)
  | .comment => .ok r
  | .look behind negated =>
    let outermost := behind && r.lookbehind.isNone
    let r := if outermost then { r with lookbehind := some r.groupCount } else r
    .ok (r.push ⟨.look behind negated outermost, start, r.frame.verbose, [], []⟩)
  | .conditional (.named name) size =>
    match r.names.lookup name with
    | none => after.fail (.unknownGroup name) (size + 1)
    | some group => do
      r.checkLookbehind after group
      return r.push ⟨.conditional group, start, r.frame.verbose, [], []⟩
  | .conditional (.numbered group) size => do
    let asked :=
      if (r.asked.lookup group).isSome then r.asked
      else r.asked ++ [(group, after.position - size - 1)]
    r.checkLookbehind after group
    return { r with asked }.push ⟨.conditional group, start, r.frame.verbose, [], []⟩
  | .atomic => .ok (r.push ⟨.atomic, start, r.frame.verbose, [], []⟩)
  | .globalFlags on =>
    if r.frame.opener = .top && r.frame.branches.isEmpty && r.frame.items.isEmpty then
      let flags := r.flags ++ on
      .ok { r with flags, frame := { r.frame with verbose := flags.contains .verbose } }
    else after.failAt .globalFlagsInside start
  | .scopedFlags on off =>
    let verbose := (r.frame.verbose || on.contains .verbose) && !off.contains .verbose
    .ok (r.push ⟨.scoped on off, start, verbose, [], []⟩)

/-- The branch that is being read, as one expression. -/
def branch (r : Reading) : Node :=
  Node.concat r.frame.items.reverse

/-- Ends a branch at a bar. -/
def nextBranch (r : Reading) (here : Ahead) : Except Halt Reading :=
  let frame := r.frame
  match frame.opener, frame.branches with
  | .conditional _, _ :: _ => here.fail .tooManyBranches
  | opener, branches =>
    let verbose := if opener = .top then r.flags.contains .verbose else frame.verbose
    .ok { r with frame := { frame with verbose, branches := branches ++ [r.branch], items := [] } }

/-- The expression that a frame holds. -/
def body (r : Reading) : Node :=
  Node.choice (r.frame.branches ++ [r.branch])

/-- Closes the innermost frame; nothing if it is the whole pattern. -/
def close? (r : Reading) : Option Reading :=
  match r.outer with
  | [] => none
  | frame :: outer =>
    let inner := r.body
    let back : Reading := { r with frame, outer }
    match r.frame.opener with
    | .top => none
    | .capture group =>
      let width := inner.width r.widths
      some ({ back with groups := r.groups.set (group - 1) (some width) }.add
        (.capture group inner))
    | .scoped on off => some (back.add (.scoped on off inner))
    | .atomic => some (back.add (.atomic inner))
    | .look behind negated outermost =>
      let lookbehind := if outermost then none else r.lookbehind
      let width := if behind then some (inner.width r.widths) else none
      some ({ back with lookbehind }.add (.look width negated inner))
    | .conditional group =>
      match r.frame.branches with
      | [] => some (back.add (.conditional group inner .empty))
      | yes :: _ => some (back.add (.conditional group yes r.branch))

/-! ## Repetition -/

/-- Repetition counts must be below this. -/
def repeatLimit : Nat := 4294967295

/-- Reads the digits of a repetition count. -/
def readCount (after : Ahead) (digits : List Char) : Except Halt (Option Nat) :=
  if digits.isEmpty then .ok none
  else if Text.digitLimit < digits.length then after.halt (.numberTooLong digits.length)
  else
    let n := ofBase 10 digits
    if repeatLimit ≤ n then after.halt .repetitionTooLarge else .ok (some n)

/-- Reads the bounds of a repetition behind an opening brace at `here - 1`;
nothing if the brace is an ordinary character. -/
def readBounds (ahead : Ahead) (here : Nat) :
    Except Halt (Option (Nat × Option Nat × Nat)) :=
  let low := ahead.takeAllChars Char.isDigit
  let afterLow := ahead.drop low.length
  let hasComma := afterLow.startsWith ','
  let high := if hasComma then (afterLow.drop 1).takeAllChars Char.isDigit else low
  let used := low.length + (if hasComma then 1 + high.length else 0)
  if ahead.startsWith '\x7d' || !(ahead.drop used).startsWith '\x7d' then .ok none
  else do
    let after := ahead.drop (used + 1)
    let least := (← readCount after low).getD 0
    let most ← readCount after high
    if most.any (· < least) then after.failAt .repeatBounds here
    return some (least, most, used + 1)

/-- Reads a repetition sign, the piece `p`: its bounds and the number of
pieces used behind it. -/
def readRepeat (ahead : Ahead) (p : Piece) : Except Halt (Option (Nat × Option Nat × Nat)) :=
  if p.char = '?' then .ok (some (0, some 1, 0))
  else if p.char = '*' then .ok (some (0, none, 0))
  else if p.char = '+' then .ok (some (1, none, 0))
  else readBounds ahead (p.position + 1)

/-- Repeats the latest item. -/
def repeatLast (r : Reading) (after : Ahead) (p : Piece) (least : Nat) (most : Option Nat) :
    Except Halt (Reading × Nat) :=
  match r.frame.items with
  | [] => after.failAt .nothingToRepeat p.position
  | .anchor _ :: _ => after.failAt .nothingToRepeat p.position
  | .iterate .. :: _ => after.failAt .multipleRepeat p.position
  | item :: items =>
    let (appetite, used) :=
      if after.startsWith '?' then (Appetite.lazy, 1)
      else if after.startsWith '+' then (Appetite.possessive, 1)
      else (Appetite.greedy, 0)
    let node := Node.iterate appetite least most item
    .ok ({ r with frame := { r.frame with items := node :: items } }, used)

/-! ## Character sets -/

/-- Reads a member of a set: the piece `p` and what belongs to it. -/
def readMember (ahead : Ahead) (p : Piece) : Except Halt (Member × Nat) :=
  if p.escaped then readSetEscape ahead p.char
  else .ok (.code p.char.toNat, 0)

/-- The expression of a set that is complete. -/
def setNode (s : OpenSet) : Node :=
  match s.members.reverse.eraseDups with
  | [.code n] => .char s.negated n
  | members => .set s.negated members

/-- Reads one member of a set, or a range, or the bracket that closes the
set. -/
def stepSet (r : Reading) (s : OpenSet) (ahead : Ahead) (p : Piece) :
    Except Halt (Reading × Nat) := do
  if p.is ']' && !s.members.isEmpty then
    return ({ r with openSet := none }.add (setNode s), 0)
  let (low, used) ← readMember ahead p
  let after := ahead.drop used
  if !after.startsWith '-' then
    return ({ r with openSet := some { s with members := low :: s.members } }, used)
  match (after.drop 1).next? with
  | none => (after.drop 1).failAt .unterminatedSet s.start
  | some q =>
    let rest := after.drop 2
    if q.is ']' then
      let s := { s with members := .code '-'.toNat :: low :: s.members }
      return ({ r with openSet := none }.add (setNode s), used + 2)
    let (high, more) ← readMember rest q
    let rest := rest.drop more
    let back := p.text.length + 1 + q.text.length
    match low, high with
    | .code a, .code b =>
      if b < a then rest.fail (.badRange p.text q.text) back
      return ({ r with openSet := some { s with members := .range a b :: s.members } },
        used + 2 + more)
    | _, _ => rest.fail (.badRange p.text q.text) back

/-! ## Steps -/

/-- Blanks that a verbose pattern may have between its items. -/
def isPatternBlank (c : Char) : Bool :=
  c = ' ' || c = '\t' || c = '\n' || c = '\r' || c.toNat = 0x0B || c.toNat = 0x0C

/-- Uses the pieces of a comment up to its end, which must be there if
`required`. -/
def skipComment (ahead : Ahead) (stop : Char) (required : Option Nat) : Except Halt Nat :=
  let body := ahead.pieces.takeWhile (!·.is stop)
  match required with
  | some start =>
    if ahead.pieces.length ≤ body.length then
      (ahead.drop body.length).failAt .unterminatedComment start
    else .ok (body.length + 1)
  | none => .ok (body.length + 1)

/-- The item that an escape is outside of sets. -/
def escapeNode : Escape → Node
  | .code n => .char false n
  | .category c negated => .set false [.category c negated]
  | .anchor place => .anchor place
  | .group group => .backref group

/-- Opens what an opening parenthesis at `start` stands for. -/
def stepGroup (r : Reading) (ahead : Ahead) (start : Nat) : Except Halt (Reading × Nat) := do
  let (head, used) ← readHead ahead
  let after := ahead.drop used
  let r ← r.openHead after start head
  match head with
  | .comment => return (r, used + (← skipComment after ')' (some start)))
  | _ => return (r, used)

/-- Repeats the latest item as the sign `p` says, or takes the sign as an
ordinary character. -/
def stepRepeat (r : Reading) (ahead : Ahead) (p : Piece) : Except Halt (Reading × Nat) := do
  match ← readRepeat ahead p with
  | none => return (r.add (.char false p.char.toNat), 0)
  | some (least, most, used) =>
    let (r, more) ← r.repeatLast (ahead.drop used) p least most
    return (r, used + more)

/-- Opens a character set at the bracket `p`. -/
def stepOpenSet (r : Reading) (ahead : Ahead) (p : Piece) : Reading × Nat :=
  let negated := ahead.startsWith '^'
  ({ r with openSet := some ⟨p.position, negated, []⟩ }, if negated then 1 else 0)

/-- Reads one item from the bare character `p` on, outside of sets. -/
def stepChar (r : Reading) (ahead : Ahead) (p : Piece) : Except Halt (Reading × Nat) :=
  if r.frame.verbose && isPatternBlank p.char then .ok (r, 0)
  else if r.frame.verbose && p.char = '#' then
    (skipComment ahead '\n' none).map fun used => (r, used)
  else if p.char = '[' then .ok (r.stepOpenSet ahead p)
  else if p.char = '*' || p.char = '+' || p.char = '?' || p.char = '\x7b' then r.stepRepeat ahead p
  else if p.char = '.' then .ok (r.add .any, 0)
  else if p.char = '(' then r.stepGroup ahead p.position
  else if p.char = '^' then .ok (r.add (.anchor .lineStart), 0)
  else if p.char = '$' then .ok (r.add (.anchor .lineEnd), 0)
  else .ok (r.add (.char false p.char.toNat), 0)

/-- Reads one item from the piece `p` on, outside of sets. -/
def stepItem (r : Reading) (ahead : Ahead) (p : Piece) : Except Halt (Reading × Nat) :=
  if p.escaped then do
    let (escape, used) ← readEscape r.checkReference ahead p.char
    return (r.add (escapeNode escape), used)
  else r.stepChar ahead p

/-- What a step comes to. -/
inductive Step where
  | next (r : Reading) (used : Nat)
  | stop

/-- Reads from the piece `p` on.  A closing parenthesis that closes nothing
stops the reading. -/
def step (r : Reading) (size : Nat) (p : Piece) (rest : List Piece) : Except Halt Step :=
  let ahead : Ahead := ⟨size, rest⟩
  match r.openSet with
  | some s => (r.stepSet s ahead p).map fun (r, used) => .next r used
  | none =>
    if p.is '|' then (r.nextBranch ⟨size, p :: rest⟩).map fun r => .next r 0
    else if p.is ')' then
      match r.close? with
      | some r => .ok (.next r 0)
      | none => .ok .stop
    else (r.stepItem ahead p).map fun (r, used) => .next r used

/-- Reads the pieces that are left.  Gives what was read and the pieces that
are left over, the first of which closes nothing. -/
def run (size : Nat) (r : Reading) : List Piece → Except Halt (Reading × List Piece)
  | [] => .ok (r, [])
  | p :: rest =>
    match r.step size p rest with
    | .error halt => .error halt
    | .ok .stop => .ok (r, p :: rest)
    | .ok (.next r used) => run size r (rest.drop used)
  termination_by pieces => pieces.length
  decreasing_by simp only [List.length_drop, List.length_cons]; omega

/-- The expression of a reading at the end of a pattern, and its flags. -/
def finish (size : Nat) (r : Reading) (left : List Piece) : Except Halt (Node × Flags) := do
  let here : Ahead := ⟨size, left⟩
  if let some s := r.openSet then here.failAt .unterminatedSet s.start
  if !r.outer.isEmpty then here.failAt .unterminatedGroup r.frame.start
  if r.flags.contains .ascii && r.flags.contains .unicode then here.halt .twoAlphabets
  if !left.isEmpty then here.fail .unbalancedParenthesis
  if let some (group, position) := r.asked.find? (r.groupCount ≤ ·.1) then
    here.failAt (.invalidReference group) position
  return (r.body, r.flags)

end Reading

/-- Reads a pattern.  A backslash that is left over at the end is the
problem of every pattern whose reading gets that far. -/
def parse (pattern : List Char) : Except Error (Node × Flags) :=
  let ⟨pieces, dangling⟩ := cutPieces 0 pattern
  let size := pattern.length - (if dangling then 1 else 0)
  let atBackslash : Except Error (Node × Flags) :=
    .error (.malformed .danglingBackslash (some size))
  match Reading.run size {} pieces with
  | .error halt => if dangling && halt.atEnd then atBackslash else .error halt.error
  | .ok (r, left) =>
    if dangling && left.isEmpty then atBackslash
    else (r.finish size left).mapError (·.error)

end ImageSelect.Regex
