import ImageSelect.Regex.Matcher
import ImageSelect.Regex.Parser

/-!
# Patterns

A pattern is compiled once and then searched for in texts.  Beyond reading,
compiling checks what depends on the flags of the whole pattern: a
look-behind must have a fixed width, and a template has no repetitions.
-/

namespace ImageSelect.Regex

/-- The greatest distance that a look-behind reaches. -/
def lookbehindLimit : Nat := 4294967295

/-- Checks the width of a look-behind. -/
def checkBehind : Option Width → Except Error Unit
  | none => .ok ()
  | some width =>
    if lookbehindLimit < width.least then .error (.malformed .farLookbehind none)
    else if width.most ≠ some width.least then .error (.malformed .variableLookbehind none)
    else .ok ()

/-- Checks an expression under its flags, from left to right. -/
def Node.check (flags : Flags) : Node → Except Error Unit
  | .seq a b | .alt a b | .conditional _ a b => do
    a.check flags
    b.check flags
  | .capture _ body | .atomic body => body.check flags
  | .scoped on off body => body.check (flags.inner on off)
  | .look behind _ body => do
    checkBehind behind
    body.check flags
  | .iterate appetite _ _ body => do
    if flags.contains .template then
      throw (.malformed (.templateRepeat appetite) none)
    body.check flags
  | _ => .ok ()

/-- A pattern that is ready for searching. -/
structure Pattern where
  node : Node
  flags : Flags
  deriving Repr, DecidableEq

/-- Compiles a pattern. -/
def compile (text : List Char) : Except Error Pattern := do
  let (node, flags) ← parse text
  node.check flags
  return ⟨node, flags⟩

/-- Whether a pattern matches somewhere in a text. -/
def Pattern.occursIn (p : Pattern) (text : List Char) : Bool :=
  (p.node.search p.flags [] text).isSome

end ImageSelect.Regex
