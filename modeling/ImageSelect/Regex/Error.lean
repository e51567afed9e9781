import ImageSelect.Regex.Basic
import ImageSelect.Text.Integer
import ImageSelect.Text.Quoted

/-!
# What is wrong with a pattern

A pattern is refused with a problem and, for most problems, a position.
Three faults are of another kind and have no position: a repetition count
that is too large, a number that is too long to read, and two alphabets at
once.
-/

namespace ImageSelect.Regex

/-- A problem with the text of a pattern.  Fields hold the parts of the
pattern that the wording shows. -/
inductive Problem where
  | danglingBackslash
  | unbalancedParenthesis
  | unterminatedGroup
  | unterminatedComment
  | unterminatedSet
  | unexpectedEnd
  | unknownExtension (text : List Char)
  | missing (what : String)
  | unterminatedName (terminator : Char)
  | badGroupName (name : List Char)
  | redefinedGroup (name : List Char) (group first : Nat)
  | unknownGroup (name : List Char)
  | badGroupNumber
  | invalidReference (group : Nat)
  | openGroup
  | sameLookbehind
  | tooManyBranches
  | badRange (low high : List Char)
  | incompleteEscape (escape : List Char)
  | badEscape (escape : List Char)
  | octalRange (escape : List Char)
  | unknownCharacter (name : List Char)
  | nothingToRepeat
  | multipleRepeat
  | repeatBounds
  | globalFlagsInside
  | unknownFlag
  | localeFlag
  | alphabetFlags
  | alphabetFlagOff
  | globalFlagOn
  | globalFlagOff
  | flagOnAndOff
  | variableLookbehind
  | farLookbehind
  | templateRepeat (appetite : Appetite)
  deriving Repr, DecidableEq

/-- The wording of a problem. -/
def Problem.message : Problem → String
  | .danglingBackslash => "bad escape (end of pattern)"
  | .unbalancedParenthesis => "unbalanced parenthesis"
  | .unterminatedGroup => "missing ), unterminated subpattern"
  | .unterminatedComment => "missing ), unterminated comment"
  | .unterminatedSet => "unterminated character set"
  | .unexpectedEnd => "unexpected end of pattern"
  | .unknownExtension text => "unknown extension ?" ++ String.ofList text
  | .missing what => "missing " ++ what
  | .unterminatedName terminator =>
    "missing " ++ String.ofList [terminator] ++ ", unterminated name"
  | .badGroupName name => "bad character in group name " ++ Text.quoted (String.ofList name)
  | .redefinedGroup name group first =>
    "redefinition of group name " ++ Text.quoted (String.ofList name) ++ " as group " ++
      toString group ++ "; was group " ++ toString first
  | .unknownGroup name => "unknown group name " ++ Text.quoted (String.ofList name)
  | .badGroupNumber => "bad group number"
  | .invalidReference group => "invalid group reference " ++ toString group
  | .openGroup => "cannot refer to an open group"
  | .sameLookbehind => "cannot refer to group defined in the same lookbehind subpattern"
  | .tooManyBranches => "conditional backref with more than two branches"
  | .badRange low high =>
    "bad character range " ++ String.ofList low ++ "-" ++ String.ofList high
  | .incompleteEscape escape => "incomplete escape " ++ String.ofList escape
  | .badEscape escape => "bad escape " ++ String.ofList escape
  | .octalRange escape =>
    "octal escape value " ++ String.ofList escape ++ " outside of range 0-0o377"
  | .unknownCharacter name =>
    "undefined character name " ++ Text.quoted (String.ofList name)
  | .nothingToRepeat => "nothing to repeat"
  | .multipleRepeat => "multiple repeat"
  | .repeatBounds => "min repeat greater than max repeat"
  | .globalFlagsInside => "global flags not at the start of the expression"
  | .unknownFlag => "unknown flag"
  | .localeFlag => "bad inline flags: cannot use 'L' flag with a str pattern"
  | .alphabetFlags => "bad inline flags: flags 'a', 'u' and 'L' are incompatible"
  | .alphabetFlagOff => "bad inline flags: cannot turn off flags 'a', 'u' and 'L'"
  | .globalFlagOn => "bad inline flags: cannot turn on global flag"
  | .globalFlagOff => "bad inline flags: cannot turn off global flag"
  | .flagOnAndOff => "bad inline flags: flag turned on and off"
  | .variableLookbehind => "look-behind requires fixed-width pattern"
  | .farLookbehind => "looks too much behind"
  | .templateRepeat .greedy => "internal: unsupported template operator MAX_REPEAT"
  | .templateRepeat .lazy => "internal: unsupported template operator MIN_REPEAT"
  | .templateRepeat .possessive => "internal: unsupported template operator POSSESSIVE_REPEAT"

/-- Why a pattern is refused. -/
inductive Error where
  | malformed (problem : Problem) (position : Option Nat)
  | repetitionTooLarge
  | numberTooLong (digits : Nat)
  | twoAlphabets
  deriving Repr, DecidableEq

/-- The line of a position in a text of several lines, and the column in
that line; both count from one. -/
def lineColumn (text : List Char) (position : Nat) : Nat × Nat :=
  let before := text.take position
  (before.count '\n' + 1, (before.reverse.takeWhile (· ≠ '\n')).length + 1)

/-- The place of a problem in a pattern. -/
def placeText (pattern : List Char) (position : Nat) : String :=
  let place := " at position " ++ toString position
  if pattern.contains '\n' then
    let (line, column) := lineColumn pattern position
    place ++ " (line " ++ toString line ++ ", column " ++ toString column ++ ")"
  else place

/-- The wording of an error. -/
def Error.message (pattern : List Char) : Error → String
  | .malformed problem none => problem.message
  | .malformed problem (some position) => problem.message ++ placeText pattern position
  | .repetitionTooLarge => "the repetition number is too large"
  | .numberTooLong digits => Text.tooLongMessage digits
  | .twoAlphabets => "ASCII and UNICODE flags are incompatible"

end ImageSelect.Regex
