/-!
# Regular expressions

A regular expression is a tree.  Its characters are code points, for an
escape may name one that no text holds.  Flags change how the leaves are
read; a group may turn flags on and off for its body.
-/

namespace ImageSelect.Regex

/-- The flags of an expression. -/
inductive Flag where
  | ignoreCase
  | multiline
  | dotAll
  | verbose
  | ascii
  | unicode
  | template
  deriving Repr, DecidableEq

/-- Flags that are turned on. -/
abbrev Flags := List Flag

/-- Whether a flag chooses the alphabet. -/
def Flag.isAlphabet : Flag → Bool
  | .ascii | .unicode => true
  | _ => false

/-- The flags inside a group that turns some on and some off.  A choice of
alphabet replaces the outer one. -/
def Flags.inner (outer on off : Flags) : Flags :=
  let outer := if on.any Flag.isAlphabet then outer.filter (!·.isAlphabet) else outer
  (outer ++ on).filter fun flag => !off.contains flag

/-- A class of characters. -/
inductive Category where
  | digit
  | space
  | word
  deriving Repr, DecidableEq

/-- A member of a character set. -/
inductive Member where
  | code (n : Nat)
  | range (low high : Nat)
  | category (c : Category) (negated : Bool)
  deriving Repr, DecidableEq

/-- A place between characters. -/
inductive Anchor where
  | textStart
  | textEnd
  | lineStart
  | lineEnd
  | boundary
  | inside
  deriving Repr, DecidableEq

/-- How a repetition chooses between one more turn and going on. -/
inductive Appetite where
  | greedy
  | lazy
  | possessive
  deriving Repr, DecidableEq

/-- The least and the greatest width of the texts that match, in characters;
no greatest if there is no bound. -/
structure Width where
  least : Nat
  most : Option Nat
  deriving Repr, DecidableEq

/-- A regular expression. -/
inductive Node where
  | empty
  | char (negated : Bool) (code : Nat)
  | any
  | set (negated : Bool) (members : List Member)
  | anchor (place : Anchor)
  | backref (group : Nat)
  | seq (first second : Node)
  | alt (first second : Node)
  | capture (group : Nat) (body : Node)
  | scoped (on off : Flags) (body : Node)
  | atomic (body : Node)
  | look (behind : Option Width) (negated : Bool) (body : Node)
  | conditional (group : Nat) (yes no : Node)
  | iterate (appetite : Appetite) (least : Nat) (most : Option Nat) (body : Node)
  deriving Repr, DecidableEq

namespace Node

/-- One after the other. -/
def concat : List Node → Node
  | [] => .empty
  | [node] => node
  | node :: nodes => .seq node (concat nodes)

/-- One or the other, the first for choice. -/
def choice : List Node → Node
  | [] => .empty
  | [node] => node
  | node :: nodes => .alt node (choice nodes)

end Node

namespace Width

/-- The width of the empty text. -/
def none : Width := ⟨0, some 0⟩

/-- The width of a single character. -/
def one : Width := ⟨1, some 1⟩

/-- The width of one text after another. -/
def add (a b : Width) : Width :=
  ⟨a.least + b.least, a.most.bind fun m => b.most.map (m + ·)⟩

/-- The width of one text or another. -/
def either (a b : Width) : Width :=
  ⟨min a.least b.least, a.most.bind fun m => b.most.map (max m ·)⟩

/-- The width of a repetition. -/
def times (w : Width) (least : Nat) (most : Option Nat) : Width :=
  let greatest :=
    match most, w.most with
    | some 0, _ => some 0
    | _, some 0 => some 0
    | some n, some m => some (n * m)
    | _, _ => Option.none
  ⟨w.least * least, greatest⟩

end Width

/-- The width of an expression, given the widths of its groups. -/
def Node.width (groups : Nat → Width) : Node → Width
  | .empty | .anchor _ | .look .. => .none
  | .char .. | .any | .set .. => .one
  | .backref group => groups group
  | .seq a b => (a.width groups).add (b.width groups)
  | .alt a b => (a.width groups).either (b.width groups)
  | .capture _ body | .scoped _ _ body | .atomic body => body.width groups
  | .conditional _ yes no => (yes.width groups).either (no.width groups)
  | .iterate _ least most body => (body.width groups).times least most

end ImageSelect.Regex
