import Std.Data.HashMap

/-!
# Interned strings

A cache keeps one instance of every string that goes through it.  An
instance is known by its ticket: the number of strings that the cache held
when it came in.  Nothing is ever taken out.
-/

namespace ImageSelect

/-- A string with the ticket of its instance. -/
structure Interned where
  text : String
  ticket : Nat
  deriving Repr, DecidableEq

/-- A cache of strings. -/
structure StringCache where
  tickets : Std.HashMap String Nat := {}

namespace StringCache

/-- The number of strings in a cache. -/
def size (cache : StringCache) : Nat :=
  cache.tickets.size

/-- Whether a cache holds a string. -/
def contains (cache : StringCache) (text : String) : Bool :=
  cache.tickets.contains text

/-- The instance of a string, which comes in if it is new. -/
def intern (cache : StringCache) (text : String) : Interned × StringCache :=
  match cache.tickets[text]? with
  | some ticket => (⟨text, ticket⟩, cache)
  | none => (⟨text, cache.size⟩, ⟨cache.tickets.insert text cache.size⟩)

/-- Interning gives back the string it is asked for. -/
@[simp] theorem intern_text (cache : StringCache) (text : String) :
    (cache.intern text).1.text = text := by
  unfold intern
  split <;> rfl

end StringCache

end ImageSelect
