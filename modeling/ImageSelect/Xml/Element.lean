/-!
# Elements

A document is a tree of elements.  Only what the rest of the library looks
at is kept: names, attributes and the elements inside.
-/

namespace ImageSelect.Xml

/-- An element.  Names carry their namespace in braces in front. -/
structure Element where
  name : String
  attributes : List (String × String)
  children : List Element

/-- The number of elements in a tree, its root included. -/
def Element.size : Element → Nat
  | ⟨_, _, children⟩ => 1 + sizes children
where
  sizes : List Element → Nat
    | [] => 0
    | e :: es => e.size + sizes es

end ImageSelect.Xml
