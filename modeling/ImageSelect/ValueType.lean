/-!
# Types of values

Predicates declare the type of value that they consume.  Planes and files
are both locations, truth values are integers, and everything is an object.
-/

namespace ImageSelect

/-- The types that values may have. -/
inductive ValueType where
  | object
  | location
  | file
  | plane
  | text
  | null
  | integer
  | boolean
  | decimal
  | list
  | record
  deriving Repr, DecidableEq, Hashable

namespace ValueType

/-- The name of a type in messages. -/
def name : ValueType → String
  | .object => "object"
  | .location => "ImageLocation"
  | .file => "ImageFile"
  | .plane => "ImagePlane"
  | .text => "str"
  | .null => "NoneType"
  | .integer => "int"
  | .boolean => "bool"
  | .decimal => "float"
  | .list => "list"
  | .record => "dict"

/-- Whether every value of the first type is also one of the second. -/
def isSubtype (sub super : ValueType) : Bool :=
  super = .object || sub = super ||
    (super = .location && (sub = .file || sub = .plane)) ||
    (super = .integer && sub = .boolean)

/-- Every type is a subtype of itself. -/
@[simp] theorem isSubtype_refl (t : ValueType) : t.isSubtype t = true := by
  simp [isSubtype]

/-- Subtypes of a subtype are subtypes. -/
theorem isSubtype_trans {a b c : ValueType} (hab : a.isSubtype b = true)
    (hbc : b.isSubtype c = true) : a.isSubtype c = true := by
  cases a <;> cases b <;> first
    | exact absurd hab (by decide)
    | (cases c <;> first
        | exact absurd hbc (by decide)
        | decide)

end ValueType

end ImageSelect
