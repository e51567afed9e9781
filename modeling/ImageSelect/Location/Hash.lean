import ImageSelect.Location

/-!
# Hashes of locations

A file is hashed by its URL, and a plane by its file, its series and its frame.  How texts and
numbers are hashed, and how the hashes of several things are made one, may differ from one run
of the program to the next.
-/

namespace ImageSelect

/-- How texts, numbers and several things together are hashed. -/
structure Hashing where
  text : String → Int
  number : Nat → Int
  together : List Int → Int

/-- The hash of a file. -/
def ImageFile.hashBy (h : Hashing) (file : ImageFile) : Int :=
  h.text file.url

/-- The hash of a plane. -/
def Plane.hashBy (h : Hashing) (p : Plane) : Int :=
  h.together [p.file.hashBy h, h.number p.series, h.number p.frame]

/-- The hash of a location. -/
def Location.hashBy (h : Hashing) : Location → Int
  | .file f => f.hashBy h
  | .plane p => p.hashBy h

end ImageSelect
