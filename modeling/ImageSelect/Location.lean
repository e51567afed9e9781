import ImageSelect.Text.Integer
import ImageSelect.Xml.Element

/-!
# Locations

An image file is known by its URL and may carry a metadata document.  A
plane is one image in a file, numbered by series and frame.  Both are
locations.  Two files are equal when their URLs are, whatever documents they
carry.
-/

namespace ImageSelect

/-- An image file. -/
structure ImageFile where
  url : String
  document : Option Xml.Element := none

/-- Files are compared by URL. -/
instance : BEq ImageFile :=
  ⟨fun a b => a.url == b.url⟩

/-- Files are equal exactly when their URLs are. -/
theorem ImageFile.beq_iff (a b : ImageFile) : (a == b) = true ↔ a.url = b.url := by
  show (a.url == b.url) = true ↔ _
  exact beq_iff_eq

/-- A plane of an image file. -/
structure Plane where
  file : ImageFile
  series : Nat := 0
  frame : Nat := 0

/-- Planes are compared by file, series and frame. -/
instance : BEq Plane :=
  ⟨fun a b => a.file == b.file && a.series == b.series && a.frame == b.frame⟩

/-- Planes are equal exactly when URL, series and frame are. -/
theorem Plane.beq_iff (a b : Plane) :
    (a == b) = true ↔ a.file.url = b.file.url ∧ a.series = b.series ∧ a.frame = b.frame := by
  show (a.file == b.file && a.series == b.series && a.frame == b.frame) = true ↔ _
  rw [Bool.and_eq_true, Bool.and_eq_true, ImageFile.beq_iff, beq_iff_eq, beq_iff_eq, and_assoc]

/-- Why numbers make no plane. -/
inductive PlaneError where
  | negativeSeries (series : Int)
  | negativeFrame (frame : Int)
  deriving Repr, DecidableEq

/-- What is said of numbers that make no plane. -/
def PlaneError.message : PlaneError → String
  | .negativeSeries series =>
    Text.messageOr (("Series must be non-negative, got " ++ ·) <$> Text.writeInteger series)
  | .negativeFrame frame =>
    Text.messageOr (("Index must be non-negative, got " ++ ·) <$> Text.writeInteger frame)

/-- The plane of a file with the given numbers. -/
def Plane.ofNumbers (file : ImageFile) (series frame : Int) : Except PlaneError Plane :=
  if series < 0 then .error (.negativeSeries series)
  else if frame < 0 then .error (.negativeFrame frame)
  else .ok ⟨file, series.toNat, frame.toNat⟩

/-- The first plane of a file. -/
def Plane.first (file : ImageFile) : Plane :=
  { file }

/-- A file or one of its planes. -/
inductive Location where
  | file (f : ImageFile)
  | plane (p : Plane)

namespace Location

/-- The file of a location. -/
def imageFile : Location → ImageFile
  | .file f => f
  | .plane p => p.file

/-- The URL of a location. -/
def url (l : Location) : String :=
  l.imageFile.url

/-- The series of a plane. -/
def series? : Location → Option Nat
  | .file _ => none
  | .plane p => some p.series

/-- The frame of a plane. -/
def frame? : Location → Option Nat
  | .file _ => none
  | .plane p => some p.frame

/-- A short description for people. -/
def describe : Location → Except Text.WriteError String
  | .file f => return "ImageFile: " ++ f.url
  | .plane p => do
    let series ← Text.writeNumber p.series
    let frame ← Text.writeNumber p.frame
    return "ImagePlane: " ++ p.file.url ++ ", series=" ++ series ++ ", index=" ++ frame

end Location

end ImageSelect
