import ImageSelect.Output
import ImageSelect.Proofs.Text.Utf8

/-!
# What output comes to

Of output a reader sees the standard streams and, for each path, the bytes of the
file.  Each operation changes one of these and leaves the others alone.
-/

namespace ImageSelect

section
variable [CurrentDirectory]

theorem sameFile_iff {path other : String} :
    sameFile path other = true ↔
      (Path.ofChars path.toList).resolved = (Path.ofChars other.toList).resolved := by
  rw [sameFile, decide_eq_true_iff]

theorem sameFile_self (path : String) : sameFile path path = true :=
  sameFile_iff.2 rfl

/-- Paths of one file are paths of one file with the same others. -/
theorem sameFile_congr {path path' : String} (h : sameFile path path' = true) (other : String) :
    sameFile path other = sameFile path' other := by
  rw [sameFile, sameFile, sameFile_iff.1 h]

end

/-! ## Files -/

/-- A file gets the bytes of what is added. -/
theorem OutputFile.bytes_append (file : OutputFile) (text : String) (before : List UInt8) :
    { file with text := file.text ++ text }.bytes before =
      file.bytes before ++ Text.Utf8.encode text.toList := by
  simp [OutputFile.bytes, Text.Utf8.encode_append]

namespace Output

@[simp] theorem stdout_report (out : Output) (text : String) :
    (out.report text).stdout = out.stdout :=
  rfl

variable [CurrentDirectory]

/-- A file that is changed is found changed, and other files are found as they were. -/
theorem find?_changeFile (change : OutputFile → OutputFile)
    (hpath : ∀ file, (change file).path = file.path) (path other : String)
    (files : List OutputFile) :
    (changeFile other change files).find? (fun file => sameFile file.path path) =
      if sameFile other path then
        some (change ((files.find? fun file => sameFile file.path path).getD { path := other }))
      else files.find? fun file => sameFile file.path path := by
  induction files with
  | nil =>
    rw [changeFile, List.find?_cons, hpath]
    cases sameFile other path <;> simp
  | cons file files ih =>
    rw [changeFile]
    by_cases hsame : sameFile file.path other = true
    · rw [if_pos hsame, List.find?_cons, List.find?_cons, hpath, sameFile_congr hsame]
      cases sameFile other path <;> simp
    · rw [if_neg hsame, List.find?_cons, List.find?_cons, ih]
      by_cases hfile : sameFile file.path path = true
      · have hother : ¬sameFile other path = true := by
          intro hother
          exact hsame (sameFile_iff.2 ((sameFile_iff.1 hfile).trans (sameFile_iff.1 hother).symm))
        simp [hfile, hother]
      · simp [hfile]

section
variable (out : Output) (other text path : String) (before : List UInt8)

/-- Adding to a file adds to its bytes. -/
theorem bytesOf_append :
    (out.append other text).bytesOf path before =
      out.bytesOf path before ++
        if sameFile other path then Text.Utf8.encode text.toList else [] := by
  have hfile : (out.append other text).file? path = _ :=
    find?_changeFile (fun file => { file with text := file.text ++ text }) (fun _ => rfl) path other
      out.files
  rw [bytesOf, bytesOf, hfile, ← file?]
  cases sameFile other path with
  | false => simp
  | true =>
    cases out.file? path with
    | none => simp [OutputFile.bytes]
    | some file => exact file.bytes_append text before

/-- A file that is given a new text has the bytes of it. -/
theorem bytesOf_replace :
    (out.replace other text).bytesOf path before =
      if sameFile other path then Text.Utf8.encode text.toList else out.bytesOf path before := by
  have hfile : (out.replace other text).file? path = _ :=
    find?_changeFile (fun file => { file with text, replaces := true }) (fun _ => rfl) path other
      out.files
  rw [bytesOf, bytesOf, hfile, ← file?]
  cases sameFile other path with
  | false => rfl
  | true => rfl

@[simp] theorem bytesOf_report : (out.report text).bytesOf path before = out.bytesOf path before :=
  rfl

theorem bytesOf_empty : ({} : Output).bytesOf path before = before :=
  rfl

/-! ## The standard output -/

@[simp] theorem stdout_append : (out.append other text).stdout = out.stdout :=
  rfl

@[simp] theorem stdout_replace : (out.replace other text).stdout = out.stdout :=
  rfl

end

end Output

end ImageSelect
