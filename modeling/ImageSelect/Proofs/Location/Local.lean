import ImageSelect.Proofs.Location.Name

/-!
# The two names of a local URL

A `file` URL may write its path with single and double dots, with slashes that are doubled or
encoded, and with no slash in front.  Its file name is read off the path as it is written, and its
path name off the absolute form.  `local_names_fit` says that both are about the same file, if the
path does not end in a double dot.
-/

namespace ImageSelect.Location

open ImageSelect.Url

/-! ## The path of a local URL -/

/-- The path that a URL stands for. -/
def pathOf (url : Url) : Path :=
  Path.ofChars (percentDecode url.path)

/-- The absolute form of the path that a URL stands for. -/
def absolutePathOf (url : Url) : Path :=
  Path.absoluteIn ['/'] (percentDecode url.path)

theorem absolutePathOf_eq (url : Url) : absolutePathOf url = (pathOf url).absolute :=
  Path.absolute_within_slash _

theorem normal_absolutePathOf (url : Url) : (absolutePathOf url).Normal :=
  Path.absoluteIn_normal _ _

section
variable {url : Url} (hscheme : url.scheme = fileScheme)
  (hlocal : url.authority = [] ∨ url.authority = "localhost".toList)

include hlocal in
theorem localPath_of_local : localPath url = .ok (pathOf url) := by
  have hauthority : isLocal url.authority = true := by
    rwa [isLocal, Bool.or_eq_true, decide_eq_true_eq, decide_eq_true_eq]
  rw [localPath, if_pos hauthority, pathOf]

include hscheme hlocal in
/-- The file name is the last name of the absolute path, unless a double dot stands there. -/
theorem fileNameOf_of_local (hlast : (pathOf url).names.getLast? ≠ some ['.', '.']) :
    fileNameOf url = .ok (absolutePathOf url).fileName := by
  rw [fileNameOf, if_pos hscheme, localPath_of_local hlocal, absolutePathOf_eq,
    Path.fileName_absolute hlast]
  rfl

include hscheme hlocal in
/-- In the root of all files, the path name is the folder of the absolute path. -/
theorem pathNameOf_of_local [CurrentDirectory] (hcurrent : CurrentDirectory.path = "/") :
    pathNameOf url = .ok (absolutePathOf url).parent.toChars := by
  have hresolved : (pathOf url).resolved = absolutePathOf url := by
    rw [Path.resolved, hcurrent]
    rfl
  rw [pathNameOf, if_pos hscheme, localPath_of_local hlocal, ← hresolved]
  rfl

end

/-! ## Both names -/

/-- The text of a path that starts at a root, with names below it that mean themselves. -/
def IsAbsolute (root text : List Char) : Prop :=
  ∃ names : List (List Char), text = root ++ Text.join '/' names ∧
    ∀ name ∈ names, name ≠ [] ∧ name ≠ ['.'] ∧ name ≠ ['.', '.'] ∧ '/' ∉ name

theorem isAbsolute_toChars {path : Path} (h : path.Normal) :
    IsAbsolute (Path.rootChars path.root) path.toChars := by
  refine ⟨path.names, h.toChars_eq, fun name hname => ?_⟩
  obtain ⟨hisName, hslash⟩ := h.proper name hname
  rw [Path.isName, Bool.and_eq_true, decide_eq_true_eq, decide_eq_true_eq] at hisName
  exact ⟨hisName.1, hisName.2, h.resolved name hname, hslash⟩

/-- A last name is no dot and no double dot. -/
theorem fileName_ne_dots {path : Path} (h : path.Normal) :
    path.fileName ≠ ['.'] ∧ path.fileName ≠ ['.', '.'] := by
  rcases h.cases_names with ⟨-, hfile, -⟩ | ⟨hproper, hnames⟩
  · rw [hfile]
    exact ⟨by decide, by decide⟩
  · refine ⟨fun hdot => ?_, h.resolved _ (by rw [hnames]; simp)⟩
    rw [hdot] at hproper
    exact absurd hproper.1 (by decide)

/-- With the root of all files as the current directory, the names of a local URL fit together, if
its decoded path does not end in a double dot.  The file name is no dot, no double dot and has no
slash.  The path name is absolute, and has nothing left to resolve: it starts with one slash, or
with two if the path starts with exactly two.  Joined with the file name it is the absolute form of
the path, and only at a root there is no file name. -/
theorem local_names_fit [CurrentDirectory] (hcurrent : CurrentDirectory.path = "/")
    {text : String} {url : Url} (hparse : Url.parse text.toList = .ok url)
    (hscheme : url.scheme = fileScheme)
    (hlocal : url.authority = [] ∨ url.authority = "localhost".toList)
    (hlast : (pathOf url).names.getLast? ≠ some ['.', '.']) :
    let path := percentDecode url.path
    let absolute := (Path.absoluteIn ['/'] path).toChars
    let root := if (path.takeWhile (· = '/')).length = 2 then ['/', '/'] else ['/']
    ∃ name folder : String,
      Gives (Run.fileName? text) (some name) ∧ Gives (Run.pathName? text) (some folder) ∧
      '/' ∉ name.toList ∧ name ≠ "." ∧ name ≠ ".." ∧
      IsAbsolute root folder.toList ∧
      Path.joinChars folder.toList name.toList = absolute ∧
      (name = "" ↔ absolute = root) := by
  intro path absolute root
  have hnormal := normal_absolutePathOf url
  have hroot : Path.rootChars (absolutePathOf url).root = root := by
    rw [absolutePathOf_eq, pathOf, Path.rootChars_absolute_ofChars]
  obtain ⟨hdot, hdots⟩ := fileName_ne_dots hnormal
  refine ⟨String.ofList (absolutePathOf url).fileName,
    String.ofList (absolutePathOf url).parent.toChars,
    gives_fileName hparse (fileNameOf_of_local hscheme hlocal hlast),
    gives_pathName hparse (pathNameOf_of_local hscheme hlocal hcurrent), ?_, ?_, ?_, ?_, ?_, ?_⟩
  · rw [String.toList_ofList]
    exact hnormal.not_mem_fileName
  · exact fun h => hdot (by simpa using congrArg String.toList h)
  · exact fun h => hdots (by simpa using congrArg String.toList h)
  · rw [String.toList_ofList, ← hroot]
    exact isAbsolute_toChars hnormal.parent
  · rw [String.toList_ofList, String.toList_ofList, hnormal.joinChars_parent]
    rfl
  · rw [← String.toList_inj, String.toList_ofList, String.toList_empty,
      hnormal.fileName_eq_nil_iff, hnormal.names_eq_nil_iff_rootChars, hroot]
    rfl

/-- The statement for a URL with the name of this machine, dots, a doubled slash and encoded
slashes. -/
theorem local_names_fit_encoded :
    letI : CurrentDirectory := .root
    ∃ name folder : String,
      Gives (Run.fileName? "file://localhost/a/.//b/%2E./c%2Fd.tif/.") (some name) ∧
      Gives (Run.pathName? "file://localhost/a/.//b/%2E./c%2Fd.tif/.") (some folder) ∧
      '/' ∉ name.toList ∧ IsAbsolute ['/'] folder.toList ∧
      Path.joinChars folder.toList name.toList = "/a/c/d.tif".toList := by
  let _ : CurrentDirectory := .root
  have hparse : Url.parse "file://localhost/a/.//b/%2E./c%2Fd.tif/.".toList =
      .ok ⟨fileScheme, "localhost".toList, "/a/.//b/%2E./c%2Fd.tif/.".toList, [], [], none⟩ := rfl
  have hpath : percentDecode "/a/.//b/%2E./c%2Fd.tif/.".toList = "/a/.//b/../c/d.tif/.".toList := by
    decide +kernel
  obtain ⟨name, folder, hname, hfolder, hslash, -, -, habsolute, hjoin, -⟩ :=
    local_names_fit rfl hparse rfl (.inr rfl) (by rw [pathOf, hpath]; decide)
  rw [hpath] at habsolute hjoin
  exact ⟨name, folder, hname, hfolder, hslash, habsolute, hjoin⟩

end ImageSelect.Location
