import ImageSelect.Proofs.Path
import ImageSelect.Proofs.Session
import ImageSelect.Proofs.Url.Parse

/-!
# Names lose nothing

The file name and the path name that are derived from a URL are the two parts of
the path that it stands for.

* A local path goes into a URL and comes out of it: the names are those of its
  absolute form, whatever characters it has (`local_path_round_trip`).
* The names of a remote URL are its decoded path, cut at the last slash; the path
  name is a URL again (`remote_url_split`).
-/

namespace ImageSelect

namespace Location

open ImageSelect.Url

/-! ## Derived names -/

section
variable {text : String} {url : Url} {name : List Char} (h : Url.parse text.toList = .ok url)
include h

/-- What is derived from the parts of a URL is derived from its text. -/
theorem derive_of_parse {derive : Url → Except NameError (List Char)}
    (hname : derive url = .ok name) :
    (parseUrl text >>= fun parts => derive parts >>= fun name => pure (String.ofList name)) =
      .ok (String.ofList name) := by
  have hparts : parseUrl text = .ok url := by
    rw [parseUrl, h]
    rfl
  rw [hparts, Except.bind_eq_ok_iff]
  refine ⟨url, rfl, ?_⟩
  rw [hname]
  rfl

theorem gives_fileName [CurrentDirectory] (hname : fileNameOf url = .ok name) :
    Gives (Run.fileName? text) (some (String.ofList name)) := by
  have hfile : fileName text = .ok (String.ofList name) := derive_of_parse h hname
  have hgives := gives_fileName? text
  rwa [hfile] at hgives

theorem gives_pathName [CurrentDirectory] (hname : pathNameOf url = .ok name) :
    Gives (Run.pathName? text) (some (String.ofList name)) := by
  have hpath : pathName text = .ok (String.ofList name) := derive_of_parse h hname
  have hgives := gives_pathName? text
  rwa [hpath] at hgives

end

/-- A path name is a path from a root, or a URL. -/
theorem pathNameOf_ne_nil [CurrentDirectory] {url : Url} {name : List Char}
    (h : pathNameOf url = .ok name) : name ≠ [] := by
  unfold pathNameOf at h
  split at h
  · obtain ⟨path, hpath, rfl⟩ := Except.map_eq_ok_iff.1 h
    unfold localPath at hpath
    split at hpath
    · obtain rfl := Except.ok.inj hpath
      exact (Path.normal_resolved_ofChars _).parent.toChars_ne_nil
    · cases hpath
  · split at h
    · cases h
    · obtain rfl := Except.ok.inj h
      simp [write]

theorem pathName_ne_empty [CurrentDirectory] {text folder : String}
    (h : pathName text = .ok folder) : folder ≠ "" := by
  obtain ⟨url, -, hderive⟩ := Except.bind_eq_ok_iff.1 h
  obtain ⟨name, hname, hfolder⟩ := Except.bind_eq_ok_iff.1 hderive
  rw [← Except.ok.inj hfolder]
  exact mt String.ofList_eq_empty_iff.1 (pathNameOf_ne_nil hname)

/-! ## Local paths -/

theorem isScheme_fileScheme : IsScheme fileScheme where
  letter := ⟨'f', ['i', 'l', 'e'], rfl, rfl⟩
  chars := List.all_eq_true.1 rfl

/-- The URL with which a local file is known. -/
def urlOfText (text : List Char) : Url :=
  ⟨fileScheme, [], percentEncode text, [], [], none⟩

/-- The URL of a local path is read as the scheme of files and the path. -/
theorem parse_urlOfPathIn (directory path : String) :
    Url.parse (urlOfPathIn directory path).toList =
      .ok (urlOfText (Path.absoluteIn directory.toList path.toList).toChars) := by
  have hnormal := Path.absoluteIn_normal directory.toList path.toList
  rw [urlOfPathIn, String.toList_ofList]
  exact parse_write isScheme_fileScheme isAuthority_nil fun c hc => hnormal.head?_toChars hc

theorem localPath_urlOfText {q : Path} (h : q.Normal) :
    localPath (urlOfText q.toChars) = .ok q := by
  rw [localPath, if_pos (by rfl), urlOfText, percentDecode_percentEncode, h.ofChars_toChars]

theorem fileNameOf_urlOfText {q : Path} (h : q.Normal) :
    fileNameOf (urlOfText q.toChars) = .ok q.fileName := by
  have hscheme : (urlOfText q.toChars).scheme = fileScheme := rfl
  rw [fileNameOf, if_pos hscheme, localPath_urlOfText h]
  rfl

theorem pathNameOf_urlOfText [CurrentDirectory] {q : Path} (h : q.Normal) :
    pathNameOf (urlOfText q.toChars) = .ok q.parent.toChars := by
  have hscheme : (urlOfText q.toChars).scheme = fileScheme := rfl
  rw [pathNameOf, if_pos hscheme, localPath_urlOfText h]
  show Except.ok q.resolved.parent.toChars = _
  rw [h.resolved_eq]

theorem toNat_lt_of_mem_urlOfPathIn {directory path : String} {c : Char}
    (h : c ∈ (urlOfPathIn directory path).toList) : c.toNat < 0x80 := by
  rw [urlOfPathIn, String.toList_ofList] at h
  rcases mem_write_iff.1 h with h | rfl | rfl | h | h
  · exact toNat_lt_of_isSchemeChar (isScheme_fileScheme.chars c h)
  · decide
  · decide
  · exact absurd h List.not_mem_nil
  · exact toNat_lt_of_isEncoded (isEncoded_of_mem_percentEncode h)

theorem write_inj {scheme authority path path' : List Char} :
    write scheme authority path = write scheme authority path' ↔ path = path' :=
  List.append_right_inj _

/-- Files at local paths are the same if the absolute forms of the paths are. -/
theorem ofPathIn_beq_iff (directory path directory' path' : String) :
    (ImageFile.ofPathIn directory path == ImageFile.ofPathIn directory' path') = true ↔
      Path.absoluteIn directory.toList path.toList =
        Path.absoluteIn directory'.toList path'.toList := by
  rw [ImageFile.beq_iff]
  show String.ofList _ = String.ofList _ ↔ _
  rw [String.ofList_inj, write_inj, percentEncode_inj,
    (Path.absoluteIn_normal _ _).toChars_inj (Path.absoluteIn_normal _ _)]

/-- The URL of a local path is ASCII, and it is read as a URL with the scheme of
files, the encoded path and nothing else.  The file name is what stands behind the
last slash of the absolute path, and there is none only at a root; the path name is
the folder, and joined with the file name it is the absolute path again.  Files at
two paths are the same exactly if the absolute paths are. -/
theorem local_path_round_trip [CurrentDirectory] (directory path : String) :
    (∀ c ∈ (ImageFile.ofPathIn directory path).url.toList, c.toNat < 0x80) ∧
    let q := Path.absoluteIn directory.toList path.toList
    let file := ImageFile.ofPathIn directory path
    (∃ encoded, Url.parse file.url.toList = .ok ⟨fileScheme, [], encoded, [], [], none⟩ ∧
      percentDecode encoded = q.toChars) ∧
    (∃ name folder : String,
      Gives (Run.fileName? file.url) (some name) ∧
      Gives (Run.pathName? file.url) (some folder) ∧
      name.toList = lastComponent q.toChars ∧
      (name = "" ↔ q.toChars = ['/'] ∨ q.toChars = ['/', '/']) ∧
      folder.toList = q.parent.toChars ∧
      Path.joinChars folder.toList name.toList = q.toChars) ∧
    ∀ directory' path' : String,
      (file == ImageFile.ofPathIn directory' path') = true ↔
        q.toChars = (Path.absoluteIn directory'.toList path'.toList).toChars := by
  refine ⟨fun c => toNat_lt_of_mem_urlOfPathIn, ?_⟩
  intro q file
  have hnormal : q.Normal := Path.absoluteIn_normal _ _
  have hparse := parse_urlOfPathIn directory path
  refine ⟨⟨_, hparse, percentDecode_percentEncode _⟩, ?names, ?same⟩
  case names =>
    refine ⟨String.ofList q.fileName, String.ofList q.parent.toChars,
      gives_fileName hparse (fileNameOf_urlOfText hnormal),
      gives_pathName hparse (pathNameOf_urlOfText hnormal), ?_, ?_, String.toList_ofList, ?_⟩
    · rw [String.toList_ofList, lastComponent, hnormal.cutLast_toChars]
    · rw [← String.toList_inj, String.toList_ofList, String.toList_empty,
        hnormal.fileName_eq_nil_iff, hnormal.names_eq_nil_iff]
    · rw [String.toList_ofList, String.toList_ofList, hnormal.joinChars_parent]
  case same =>
    intro directory' path'
    rw [ofPathIn_beq_iff, hnormal.toChars_inj (Path.absoluteIn_normal _ _)]

/-! ## Remote URLs -/

theorem leadingComponents_append {path : List Char} (h : '/' ∈ path) :
    leadingComponents path ++ '/' :: lastComponent path = path :=
  Text.cutLast_join h

theorem not_mem_lastComponent (path : List Char) : '/' ∉ lastComponent path :=
  Text.not_mem_cutLast '/' path

/-- What stands before the last slash of a rooted path is rooted, or nothing. -/
theorem head?_leadingComponents {rest : List Char} {c : Char}
    (hc : (leadingComponents ('/' :: rest)).head? = some c) : c = '/' := by
  have hmem : '/' ∈ '/' :: rest := List.mem_cons_self
  have happend := leadingComponents_append hmem
  cases hlead : leadingComponents ('/' :: rest) with
  | nil =>
    rw [hlead] at hc
    cases hc
  | cons first more =>
    rw [hlead] at hc happend
    obtain rfl := Option.some.inj hc
    exact (List.cons.inj happend).1

/-- The URL with the decoded path of another, cut before its last slash. -/
def folderOf (url : Url) : Url :=
  { url with
    path := percentEncode (leadingComponents (percentDecode url.path))
    query := []
    fragment := [] }

section
variable {text : String} {url : Url} (hparse : Url.parse text.toList = .ok url)
  (hauthority : url.authority ≠ []) (hpath : url.path ≠ [])

include hparse hauthority hpath in
theorem exists_percentDecode_path : ∃ rest, percentDecode url.path = '/' :: rest := by
  obtain ⟨raw, tail, -, -, -, -, hhead, -⟩ := exists_of_parse hparse hauthority
  obtain ⟨c, rest, hcons⟩ := List.exists_cons_of_ne_nil hpath
  rw [hcons] at hhead ⊢
  obtain rfl := hhead c rfl
  exact ⟨_, percentDecode_cons (by decide) (by decide) rest⟩

include hparse hauthority hpath in
/-- The path name of a remote URL is a URL again. -/
theorem parse_folderOf :
    Url.parse (write url.scheme url.authority (folderOf url).path) = .ok (folderOf url) := by
  obtain ⟨rest, hrest⟩ := exists_percentDecode_path hparse hauthority hpath
  obtain ⟨raw, tail, -, hraw, hscheme, hauthority, -, -⟩ := exists_of_parse hparse hauthority
  have hhead : ∀ c, (leadingComponents (percentDecode url.path)).head? = some c → c = '/' := by
    rw [hrest]
    exact fun c => head?_leadingComponents
  have hwrite := parse_write hraw hauthority hhead
  rw [← hscheme] at hwrite
  exact hwrite

include hparse hauthority in
/-- The text of a URL in lower case without query and fragment is written from its
parts. -/
theorem eq_write_of_parse (hlower : ∀ c ∈ (Text.cut ':' text.toList).1, c.isUpper = false)
    (hquery : '?' ∉ text.toList) (hfragment : '#' ∉ text.toList) :
    text.toList = write url.scheme url.authority url.path := by
  obtain ⟨raw, tail, htext, hraw, hscheme, -, -, htail⟩ := exists_of_parse hparse hauthority
  have hnil : tail = [] := by
    rcases htail with rfl | hmem | hmem
    · rfl
    · exact absurd (by rw [htext]; simp [mem_write_iff, hmem]) hquery
    · exact absurd (by rw [htext]; simp [mem_write_iff, hmem]) hfragment
  have hcut : (Text.cut ':' text.toList).1 = raw := by
    rw [htext, write_eq, Text.cut_append (hraw.not_mem (by decide))]
  have hsame : url.scheme = raw := by
    rw [hscheme]
    have hid : raw.map Char.toLower = raw.map id := by
      exact List.map_congr_left fun c hc => toLower_eq_self (hlower c (by rwa [hcut]))
    rw [hid, List.map_id]
  rw [htext, hsame, hnil, List.append_nil]

end

/-- The path name of a URL that is no `file` URL is a URL with the same scheme and
authority and nothing behind its path; the file name has no slash; and the decoded
path of the one, a slash and the other are the decoded path of the URL.  If the URL
has its scheme in lower case, neither query nor fragment, and an encoded path, then
the path name, a slash and the encoded file name are the URL. -/
theorem remote_url_split [CurrentDirectory] {text : String} {url : Url}
    (hparse : Url.parse text.toList = .ok url) (hremote : url.scheme ≠ fileScheme)
    (hauthority : url.authority ≠ []) (hpath : url.path ≠ []) :
    ∃ (folder name : String) (part : Url),
      Gives (Run.pathName? text) (some folder) ∧ Gives (Run.fileName? text) (some name) ∧
      Url.parse folder.toList = .ok part ∧ part.scheme = url.scheme ∧
      part.authority = url.authority ∧ part.query = [] ∧ part.fragment = [] ∧
      '/' ∉ name.toList ∧
      percentDecode part.path ++ '/' :: name.toList = percentDecode url.path ∧
      ((∀ c ∈ (Text.cut ':' text.toList).1, c.isUpper = false) → '?' ∉ text.toList →
        '#' ∉ text.toList → percentEncode (percentDecode url.path) = url.path →
        folder.toList ++ '/' :: percentEncode name.toList = text.toList) := by
  obtain ⟨rest, hrest⟩ := exists_percentDecode_path hparse hauthority hpath
  have hslash : '/' ∈ percentDecode url.path := by
    rw [hrest]
    exact List.mem_cons_self
  have hjoin := leadingComponents_append hslash
  have hfolder : pathNameOf url =
      .ok (write url.scheme url.authority (folderOf url).path) := by
    rw [pathNameOf, if_neg hremote, if_neg hauthority]
    rfl
  have hname : fileNameOf url = .ok (lastComponent (percentDecode url.path)) := by
    rw [fileNameOf, if_neg hremote]
  refine ⟨_, _, folderOf url, gives_pathName hparse hfolder, gives_fileName hparse hname, ?_,
    rfl, rfl, rfl, rfl, ?_, ?_, ?_⟩
  · rw [String.toList_ofList, parse_folderOf hparse hauthority hpath]
  · rw [String.toList_ofList]
    exact not_mem_lastComponent _
  · rw [String.toList_ofList, folderOf, percentDecode_percentEncode, hjoin]
  · intro hlower hquery hfragment hencoded
    rw [String.toList_ofList, String.toList_ofList,
      eq_write_of_parse hparse hauthority hlower hquery hfragment, write, write,
      List.append_assoc, ← percentEncode_slash]
    show _ ++ (percentEncode _ ++ _) = _
    rw [← percentEncode_append, hjoin, hencoded]

/-- The statement for a URL with an encoded blank and an encoded letter beyond
ASCII. -/
theorem remote_url_split_encoded :
    letI : CurrentDirectory := .root
    ∃ folder name : String,
      Gives (Run.pathName? "s3://h:80/a%20b/%C3%A9.tif") (some folder) ∧
      Gives (Run.fileName? "s3://h:80/a%20b/%C3%A9.tif") (some name) ∧ '/' ∉ name.toList ∧
      folder.toList ++ '/' :: percentEncode name.toList = "s3://h:80/a%20b/%C3%A9.tif".toList := by
  let _ : CurrentDirectory := .root
  have hparse : Url.parse "s3://h:80/a%20b/%C3%A9.tif".toList =
      .ok ⟨['s', '3'], "h:80".toList, "/a%20b/%C3%A9.tif".toList, [], [], some 80⟩ := rfl
  have hpath : "/a%20b/%C3%A9.tif".toList = percentEncode "/a b/é.tif".toList := rfl
  have hencoded : percentEncode (percentDecode "/a%20b/%C3%A9.tif".toList) =
      "/a%20b/%C3%A9.tif".toList := by
    rw [hpath, percentDecode_percentEncode]
  have hcut : (Text.cut ':' "s3://h:80/a%20b/%C3%A9.tif".toList).1 = ['s', '3'] := rfl
  have hlower : ∀ c ∈ (Text.cut ':' "s3://h:80/a%20b/%C3%A9.tif".toList).1,
      c.isUpper = false := by
    rw [hcut]
    simp
  obtain ⟨folder, name, part, hfolder, hname, -, -, -, -, -, hslash, -, hwhole⟩ :=
    remote_url_split hparse (by decide) (by decide) (by decide)
  exact ⟨folder, name, hfolder, hname, hslash,
    hwhole hlower (by decide) (by decide) hencoded⟩

end Location

end ImageSelect
