import Mathlib.Tactic.Tauto
import ImageSelect.Proofs.Location.Access
import ImageSelect.Proofs.Selection.FilterMap
import ImageSelect.Proofs.Url.Fault

/-!
# Names that a URL does not have

A URL has no name if a fault can be seen in its text, or if it is a `file` URL of another machine.
A URL of another scheme has no path name if it has no authority.  In all other cases it has both
names (`names_missing_exactly`).

A missing name is an answer like any other.  So a selection goes through all candidates, whatever
their URLs; only a number that cannot be written breaks it off.
-/

namespace ImageSelect

open ImageSelect.Location (fileScheme)

/-! ## Causes -/

/-- A fault can be seen in the text of a URL. -/
def IsMalformed (text : String) : Prop :=
  ∃ why : Url.Fault, why.Found text.toList

/-- A `file` URL has the authority of another machine. -/
def IsRemoteFile (text : String) : Prop :=
  ∃ url, Url.parse text.toList = .ok url ∧ url.scheme = fileScheme ∧
    url.authority ≠ [] ∧ url.authority ≠ "localhost".toList

/-- A URL that is no `file` URL has no authority to rebuild another one from. -/
def IsUnrooted (text : String) : Prop :=
  ∃ url, Url.parse text.toList = .ok url ∧ url.scheme ≠ fileScheme ∧ url.authority = []

theorem Location.isLocal_eq_false_iff {authority : List Char} :
    isLocal authority = false ↔ authority ≠ [] ∧ authority ≠ "localhost".toList := by
  rw [isLocal, Bool.or_eq_false_iff, decide_eq_false_iff_not, decide_eq_false_iff_not]

section

variable [CurrentDirectory]

namespace Naming

/-- The name of a URL in its parts. -/
def ofUrl : Naming → Url → Except NameError (List Char)
  | .file => Location.fileNameOf
  | .path => Location.pathNameOf

variable {n : Naming} {text : String}

/-- A text that is no URL has no names. -/
theorem derive_of_parse_error {why : Url.Fault} (h : Url.parse text.toList = .error why) :
    n.derive text = .error (.malformed why) := by
  have hparts : Location.parseUrl text = .error (.malformed why) := by
    rw [Location.parseUrl, h]
    rfl
  cases n with
  | file =>
    rw [derive, Location.fileName, hparts]
    rfl
  | path =>
    rw [derive, Location.pathName, hparts]
    rfl

/-- The names of a text that is a URL are those of its parts. -/
theorem derive_of_parse_ok {url : Url} (h : Url.parse text.toList = .ok url) :
    n.derive text = (n.ofUrl url).map String.ofList := by
  have hparts : Location.parseUrl text = .ok url := by
    rw [Location.parseUrl, h]
    rfl
  cases n with
  | file =>
    rw [derive, Location.fileName, hparts]
    rfl
  | path =>
    rw [derive, Location.pathName, hparts]
    rfl

theorem exists_ofUrl_error_iff {url : Url} :
    (∃ e, n.ofUrl url = .error e) ↔
      (url.scheme = fileScheme ∧ url.authority ≠ [] ∧ url.authority ≠ "localhost".toList) ∨
        (n = .path ∧ url.scheme ≠ fileScheme ∧ url.authority = []) := by
  rw [← Location.isLocal_eq_false_iff]
  by_cases hscheme : url.scheme = fileScheme
  · have hname : (∃ e, n.ofUrl url = .error e) ↔ ∃ e, Location.localPath url = .error e := by
      cases n with
      | file => simp only [ofUrl, Location.fileNameOf, if_pos hscheme, Except.map_eq_error_iff]
      | path => simp only [ofUrl, Location.pathNameOf, if_pos hscheme, Except.map_eq_error_iff]
    rw [hname, Location.localPath]
    cases Location.isLocal url.authority with
    | true => simp [hscheme]
    | false => simp [hscheme]
  · cases n with
    | file => simp [ofUrl, Location.fileNameOf, hscheme]
    | path =>
      by_cases hauthority : url.authority = []
      · simp [ofUrl, Location.pathNameOf, hscheme, hauthority]
      · simp [ofUrl, Location.pathNameOf, hscheme, hauthority]

/-- A URL has no name of a kind exactly if there is a cause. -/
theorem exists_derive_error_iff :
    (∃ e, n.derive text = .error e) ↔
      IsMalformed text ∨ IsRemoteFile text ∨ n = .path ∧ IsUnrooted text := by
  cases hparse : Url.parse text.toList with
  | error why =>
    have hmalformed : IsMalformed text := ⟨why, Url.Fault.found_of_parse hparse⟩
    exact iff_of_true ⟨_, derive_of_parse_error hparse⟩ (.inl hmalformed)
  | ok url =>
    have hsound : ¬IsMalformed text := fun h => by
      obtain ⟨why, hfound⟩ := h
      exact hfound.parse_ne_ok url hparse
    rw [derive_of_parse_ok hparse]
    simp only [Except.map_eq_error_iff, exists_ofUrl_error_iff, IsRemoteFile, IsUnrooted, hparse,
      Except.ok.injEq, exists_eq_left', hsound, false_or]

theorem toOption_derive_eq_none_iff :
    (n.derive text).toOption = none ↔
      IsMalformed text ∨ IsRemoteFile text ∨ n = .path ∧ IsUnrooted text := by
  rw [← exists_derive_error_iff]
  cases n.derive text <;> simp [Except.toOption]

end Naming

/-! ## Names and selections -/

/-- Which names are missing.  From every sound session a request for a name gives the name or none.
The file name is missing exactly if the text is refused as a URL, that is, if a fault can be seen
in it, or if it is a `file` URL of another machine.  The path name is missing in the same cases,
and if a URL of another scheme has no authority; so what has a path name has a file name.  A
selection whose expression compiles, with an extractor for its candidates, comes to one end from
every sound session: it goes through all candidates, whatever their URLs, or there is one that
cannot be shown, and a number that cannot be written breaks it off. -/
theorem names_missing_exactly :
    (∀ text : String,
      (IsMalformed text ↔ ∃ why, Url.parse text.toList = .error why) ∧
      ∃ file? path? : Option String,
        Gives (Run.fileName? text) file? ∧ Gives (Run.pathName? text) path? ∧
        (file? = none ↔ IsMalformed text ∨ IsRemoteFile text) ∧
        (path? = none ↔ IsMalformed text ∨ IsRemoteFile text ∨ IsUnrooted text) ∧
        (path? ≠ none → file? ≠ none)) ∧
    ∀ (expression : String) (extractor : Option Extractor) (type : ValueType) (f : Filter),
      (type = .plane ∨ type = .file ∨ type = .location) →
      (∀ e, extractor = some e → ∀ v : Value, v.isA type = true → e.reads v = true) →
      (Filter.ofText expression type
        (some (extractor.getD (.forType type .shared)))).alone = .ok f →
      ∀ (candidates : List Value) (supply : Supply), List.Forall₂ Gives supply candidates →
      ∃ r : Except SelectError Selection,
        (∀ s : Session, s.Sound →
          ((select expression candidates extractor type).run.run s).1 = r ∧
            ((selectFrom expression supply extractor type).run.run s).1 = r) ∧
        ((∃ selection, r = .ok selection ∧ selection.seen = candidates.length) ∨
          (∃ v ∈ candidates, ¬v.Showable) ∧ ∃ why, why.IsTooLong ∧ r = .error why) := by
  refine ⟨fun text => ⟨Url.exists_parse_error_iff.symm, _, _, Naming.gives_request .file text,
    Naming.gives_request .path text, ?file, ?path, ?both⟩, ?selections⟩
  case file => simp [Naming.toOption_derive_eq_none_iff]
  case path => simp [Naming.toOption_derive_eq_none_iff]
  case both =>
    rw [ne_eq, ne_eq, Naming.toOption_derive_eq_none_iff, Naming.toOption_derive_eq_none_iff]
    tauto
  case selections =>
    intro expression extractor type f htype hreads hfilter candidates supply hsupply
    obtain ⟨t, hcompile, rfl⟩ := Filter.ofText_alone_eq_ok_iff.1 hfilter
    refine ⟨_, fun s hs => ⟨(answers_select hcompile candidates).result_eq hs,
      (answers_selectFrom hcompile hsupply).result_eq hs⟩, ?_⟩
    exact (Selection.ofList_cases hcompile (Extractor.reads_getD htype hreads) candidates).imp_left
      fun hlist => ⟨_, hlist, rfl⟩

end

/-- The statement for a selection by path name among planes whose URLs have a blank, the authority
of another machine, or no authority. -/
theorem names_missing_exactly_blank :
    letI : CurrentDirectory := .root
    IsMalformed "http://a b/c.tif" ∧
    Gives (Run.fileName? "http://a b/c.tif") none ∧
    ∃ selection : Selection,
      ((select "not directory contain \"a\"" (["http://a b/c.tif", "file://host/a.tif",
        "omero:iid=1"].map fun url => .plane { file := { url } }) none .plane).run.run {}).1 =
        .ok selection ∧ selection.seen = 3 := by
  let _ : CurrentDirectory := .root
  obtain ⟨hnames, hselect⟩ := names_missing_exactly
  have hmalformed : IsMalformed "http://a b/c.tif" :=
    ⟨.illegalCharacter, .blank (List.mem_of_getElem? (i := 8) rfl) rfl⟩
  obtain ⟨-, file?, -, hfile, -, hnone, -⟩ := hnames "http://a b/c.tif"
  rw [hnone.2 (.inl hmalformed)] at hfile
  let l : Filter.LiteralTest := ⟨.contain, "a", none, rfl⟩
  have hcompile : Filter.compileText (some (.forType .plane .shared)) .plane
      "not directory contain \"a\"" =
      .ok (.branch (.connective .not .plane) [.branch (.feature .directory) [.leaf l]]) :=
    Filter.compileText_eq_ok_iff.2 ⟨[⟨.symbol "not" none, 0⟩, ⟨.symbol "directory" none, 4⟩,
      ⟨.symbol "contain" none, 14⟩, ⟨.literal "a", 22⟩], by decide +kernel,
      by with_unfolding_all rfl⟩
  obtain ⟨r, hrun, hr⟩ := hselect _ none .plane _ (.inl rfl) (by simp)
    (Filter.ofText_alone_eq_ok_iff.2 ⟨_, hcompile, rfl⟩)
    (["http://a b/c.tif", "file://host/a.tif", "omero:iid=1"].map fun url =>
      .plane { file := { url } }) _ (.cons (.pure _) (.cons (.pure _) (.cons (.pure _) .nil)))
  refine ⟨hmalformed, hfile, ?_⟩
  rcases hr with ⟨selection, rfl, hseen⟩ | ⟨⟨v, hv, hnot⟩, -⟩
  · exact ⟨selection, (hrun {} Session.sound_empty).1, hseen⟩
  · obtain ⟨url, -, rfl⟩ := List.mem_map.1 hv
    have hzero : Text.Writable 0 := by decide
    exact absurd ((Value.showable_plane_iff _).2 ⟨hzero, hzero⟩) hnot

end ImageSelect
