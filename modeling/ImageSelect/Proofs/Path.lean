import Mathlib.Data.List.Infix
import ImageSelect.Path
import ImageSelect.Proofs.Text.Split

/-!
# Absolute paths and their texts

An absolute path starts at a root and has names that mean themselves: none is
empty, a dot or a double dot, and none holds a slash.  `Path.Normal` says so.

* `absoluteIn_normal`: the absolute form of any text in any directory is normal.
  The step is one name pushed on those before it, and the run is the fold over
  all names.
* `Normal.ofChars_toChars`: the text of a normal path is read as that path, so
  two normal paths with the same text are the same.
* `rootChars_absolute_ofChars`: where the absolute form of a text starts.
* `Normal.cutLast_toChars`, `Normal.joinChars_parent`: the last name of a
  normal path is what stands behind the last slash of its text, and the path
  without it, joined with it, is the path again.
-/

namespace ImageSelect.Path

/-! ## Names -/

/-- A name that is a piece between slashes. -/
def IsProper (name : List Char) : Prop :=
  isName name = true ∧ '/' ∉ name

theorem IsProper.exists_cons {name : List Char} (h : IsProper name) :
    ∃ c rest, name = c :: rest ∧ c ≠ '/' := by
  cases name with
  | nil => exact absurd h.1 (by decide)
  | cons c rest => exact ⟨c, rest, rfl, fun hc => h.2 (hc ▸ List.mem_cons_self)⟩

theorem isProper_of_mem_ofChars {text name : List Char} (h : name ∈ (ofChars text).names) :
    IsProper name := by
  obtain ⟨hpiece, hname⟩ := List.mem_filter.1 h
  exact ⟨hname, Text.not_mem_of_mem_pieces hpiece⟩

/-- A path that starts at a root, with names that mean themselves. -/
structure Normal (path : Path) : Prop where
  rooted : path.root ≠ .relative
  proper : ∀ name ∈ path.names, IsProper name
  resolved : ∀ name ∈ path.names, name ≠ ['.', '.']

/-! ## Resolving -/

/-- Names that have been resolved stay so when another one is pushed on them. -/
theorem mem_push {names : List (List Char)} {name other : List Char}
    (h : other ∈ push names name) : other ∈ names ∨ other = name ∧ other ≠ ['.', '.'] := by
  unfold push at h
  split at h
  · exact .inl (List.mem_of_mem_drop h)
  · rename_i hne
    rcases List.mem_cons.1 h with rfl | h
    · exact .inr ⟨rfl, hne⟩
    · exact .inl h

theorem mem_foldl_push {names : List (List Char)} {other : List Char} :
    ∀ before : List (List Char), other ∈ names.foldl push before →
      other ∈ before ∨ other ∈ names ∧ other ≠ ['.', '.'] := by
  induction names with
  | nil => exact fun before h => .inl h
  | cons name names ih =>
    intro before h
    rcases ih _ h with h | ⟨h, hne⟩
    · rcases mem_push h with h | ⟨rfl, hne⟩
      · exact .inl h
      · exact .inr ⟨List.mem_cons_self, hne⟩
    · exact .inr ⟨List.mem_cons_of_mem _ h, hne⟩

theorem mem_absolute {path : Path} {name : List Char} (h : name ∈ path.absolute.names) :
    name ∈ path.names ∧ name ≠ ['.', '.'] := by
  rcases mem_foldl_push [] (List.mem_reverse.1 h) with h | h
  · exact absurd h List.not_mem_nil
  · exact h

theorem normal_absolute {path : Path} (h : ∀ name ∈ path.names, IsProper name) :
    path.absolute.Normal where
  rooted := by
    unfold absolute
    cases path.root <;> exact fun h => by cases h
  proper := fun name hname => h name (mem_absolute hname).1
  resolved := fun _ hname => (mem_absolute hname).2

theorem isProper_of_mem_within {directory path : Path}
    (hdirectory : ∀ name ∈ directory.names, IsProper name)
    (hpath : ∀ name ∈ path.names, IsProper name) :
    ∀ name ∈ (directory.within path).names, IsProper name := by
  intro name h
  unfold within at h
  split at h
  · rcases List.mem_append.1 h with h | h
    · exact hdirectory name h
    · exact hpath name h
  · exact hpath name h

/-- The absolute form of a text in a directory is normal. -/
theorem absoluteIn_normal (directory text : List Char) : (absoluteIn directory text).Normal :=
  normal_absolute (isProper_of_mem_within (fun _ => isProper_of_mem_ofChars)
    fun _ => isProper_of_mem_ofChars)

theorem normal_resolved_ofChars [CurrentDirectory] (text : List Char) :
    (ofChars text).resolved.Normal :=
  absoluteIn_normal _ text

theorem foldl_push {names : List (List Char)} (h : ∀ name ∈ names, name ≠ ['.', '.']) :
    ∀ before : List (List Char), names.foldl push before = names.reverse ++ before := by
  induction names with
  | nil => exact fun before => rfl
  | cons name names ih =>
    intro before
    obtain ⟨hname, hnames⟩ := List.forall_mem_cons.1 h
    rw [List.foldl_cons, push, if_neg hname, ih hnames, List.reverse_cons, List.append_assoc,
      List.singleton_append]

/-- A normal path has nothing left to resolve. -/
theorem Normal.absolute_eq {path : Path} (h : path.Normal) : path.absolute = path := by
  obtain ⟨root, names⟩ := path
  have hnames : names.foldl push [] = names.reverse := by
    rw [foldl_push h.resolved, List.append_nil]
  cases root with
  | relative => exact absurd rfl h.rooted
  | slash => rw [absolute, hnames, List.reverse_reverse]
  | doubleSlash => rw [absolute, hnames, List.reverse_reverse]

/-- A normal path is the same in every directory. -/
theorem Normal.resolved_eq [CurrentDirectory] {path : Path} (h : path.Normal) :
    path.resolved = path := by
  have hwithin : ∀ directory : Path, directory.within path = path := by
    intro directory
    rw [within]
    split
    · rename_i hroot
      exact absurd hroot h.rooted
    · rfl
  rw [Path.resolved, hwithin, h.absolute_eq]

/-- A path keeps its last name when it is resolved, unless that takes another one back. -/
theorem fileName_absolute {path : Path} (h : path.names.getLast? ≠ some ['.', '.']) :
    path.absolute.fileName = path.fileName := by
  rcases List.eq_nil_or_concat path.names with hnil | ⟨before, name, hconcat⟩
  · simp [absolute, fileName, hnil]
  · rw [List.concat_eq_append] at hconcat
    have hname : name ≠ ['.', '.'] := by
      rintro rfl
      exact h (by rw [hconcat, List.getLast?_concat])
    have hnames : path.absolute.names = (before.foldl push []).reverse ++ [name] := by
      rw [absolute, hconcat, List.foldl_append, List.foldl_cons, List.foldl_nil, push,
        if_neg hname, List.reverse_cons]
    rw [fileName, fileName, hnames, hconcat, List.getLast?_concat, List.getLast?_concat]

theorem Normal.parent {path : Path} (h : path.Normal) : path.parent.Normal where
  rooted := h.rooted
  proper := fun name hname => h.proper name (List.mem_of_mem_dropLast hname)
  resolved := fun name hname => h.resolved name (List.mem_of_mem_dropLast hname)

/-! ## Texts -/

section
variable {names : List (List Char)}

/-- Names that are joined are found again. -/
theorem filter_pieces_join (h : ∀ name ∈ names, IsProper name) :
    (Text.pieces '/' (Text.join '/' names)).filter isName = names := by
  cases names with
  | nil => rfl
  | cons name more =>
    rw [Text.pieces_join (List.cons_ne_nil _ _) fun name hname => (h name hname).2]
    exact List.filter_eq_self.2 fun name hname => (h name hname).1

/-- What joins names does not start with a slash. -/
theorem head?_join (h : ∀ name ∈ names, IsProper name) :
    (Text.join '/' names).head? ≠ some '/' := by
  cases names with
  | nil => exact fun h => by cases h
  | cons name more =>
    obtain ⟨c, rest, rfl, hc⟩ := (h name List.mem_cons_self).exists_cons
    rw [Text.join_cons_eq]
    exact fun h => hc (Option.some.inj h)

/-- What joins names does not end with a slash. -/
theorem getLast?_join (h : ∀ name ∈ names, IsProper name) :
    (Text.join '/' names).getLast? ≠ some '/' := by
  rcases List.eq_nil_or_concat names with rfl | ⟨before, name, rfl⟩
  · exact fun h => by cases h
  · rw [List.concat_eq_append] at h ⊢
    have hname := h name (by simp)
    have hlast : name.getLast? ≠ some '/' := fun hl => hname.2 (List.mem_of_getLast? hl)
    obtain ⟨c, rest, rfl, -⟩ := hname.exists_cons
    by_cases hbefore : before = []
    · subst hbefore
      rwa [List.nil_append, Text.join]
    · rw [Text.join_concat hbefore, List.getLast?_append_of_ne_nil _ (List.cons_ne_nil _ _),
        List.getLast?_cons_cons]
      exact hlast

end

theorem rootOf_rootChars {root : PathRoot} (h : root ≠ .relative) {text : List Char}
    (htext : text.head? ≠ some '/') : rootOf (rootChars root ++ text) = root := by
  cases root with
  | relative => exact absurd rfl h
  | slash =>
    cases text with
    | nil => rfl
    | cons c rest => simp_all [rootChars, rootOf]
  | doubleSlash =>
    cases text with
    | nil => rfl
    | cons c rest => simp_all [rootChars, rootOf]

theorem filter_pieces_rootChars (root : PathRoot) (text : List Char) :
    (Text.pieces '/' (rootChars root ++ text)).filter isName =
      (Text.pieces '/' text).filter isName := by
  cases root <;> rfl

/-- The text of a path that starts at a root. -/
theorem Normal.toChars_eq {path : Path} (h : path.Normal) :
    path.toChars = rootChars path.root ++ Text.join '/' path.names := by
  obtain ⟨root, names⟩ := path
  cases root with
  | relative => exact absurd rfl h.rooted
  | slash => rfl
  | doubleSlash => rfl

/-- The text of a normal path is read as the path. -/
theorem Normal.ofChars_toChars {path : Path} (h : path.Normal) : ofChars path.toChars = path := by
  rw [h.toChars_eq, ofChars, rootOf_rootChars h.rooted (head?_join h.proper),
    filter_pieces_rootChars, filter_pieces_join h.proper]

/-- Normal paths are the same if their texts are. -/
theorem Normal.toChars_inj {path other : Path} (h : path.Normal) (h' : other.Normal) :
    path.toChars = other.toChars ↔ path = other := by
  constructor
  · intro heq
    rw [← h.ofChars_toChars, heq, h'.ofChars_toChars]
  · exact congrArg toChars

/-- The text of a normal path starts with a slash. -/
theorem Normal.head?_toChars {path : Path} (h : path.Normal) {c : Char}
    (hc : path.toChars.head? = some c) : c = '/' := by
  rw [h.toChars_eq] at hc
  obtain ⟨root, names⟩ := path
  cases root with
  | relative => exact absurd rfl h.rooted
  | slash => exact (Option.some.inj hc).symm
  | doubleSlash => exact (Option.some.inj hc).symm

theorem Normal.toChars_ne_nil {path : Path} (h : path.Normal) : path.toChars ≠ [] := by
  rw [h.toChars_eq]
  obtain ⟨root, names⟩ := path
  cases root with
  | relative => exact absurd rfl h.rooted
  | slash => exact List.cons_ne_nil _ _
  | doubleSlash => exact List.cons_ne_nil _ _

/-- A normal path without names is a root. -/
theorem Normal.names_eq_nil_iff {path : Path} (h : path.Normal) :
    path.names = [] ↔ path.toChars = ['/'] ∨ path.toChars = ['/', '/'] := by
  constructor
  · intro hnames
    rw [h.toChars_eq, hnames]
    obtain ⟨root, names⟩ := path
    cases root with
    | relative => exact absurd rfl h.rooted
    | slash => exact .inl rfl
    | doubleSlash => exact .inr rfl
  · intro htext
    rw [← h.ofChars_toChars]
    rcases htext with htext | htext <;> rw [htext] <;> rfl

/-! ## Roots -/

/-- In the root of all files a path is read as it stands. -/
theorem absolute_within_slash (path : Path) :
    ((ofChars ['/']).within path).absolute = path.absolute := by
  have hslash : ofChars ['/'] = ⟨.slash, []⟩ := rfl
  rw [hslash]
  obtain ⟨root, names⟩ := path
  cases root <;> rfl

theorem takeWhile_slash_of_ne {text : List Char} (h : ∀ rest, text ≠ '/' :: rest) :
    text.takeWhile (· = '/') = [] := by
  cases text with
  | nil => rfl
  | cons c rest =>
    refine List.takeWhile_cons_of_neg fun hc => h rest ?_
    rw [of_decide_eq_true hc]

/-- Exactly two slashes at the start are a root of their own. -/
theorem rootOf_eq_doubleSlash_iff (text : List Char) :
    rootOf text = .doubleSlash ↔ (text.takeWhile (· = '/')).length = 2 := by
  unfold rootOf
  split
  · simp
  · rename_i rest hthird
    simp [takeWhile_slash_of_ne hthird]
  · rename_i rest _ hsecond
    simp [takeWhile_slash_of_ne hsecond]
  · rename_i hfirst
    simp [takeWhile_slash_of_ne hfirst]

theorem rootChars_absolute (path : Path) :
    rootChars path.absolute.root = if path.root = .doubleSlash then ['/', '/'] else ['/'] := by
  obtain ⟨root, names⟩ := path
  cases root <;> rfl

/-- An absolute path starts with one slash, or with two if there were exactly two. -/
theorem rootChars_absolute_ofChars (text : List Char) :
    rootChars (ofChars text).absolute.root =
      if (text.takeWhile (· = '/')).length = 2 then ['/', '/'] else ['/'] := by
  simp only [rootChars_absolute, ← rootOf_eq_doubleSlash_iff]
  rfl

theorem Normal.names_eq_nil_iff_rootChars {path : Path} (h : path.Normal) :
    path.names = [] ↔ path.toChars = rootChars path.root := by
  rw [h.toChars_eq]
  constructor
  · intro hnames
    rw [hnames, Text.join, List.append_nil]
  · intro htext
    have hjoin : Text.join '/' path.names = [] := List.append_right_eq_self.1 htext
    have hpieces := filter_pieces_join h.proper
    rw [hjoin] at hpieces
    exact hpieces.symm

/-! ## The last name -/

/-- The text of a path that is followed from a text of another: a rooted one
counts alone, and no slash is doubled. -/
def joinChars (base text : List Char) : List Char :=
  if text.head? = some '/' then text
  else if base = [] ∨ base.getLast? = some '/' then base ++ text
  else base ++ '/' :: text

theorem joinChars_of_getLast? {base text : List Char} (htext : text.head? ≠ some '/')
    (hbase : base.getLast? = some '/') : joinChars base text = base ++ text := by
  rw [joinChars, if_neg htext, if_pos (.inr hbase)]

theorem joinChars_of_ne {base text : List Char} (htext : text.head? ≠ some '/')
    (hne : base ≠ []) (hbase : base.getLast? ≠ some '/') :
    joinChars base text = base ++ '/' :: text := by
  rw [joinChars, if_neg htext, if_neg (not_or.2 ⟨hne, hbase⟩)]

theorem root_parent (path : Path) : path.parent.root = path.root :=
  rfl

theorem exists_rootChars {root : PathRoot} (h : root ≠ .relative) :
    ∃ base, rootChars root = base ++ ['/'] := by
  cases root with
  | relative => exact absurd rfl h
  | slash => exact ⟨[], rfl⟩
  | doubleSlash => exact ⟨['/'], rfl⟩

/-- A normal path is a root, or it has a last name. -/
theorem Normal.cases_names {path : Path} (h : path.Normal) :
    path.names = [] ∧ path.fileName = [] ∧ path.parent.names = [] ∨
      IsProper path.fileName ∧ path.names = path.parent.names ++ [path.fileName] := by
  rcases List.eq_nil_or_concat path.names with hnil | ⟨before, name, hconcat⟩
  · left
    simp [fileName, Path.parent, hnil]
  · right
    rw [List.concat_eq_append] at hconcat
    have hname : path.fileName = name := by simp [fileName, hconcat]
    have hparent : path.parent.names = before := by simp [Path.parent, hconcat]
    rw [hname, hparent]
    exact ⟨h.proper name (by rw [hconcat]; simp), hconcat⟩

/-- Only a root has no last name. -/
theorem Normal.fileName_eq_nil_iff {path : Path} (h : path.Normal) :
    path.fileName = [] ↔ path.names = [] := by
  rcases h.cases_names with ⟨hnames, hfile, -⟩ | ⟨hproper, hnames⟩
  · exact iff_of_true hfile hnames
  · obtain ⟨c, rest, hcons, -⟩ := hproper.exists_cons
    refine iff_of_false ?_ ?_
    · rw [hcons]
      exact List.cons_ne_nil _ _
    · rw [hnames]
      simp

theorem Normal.not_mem_fileName {path : Path} (h : path.Normal) : '/' ∉ path.fileName := by
  rcases h.cases_names with ⟨-, hfile, -⟩ | ⟨hproper, -⟩
  · rw [hfile]
    exact List.not_mem_nil
  · exact hproper.2

/-- The text of a normal path ends with a slash and its last name. -/
theorem Normal.exists_toChars_eq {path : Path} (h : path.Normal) :
    ∃ base, path.toChars = base ++ '/' :: path.fileName := by
  obtain ⟨base, hroot⟩ := exists_rootChars h.rooted
  rw [h.toChars_eq]
  rcases h.cases_names with ⟨hnames, hfile, -⟩ | ⟨-, hnames⟩
  · exact ⟨base, by rw [hnames, hfile, hroot, Text.join, List.append_nil]⟩
  · by_cases hbefore : path.parent.names = []
    · refine ⟨base, ?_⟩
      rw [hnames, hbefore, hroot, List.nil_append, Text.join, List.append_assoc,
        List.singleton_append]
    · refine ⟨rootChars path.root ++ Text.join '/' path.parent.names, ?_⟩
      rw [hnames, Text.join_concat hbefore, List.append_assoc]

/-- The last name of a normal path stands behind the last slash of its text. -/
theorem Normal.cutLast_toChars {path : Path} (h : path.Normal) :
    (Text.cutLast '/' path.toChars).2 = path.fileName := by
  obtain ⟨base, hbase⟩ := h.exists_toChars_eq
  rw [hbase, Text.cutLast_append h.not_mem_fileName]

/-- A normal path without its last name, joined with it, is the path. -/
theorem Normal.joinChars_parent {path : Path} (h : path.Normal) :
    joinChars path.parent.toChars path.fileName = path.toChars := by
  obtain ⟨base, hroot⟩ := exists_rootChars h.rooted
  have hlast : (rootChars path.root).getLast? = some '/' := by rw [hroot]; simp
  have hhead : path.fileName.head? ≠ some '/' := fun hslash =>
    h.not_mem_fileName (List.mem_of_mem_head? hslash)
  rw [h.parent.toChars_eq, h.toChars_eq, root_parent]
  rcases h.cases_names with ⟨hnames, hfile, hparent⟩ | ⟨-, hnames⟩
  · rw [hparent, hnames, Text.join, List.append_nil, joinChars_of_getLast? hhead hlast, hfile,
      List.append_nil]
  · by_cases hbefore : path.parent.names = []
    · rw [hbefore] at hnames ⊢
      rw [hnames, Text.join, List.append_nil, joinChars_of_getLast? hhead hlast,
        List.nil_append, Text.join]
    · -- The parent's text ends with a name, so a slash comes between.
      have hne : Text.join '/' path.parent.names ≠ [] := by
        obtain ⟨name, more, hcons⟩ := List.exists_cons_of_ne_nil hbefore
        obtain ⟨c, rest, hname, -⟩ := (h.parent.proper name (by rw [hcons]; simp)).exists_cons
        rw [hcons, hname, Text.join_cons_eq]
        exact List.cons_ne_nil _ _
      have hend : (rootChars path.root ++ Text.join '/' path.parent.names).getLast? ≠ some '/' := by
        rw [List.getLast?_append_of_ne_nil _ hne]
        exact getLast?_join h.parent.proper
      rw [joinChars_of_ne hhead (List.append_ne_nil_of_right_ne_nil _ hne) hend, hnames,
        Text.join_concat hbefore, List.append_assoc]

end ImageSelect.Path
