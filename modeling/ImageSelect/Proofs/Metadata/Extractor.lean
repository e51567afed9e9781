import ImageSelect.Metadata.Extractor
import ImageSelect.Proofs.Session
import ImageSelect.Proofs.Value

/-!
# Rows of extractors

What an extractor comes to on a value does not depend on the session: a row, or
a number that cannot be written.  `Extractor.row?` is what it comes to in a new
session, and `Extractor.answers_row?` says that it comes to this in every sound
one.  A value that can be shown has a row, `Extractor.rowOf`.  No probe runs
meanwhile, says `Extractor.quiet_extract`.
-/

namespace ImageSelect.Extractor

/-! ## Numbers -/

/-- The text of a number in a row; empty if there is no number. -/
def numberCell : Option Nat → Except Text.WriteError String
  | none => .ok ""
  | some n => Text.writeNumber n

/-- The row of URL, series and frame, if the numbers can be written. -/
def numbersRow (l : Location) : Except Text.WriteError Row := do
  let series ← numberCell l.series?
  let frame ← numberCell l.frame?
  return ⟨[(urlKey, l.url), (seriesKey, series), (frameKey, frame)]⟩

/-! ## Texts -/

variable [CurrentDirectory]

theorem gives_sharingIntern (sharing : Sharing) (text : String) :
    Gives (Sharing.intern sharing text) text := by
  cases sharing with
  | shared => exact gives_intern text
  | own => exact .pure text

/-- The text of a number, whether it is interned or not. -/
theorem answers_numberText (sharing : Sharing) (n? : Option Nat) :
    Answers (numberText sharing n?) (numberCell n?) := by
  unfold numberText
  split
  · exact .pure ""
  · exact .pure "0"
  · rename_i n _
    have htext := (Answers.ofExcept (Text.writeNumber n)).bind
      (f := fun text => (Sharing.intern sharing text : Writing String)) (g := Except.ok)
      fun text _ => .lift (gives_sharingIntern sharing text)
    have heq : (Text.writeNumber n >>= Except.ok) = numberCell (some n) := by
      rw [numberCell]
      cases Text.writeNumber n <;> rfl
    rwa [heq] at htext

/-! ## Rows -/

theorem answers_extractNumbers (sharing : Sharing) (l : Location) :
    Answers (extractNumbers sharing l) (numbersRow l) := by
  unfold extractNumbers numbersRow
  exact (Answers.lift (gives_sharingIntern sharing l.url)).bind_ok
    ((answers_numberText sharing l.series?).bind fun series _ =>
      (answers_numberText sharing l.frame?).bind fun frame _ => .pure _)

theorem gives_extractNames (sharing : Sharing) (l : Location) :
    Gives (extractNames sharing l)
      ⟨[(fileNameKey, (Location.fileName l.url).toOption.getD ""),
        (pathNameKey, (Location.pathName l.url).toOption.getD "")]⟩ := by
  unfold extractNames
  refine (gives_fileName? l.url).bind ((gives_pathName? l.url).bind ?_)
  have hrow := (gives_sharingIntern sharing ((Location.fileName l.url).toOption.getD "")).bind
    (f := fun file => do
      let path ← Sharing.intern sharing ((Location.pathName l.url).toOption.getD "")
      return (⟨[(fileNameKey, file), (pathNameKey, path)]⟩ : Row))
    ((gives_sharingIntern sharing _).bind (.pure _))
  -- A missing name leaves a record and is reported as the empty text.
  dsimp only
  split
  · exact (gives_log _ _ _).bind hrow
  · exact hrow

mutual

/-- An extractor comes to one end on a value, whatever the session. -/
theorem exists_answers_extract : ∀ (e : Extractor) (v : Value), ∃ r, Answers (e.extract v) r
  | .planeNumbers sharing, v => by
    rw [extract]
    cases v.location? with
    | none => exact ⟨_, .pure _⟩
    | some l => exact ⟨_, answers_extractNumbers sharing l⟩
  | .names sharing, v => by
    rw [extract]
    cases v.location? with
    | none => exact ⟨_, .pure _⟩
    | some l => exact ⟨_, .lift (gives_extractNames sharing l)⟩
  | .fixed _ row, _ => ⟨_, .pure row⟩
  | .custom _ row?, v => ⟨_, .pure ((row? v).getD {})⟩
  | .combined members, v => by
    rw [extract]
    exact exists_answers_extractMembers members {} v

theorem exists_answers_extractMembers : ∀ (members : List Extractor) (row : Row) (v : Value),
    ∃ r, Answers (extractMembers members row v) r
  | [], row, _ => ⟨_, .pure row⟩
  | e :: es, row, v => by
    obtain ⟨r, hr⟩ := exists_answers_extract e v
    rw [extractMembers]
    cases r with
    | error why => exact ⟨.error why, hr.bind_error⟩
    | ok more =>
      obtain ⟨r', hr'⟩ := exists_answers_extractMembers es (row.merge more) v
      exact ⟨r', hr.bind_ok hr'⟩

end

omit [CurrentDirectory] in
theorem succeeds_numberText (sharing : Sharing) {n? : Option Nat}
    (h : ∀ n ∈ n?, Text.Writable n) : Succeeds (numberText sharing n?) := by
  unfold numberText
  split
  · exact .pure _
  · exact .pure _
  · rename_i n _
    exact (Succeeds.ofExcept (Text.writeNumber_of_writable (h n rfl))).bind fun _ => .lift _

mutual

/-- An extractor gives a row for a value that can be shown. -/
theorem succeeds_extract : ∀ (e : Extractor) {v : Value}, v.Showable → Succeeds (e.extract v)
  | .planeNumbers sharing, v, h => by
    rw [extract]
    cases hl : v.location? with
    | none => exact .pure _
    | some l =>
      exact (Succeeds.lift _).bind fun _ => (succeeds_numberText sharing (h.series hl)).bind
        fun _ => (succeeds_numberText sharing (h.frame hl)).bind fun _ => .pure _
  | .names sharing, v, _ => by
    rw [extract]
    cases v.location? with
    | none => exact .pure _
    | some l => exact .lift _
  | .fixed _ _, _, _ => .pure _
  | .custom _ _, _, _ => .pure _
  | .combined members, _, h => by
    rw [extract]
    exact succeeds_extractMembers members {} h

theorem succeeds_extractMembers : ∀ (members : List Extractor) (row : Row) {v : Value},
    v.Showable → Succeeds (extractMembers members row v)
  | [], _, _, _ => .pure _
  | e :: es, row, v, h => by
    rw [extractMembers]
    exact (succeeds_extract e h).bind fun more => succeeds_extractMembers es (row.merge more) h

end

/-- What an extractor comes to on a value in a new session. -/
def row? (e : Extractor) (v : Value) : Except Text.WriteError Row :=
  (e.extract v).run.alone

/-- The row of a value in a new session; empty if there is none. -/
def rowOf (e : Extractor) (v : Value) : Row :=
  (e.row? v).toOption.getD {}

/-- An extractor comes to the same on a value in every sound session. -/
theorem answers_row? (e : Extractor) (v : Value) : Answers (e.extract v) (e.row? v) := by
  obtain ⟨r, hr⟩ := exists_answers_extract e v
  rwa [row?, Gives.alone_eq hr]

theorem row?_of_answers {e : Extractor} {v : Value} {r : Except Text.WriteError Row}
    (h : Answers (e.extract v) r) : e.row? v = r :=
  Gives.alone_eq h

theorem rowOf_of_row? {e : Extractor} {v : Value} {row : Row} (h : e.row? v = .ok row) :
    e.rowOf v = row := by
  rw [rowOf, h]
  rfl

/-- A value that can be shown has a row. -/
theorem row?_of_showable {v : Value} (h : v.Showable) (e : Extractor) :
    e.row? v = .ok (e.rowOf v) := by
  obtain ⟨row, hrow⟩ := (succeeds_extract e h).exists_alone
  exact hrow.trans (congrArg Except.ok (rowOf_of_row? hrow).symm)

theorem answers_rowOf {v : Value} (h : v.Showable) (e : Extractor) :
    Answers (e.extract v) (.ok (e.rowOf v)) :=
  row?_of_showable h e ▸ answers_row? e v

/-- The default extractor comes to the same on a value, wherever it interns. -/
theorem row?_plane (sharing sharing' : Sharing) (v : Value) :
    (plane sharing).row? v = (plane sharing').row? v := by
  have hrow : ∃ r, ∀ sharing, Answers ((plane sharing).extract v) r := by
    unfold plane
    simp only [extract, extractMembers]
    cases v.location? with
    | none => exact ⟨_, fun _ => (Answers.pure _).bind_ok ((Answers.pure _).bind_ok (.pure _))⟩
    | some l =>
      exact ⟨_, fun sharing => (answers_extractNumbers sharing l).bind fun _ _ =>
        (Answers.lift (gives_extractNames sharing l)).bind_ok (.pure _)⟩
  obtain ⟨r, hr⟩ := hrow
  exact (row?_of_answers (hr sharing)).trans (row?_of_answers (hr sharing')).symm

/-! ## Rows of files and planes -/

theorem row?_file_eq (sharing : Sharing) (f : ImageFile) :
    (names sharing).row? (.file f) =
      .ok ⟨[(fileNameKey, (Location.fileName f.url).toOption.getD ""),
        (pathNameKey, (Location.pathName f.url).toOption.getD "")]⟩ := by
  refine row?_of_answers ?_
  rw [extract]
  exact .lift (gives_extractNames sharing (.file f))

theorem rowOf_file_eq (sharing : Sharing) (f : ImageFile) :
    (names sharing).rowOf (.file f) =
      ⟨[(fileNameKey, (Location.fileName f.url).toOption.getD ""),
        (pathNameKey, (Location.pathName f.url).toOption.getD "")]⟩ :=
  rowOf_of_row? (row?_file_eq sharing f)

/-- The row of a plane, if its numbers can be written. -/
theorem row?_plane_eq (sharing : Sharing) (p : Plane) :
    (plane sharing).row? (.plane p) = (do
      let series ← Text.writeNumber p.series
      let frame ← Text.writeNumber p.frame
      return ⟨[(urlKey, p.file.url), (seriesKey, series), (frameKey, frame),
        (fileNameKey, (Location.fileName p.file.url).toOption.getD ""),
        (pathNameKey, (Location.pathName p.file.url).toOption.getD "")]⟩) := by
  have hnames := Answers.lift (ε := Text.WriteError) (gives_extractNames sharing (.plane p))
  have hanswers : Answers ((plane sharing).extract (.plane p)) (do
      let numbers ← numbersRow (.plane p)
      return (Row.merge {} numbers).merge
        ⟨[(fileNameKey, (Location.fileName p.file.url).toOption.getD ""),
          (pathNameKey, (Location.pathName p.file.url).toOption.getD "")]⟩) := by
    unfold plane
    simp only [extract, extractMembers]
    exact (answers_extractNumbers sharing (.plane p)).bind fun _ _ => hnames.bind_ok (.pure _)
  have hnumbers : numbersRow (.plane p) = (do
      let series ← Text.writeNumber p.series
      let frame ← Text.writeNumber p.frame
      return ⟨[(urlKey, p.file.url), (seriesKey, series), (frameKey, frame)]⟩) := rfl
  rw [row?_of_answers hanswers, hnumbers]
  cases Text.writeNumber p.series with
  | error why => rfl
  | ok series => cases Text.writeNumber p.frame <;> rfl

theorem rowOf_plane_eq {p : Plane} (h : (Value.plane p).Showable) (sharing : Sharing) :
    (plane sharing).rowOf (.plane p) =
      ⟨[(urlKey, p.file.url), (seriesKey, toString p.series), (frameKey, toString p.frame),
        (fileNameKey, (Location.fileName p.file.url).toOption.getD ""),
        (pathNameKey, (Location.pathName p.file.url).toOption.getD "")]⟩ := by
  obtain ⟨hseries, hframe⟩ := (Value.showable_plane_iff p).1 h
  refine rowOf_of_row? ?_
  rw [row?_plane_eq, Text.writeNumber_of_writable hseries, Text.writeNumber_of_writable hframe]
  rfl

/-- A plane that cannot be shown has no row. -/
theorem row?_plane_of_not_showable {p : Plane} (h : ¬(Value.plane p).Showable)
    (sharing : Sharing) : (plane sharing).row? (.plane p) = .error .tooLong := by
  rw [row?_plane_eq]
  by_cases hseries : Text.Writable p.series
  · have hframe : ¬Text.Writable p.frame := fun hframe =>
      h ((Value.showable_plane_iff p).2 ⟨hseries, hframe⟩)
    rw [Text.writeNumber_of_writable hseries, Text.writeNumber_of_not_writable hframe]
    rfl
  · rw [Text.writeNumber_of_not_writable hseries]
    rfl

/-! ## Probes -/

omit [CurrentDirectory] in
theorem quiet_sharingIntern (sharing : Sharing) (text : String) :
    Quiet (Sharing.intern sharing text) := by
  cases sharing with
  | shared => exact quiet_intern text
  | own => exact .pure text

omit [CurrentDirectory] in
theorem quiet_numberText (sharing : Sharing) (n? : Option Nat) :
    Quiet (numberText sharing n?).run := by
  unfold numberText
  split
  · exact .pure _
  · exact .pure _
  · exact (Quiet.run_ofExcept _).run_bind fun text => (quiet_sharingIntern sharing text).run_lift

omit [CurrentDirectory] in
theorem quiet_extractNumbers (sharing : Sharing) (l : Location) :
    Quiet (extractNumbers sharing l).run :=
  (quiet_sharingIntern sharing _).run_lift.run_bind fun _ =>
    (quiet_numberText sharing _).run_bind fun _ =>
      (quiet_numberText sharing _).run_bind fun _ => .pure _

theorem quiet_extractNames (sharing : Sharing) (l : Location) :
    Quiet (extractNames sharing l) := by
  unfold extractNames
  refine (quiet_fileName? _).bind fun file => (quiet_pathName? _).bind fun path => ?_
  have hrow : Quiet (do
      let file ← Sharing.intern sharing (file.getD "")
      let path ← Sharing.intern sharing (path.getD "")
      return (⟨[(fileNameKey, file), (pathNameKey, path)]⟩ : Row)) :=
    (quiet_sharingIntern sharing _).bind fun _ =>
      (quiet_sharingIntern sharing _).bind fun _ => .pure _
  dsimp only
  split
  · exact (quiet_log _ _ _).bind fun _ => hrow
  · exact hrow

mutual

theorem quiet_extract : ∀ (e : Extractor) (v : Value), Quiet (e.extract v).run
  | .planeNumbers sharing, v => by
    rw [extract]
    cases v.location? with
    | none => exact .pure _
    | some l => exact quiet_extractNumbers sharing l
  | .names sharing, v => by
    rw [extract]
    cases v.location? with
    | none => exact .pure _
    | some l => exact (quiet_extractNames sharing l).run_lift
  | .fixed _ _, _ => .pure _
  | .custom _ _, _ => .pure _
  | .combined members, v => by
    rw [extract]
    exact quiet_extractMembers members {} v

theorem quiet_extractMembers : ∀ (members : List Extractor) (row : Row) (v : Value),
    Quiet (extractMembers members row v).run
  | [], _, _ => .pure _
  | e :: es, row, v => by
    rw [extractMembers]
    exact (quiet_extract e v).run_bind fun more => quiet_extractMembers es (row.merge more) v

end

end ImageSelect.Extractor
