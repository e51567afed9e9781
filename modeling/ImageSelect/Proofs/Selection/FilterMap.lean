import ImageSelect.Proofs.Filter.Extractor
import ImageSelect.Proofs.Filter.Narrowing
import ImageSelect.Proofs.Filter.Order
import ImageSelect.Proofs.Filter.Verdict
import ImageSelect.Selection.Basic

/-!
# Selections are filtered lists

A selection holds one row for each candidate that is of the filter's type and
that the filter accepts, in the order of the candidates.  What was looked at
before has no part in it: the session only keeps names and strings, and the
verdicts and rows do not depend on those.

* `Filter.Tree.WellFormed.verdict_cases` says that what compiles has a verdict on
  its candidates, unless a number cannot be written.
* `Selection.considered` is what one candidate comes to, and `Selection.ofList`
  the selection from a list, put together from this.
* `answers_selectFrom` says that selecting from a supply comes to it, and
  `answers_select` the same of a list.
* `Selection.ofList_eq_ok_iff`: a selection that comes through is a filter and a
  map over the list, and it comes through if no candidate breaks it off.
* `Selection.ofList_cases`: only a number that cannot be written does.
-/

namespace ImageSelect

section

variable [CurrentDirectory]

/-! ## What compiled filters answer -/

omit [CurrentDirectory] in
/-- The extractor for a type of locations reads the values of the type. -/
theorem Extractor.reads_forType {type : ValueType}
    (h : type = .plane ∨ type = .file ∨ type = .location) (sharing : Sharing) {v : Value}
    (hv : v.isA type = true) : (forType type sharing).reads v = true := by
  rcases h with rfl | rfl | rfl
  · obtain ⟨p, rfl⟩ := Value.eq_plane_of_isA hv
    exact readsPlanes_plane sharing p
  · exact Value.isA_trans hv rfl
  · exact hv

namespace Filter.Tree.WellFormed

variable {t : Tree} (h : t.WellFormed) {v : Value}
include h

/-- The verdict of a well-formed tree whose extractors read planes is an answer
on every value of the type that its root consumes, or it breaks off at a number
that cannot be written. -/
theorem verdict_cases (hsource : ∀ key source, (key, source) ∈ t.lookUps → source.ReadsPlanes)
    (hv : v.isA t.shape.input = true) :
    (∃ passes, t.verdict v = .ok passes) ∨
      ¬v.Showable ∧ t.verdict v = .error (.number .tooLong) := by
  obtain ⟨s', -, ⟨heval, -⟩ | ⟨hshow, heval, -⟩⟩ :=
    (h.isSealed.evaluates hsource hv).1 {} Session.sound_empty
  · exact .inl ⟨_, congrArg Prod.fst heval⟩
  · exact .inr ⟨hshow, congrArg Prod.fst heval⟩

/-- A tree that consumes values that are not planes looks nothing up, so it has a
verdict on all of them that can be shown. -/
theorem exists_verdict_of_accepts {type : ValueType}
    (haccepts : t.shape.accepts (some type) = true) (hplane : type.isSubtype .plane = false)
    (hv : v.isA type = true) (hshow : v.Showable) : ∃ passes, t.verdict v = .ok passes := by
  have hnone := h.not_mem_lookUps haccepts hplane
  rcases h.verdict_cases (fun key source hmem => absurd hmem (hnone key source))
    (Value.isA_trans hv haccepts) with hverdict | ⟨hnot, -⟩
  · exact hverdict
  · exact absurd hshow hnot

/-- A tree that consumes files has one verdict on all locations with a URL. -/
theorem exists_verdict_url (haccepts : t.shape.accepts (some .file) = true) (url : String) :
    ∃ passes, ∀ l : Location, l.url = url → t.verdict (.ofLocation l) = .ok passes := by
  have hfile : (Value.file { url }).isA .file = true := rfl
  obtain ⟨passes, hpasses⟩ :=
    h.exists_verdict_of_accepts haccepts rfl hfile (Value.showable_file _)
  refine ⟨passes, fun l hl => ?_⟩
  have hurl : l.url = (Location.file { url }).url := hl
  have heval : t.eval (.ofLocation l) = t.eval (.file { url }) :=
    h.eval_eq_of_url haccepts hurl
  rw [← hpasses, Filter.Tree.verdict, Filter.Tree.verdict, heval]

end Filter.Tree.WellFormed

/-- The tree of a text that compiles answers about all candidates of its type
if the extractor reads them, unless a number cannot be written. -/
theorem Filter.verdict_cases {extractor : Extractor} {type : ValueType} {text : String}
    {t : Tree} (hcompile : compileText (some extractor) type text = .ok t)
    (hreads : ∀ v : Value, v.isA type = true → extractor.reads v = true) {v : Value}
    (hv : v.isA type = true) :
    t.verdict v = .ok (t.passes v) ∨
      ¬v.Showable ∧ t.verdict v = .error (.number .tooLong) := by
  obtain ⟨hwf, haccepts⟩ := wellFormed_of_compileText hcompile
  have hsource : ∀ key source, (key, source) ∈ t.lookUps → source.ReadsPlanes := by
    intro key source hmem p
    cases hplane : type.isSubtype .plane with
    | true =>
      rw [source_eq_of_compileText hcompile hmem]
      refine hreads (.plane p) ?_
      cases type <;> first
        | exact absurd hplane (by decide)
        | rfl
    | false => exact absurd hmem (hwf.not_mem_lookUps haccepts hplane key source)
  refine (hwf.verdict_cases hsource (Value.isA_trans hv haccepts)).imp_left ?_
  rintro ⟨passes, hpasses⟩
  rw [Tree.passes, hpasses]

/-! ## Candidates -/

/-- Whether a filter selects a candidate: it must be of the filter's type. -/
def Filter.selects (f : Filter) (v : Value) : Bool :=
  v.isA f.candidates && f.tree.passes v

namespace Selection

/-- What a candidate comes to in a selection: its row if it is selected, or why the
selection breaks off there. -/
def considered (f : Filter) (extractor : Extractor) (v : Value) :
    Except SelectError (Option Row) :=
  if v.isA f.candidates then do
    if ← (f.tree.verdict v).mapError .predicate then
      if extractor.reads v then (extractor.row? v).mapError .number |>.map some
      else .error (.extractor v.type)
    else return none
  else (v.shown.mapError .number).map fun _ => none

theorem answers_consider (f : Filter) (extractor : Extractor) (v : Value) :
    Answers (consider f extractor v) (considered f extractor v) := by
  unfold consider considered
  split
  · refine ((f.tree.answers v).adapt SelectError.predicate).bind fun passes _ => ?_
    cases passes with
    | false => exact .pure none
    | true =>
      unfold rowOf
      simp only [if_true]
      split
      · exact ((extractor.answers_row? v).adapt _).map some
      · exact .throw _
  · have hskip := ((Answers.ofExcept v.shown).adapt SelectError.number).bind
      (f := fun form => do
        Run.log .warning logger ("Skipping " ++ form ++ ": expected " ++ f.candidates.name)
        return (none : Option Row))
      (g := fun _ => .ok none) fun form _ => (Answers.lift (gives_log _ _ _)).bind_ok (.pure none)
    have heq : (v.shown.mapError SelectError.number >>= fun _ => .ok (none : Option Row)) =
        (v.shown.mapError SelectError.number).map fun _ => none := by
      cases v.shown <;> rfl
    rwa [heq] at hskip

/-- The rows of those candidates that a selection selects, unless it breaks off. -/
def rowsOf (f : Filter) (extractor : Extractor) (candidates : List Value) :
    Except SelectError (List Row) :=
  candidates.filterMapM (considered f extractor)

/-- The selection from a list. -/
def ofList (f : Filter) (extractor : Extractor) (candidates : List Value) :
    Except SelectError Selection :=
  (rowsOf f extractor candidates).map fun rows => ⟨extractor.keys, rows, candidates.length⟩

section
variable {f : Filter} {extractor : Extractor} {v : Value} {candidates : List Value}

theorem rowsOf_cons :
    rowsOf f extractor (v :: candidates) = (do
      let row? ← considered f extractor v
      let rows ← rowsOf f extractor candidates
      return row?.toList ++ rows) := by
  unfold rowsOf
  rw [List.filterMapM_cons]
  refine bind_congr fun row? => ?_
  cases row? with
  | none => exact (bind_pure _).symm
  | some row => rfl

/-- The progress by some rows of so many candidates. -/
def Progress.addAll (p : Progress) (rows : List Row) (count : Nat) : Progress :=
  ⟨p.rows ++ rows.toArray, p.seen + count⟩

omit [CurrentDirectory] in
theorem Progress.addAll_add (p : Progress) (row? : Option Row) (rows : List Row) (count : Nat) :
    (p.add row?).addAll rows count = p.addAll (row?.toList ++ rows) (count + 1) := by
  rw [addAll, addAll, add, Nat.add_assoc, Nat.add_comm 1]
  cases row? with
  | none => rfl
  | some row =>
    have hrows : p.rows.push row ++ rows.toArray = p.rows ++ (row :: rows).toArray :=
      Array.ext' (by simp)
    exact congrArg (Progress.mk · _) hrows

/-- A supply adds the rows of the selected candidates in their order. -/
theorem answers_drain {supply : Supply} (hsupply : List.Forall₂ Gives supply candidates) :
    ∀ p : Progress, Answers (drain f extractor p supply)
      ((rowsOf f extractor candidates).map fun rows => p.addAll rows candidates.length) := by
  induction hsupply with
  | nil =>
    intro p
    have hnone : p.addAll [] 0 = p := by simp [Progress.addAll]
    rw [drain]
    show Answers _ (.ok (p.addAll [] 0))
    rw [hnone]
    exact .pure p
  | @cons make v supply candidates hmake _ ih =>
    intro p
    have heq : (rowsOf f extractor (v :: candidates)).map
        (fun rows => p.addAll rows (v :: candidates).length) =
          considered f extractor v >>= fun row? =>
            (rowsOf f extractor candidates).map fun rows =>
              (p.add row?).addAll rows candidates.length := by
      rw [rowsOf_cons]
      cases considered f extractor v with
      | error why => rfl
      | ok row? =>
        cases rowsOf f extractor candidates with
        | error why => rfl
        | ok rows => exact congrArg Except.ok (Progress.addAll_add p row? rows _).symm
    rw [drain, heq]
    exact (Answers.lift hmake).bind_ok
      ((answers_consider f extractor v).bind fun row? _ => ih (p.add row?))

end

end Selection

/-- Selecting from a supply comes to the selection from the list of what it hands
over, if the text compiles. -/
theorem answers_selectFrom {text : String} {extractor : Option Extractor} {type : ValueType}
    {t : Filter.Tree}
    (hcompile : Filter.compileText (some (extractor.getD (.forType type .shared))) type text =
      .ok t)
    {supply : Supply} {candidates : List Value} (hsupply : List.Forall₂ Gives supply candidates) :
    Answers (selectFrom text supply extractor type)
      (Selection.ofList ⟨text, type, t⟩ (extractor.getD (.forType type .shared)) candidates) := by
  let e := extractor.getD (.forType type .shared)
  have hfilter := Filter.gives_ofText text type (some e)
  rw [hcompile] at hfilter
  have hdrain : Answers (Selection.drain ⟨text, type, t⟩ e {} supply)
      ((Selection.rowsOf ⟨text, type, t⟩ e candidates).map fun rows =>
        Selection.Progress.addAll {} rows candidates.length) := Selection.answers_drain hsupply {}
  have hrest := hdrain.bind
    (f := fun p => do
      Run.log .info Selection.logger
        ("Selected " ++ toString p.rows.size ++ " of " ++ toString p.seen ++ " candidates")
      return (⟨e.keys, p.rows.toList, p.seen⟩ : Selection))
    (g := fun p => .ok ⟨e.keys, p.rows.toList, p.seen⟩)
    fun p _ => (Answers.lift (gives_log _ _ _)).bind_ok (.pure _)
  have heq : (((Selection.rowsOf ⟨text, type, t⟩ e candidates).map fun rows =>
      Selection.Progress.addAll {} rows candidates.length) >>= fun p =>
        .ok (⟨e.keys, p.rows.toList, p.seen⟩ : Selection)) =
      Selection.ofList ⟨text, type, t⟩ e candidates := by
    unfold Selection.ofList
    cases Selection.rowsOf ⟨text, type, t⟩ e candidates with
    | error why => rfl
    | ok rows =>
      simp [Selection.Progress.addAll, Except.map, bind, Except.bind]
  rw [heq] at hrest
  unfold selectFrom
  exact (Answers.adapt (m := ExceptT.mk _) hfilter SelectError.expression).bind_ok
    ((Answers.lift (gives_log _ _ _)).bind_ok hrest)

/-- A list is a supply of its candidates. -/
theorem forall₂_gives_pure (candidates : List Value) :
    List.Forall₂ Gives (candidates.map Pure.pure) candidates := by
  rw [List.forall₂_map_left_iff, List.forall₂_same]
  exact fun v _ => .pure v

/-- Selecting from a list comes to its selection, if the text compiles. -/
theorem answers_select {text : String} {extractor : Option Extractor} {type : ValueType}
    {t : Filter.Tree}
    (hcompile : Filter.compileText (some (extractor.getD (.forType type .shared))) type text =
      .ok t)
    (candidates : List Value) :
    Answers (select text candidates extractor type)
      (Selection.ofList ⟨text, type, t⟩ (extractor.getD (.forType type .shared)) candidates) :=
  answers_selectFrom hcompile (forall₂_gives_pure candidates)

/-! ## Selections that come through -/

namespace Selection

section
variable {f : Filter} {extractor : Extractor} {v : Value} {candidates : List Value}

/-- A candidate that does not break off a selection has its row if the filter selects it. -/
theorem eq_of_considered {row? : Option Row} (h : considered f extractor v = .ok row?) :
    row? = if f.selects v then some (extractor.rowOf v) else none := by
  unfold considered at h
  unfold Filter.selects
  cases hv : v.isA f.candidates with
  | false =>
    rw [hv] at h
    obtain ⟨_, -, rfl⟩ := Except.map_eq_ok_iff.1 h
    rfl
  | true =>
    rw [hv, if_pos rfl] at h
    obtain ⟨passes, hverdict, h⟩ := Except.bind_eq_ok_iff.1 h
    rw [Filter.Tree.passes, Except.mapError_eq_ok_iff.1 hverdict]
    cases passes with
    | false => exact (Except.ok.inj h).symm
    | true =>
      rw [if_pos rfl] at h
      split at h
      · obtain ⟨row, hrow, rfl⟩ := Except.map_eq_ok_iff.1 h
        rw [Extractor.rowOf_of_row? (Except.mapError_eq_ok_iff.1 hrow)]
        rfl
      · cases h

/-- The filter answers about a candidate of its type that does not break off a selection. -/
theorem verdict_of_considered {row? : Option Row} (h : considered f extractor v = .ok row?)
    (hv : v.isA f.candidates = true) : f.tree.verdict v = .ok (f.tree.passes v) := by
  unfold considered at h
  rw [hv, if_pos rfl] at h
  obtain ⟨passes, hverdict, -⟩ := Except.bind_eq_ok_iff.1 h
  rw [Filter.Tree.passes, Except.mapError_eq_ok_iff.1 hverdict]

/-- A candidate that is selected and does not break off a selection has a row. -/
theorem row?_of_considered {row? : Option Row} (h : considered f extractor v = .ok row?)
    (hv : f.selects v = true) : extractor.row? v = .ok (extractor.rowOf v) := by
  obtain ⟨htype, hpasses⟩ := Bool.and_eq_true_iff.1 hv
  have hverdict := verdict_of_considered h htype
  unfold considered at h
  rw [htype, if_pos rfl, hverdict, hpasses] at h
  obtain ⟨_, hasked, h⟩ := Except.bind_eq_ok_iff.1 h
  obtain rfl := Except.ok.inj hasked
  rw [if_pos rfl] at h
  split at h
  · obtain ⟨row, hrow, -⟩ := Except.map_eq_ok_iff.1 h
    have hrow := Except.mapError_eq_ok_iff.1 hrow
    rw [hrow, Extractor.rowOf_of_row? hrow]
  · cases h

/-- The rows are those of the candidates that the filter selects, if no candidate breaks the
selection off. -/
theorem rowsOf_eq_ok_iff {rows : List Row} :
    rowsOf f extractor candidates = .ok rows ↔
      (∀ v ∈ candidates, ∃ row?, considered f extractor v = .ok row?) ∧
        rows = (candidates.filter f.selects).map extractor.rowOf := by
  induction candidates generalizing rows with
  | nil =>
    constructor
    · intro h
      exact ⟨by simp, (Except.ok.inj h).symm⟩
    · rintro ⟨-, rfl⟩
      rfl
  | cons v candidates ih =>
    have hcons : ∀ rest : List Row,
        (if f.selects v then some (extractor.rowOf v) else none).toList ++ rest =
          if f.selects v then extractor.rowOf v :: rest else rest := by
      intro rest
      split <;> rfl
    rw [rowsOf_cons, List.filter_cons, List.forall_mem_cons]
    constructor
    · intro h
      obtain ⟨row?, hrow, h⟩ := Except.bind_eq_ok_iff.1 h
      obtain ⟨rest, hrest, h⟩ := Except.bind_eq_ok_iff.1 h
      obtain rfl := Except.ok.inj h
      obtain ⟨hall, rfl⟩ := ih.1 hrest
      refine ⟨⟨⟨row?, hrow⟩, hall⟩, ?_⟩
      rw [eq_of_considered hrow, hcons]
      split <;> rfl
    · rintro ⟨⟨⟨row?, hrow⟩, hall⟩, rfl⟩
      rw [hrow, ih.2 ⟨hall, rfl⟩, eq_of_considered hrow]
      refine congrArg Except.ok ((hcons _).trans ?_)
      split <;> rfl

/-- A selection comes through if no candidate breaks it off, and then it holds the rows of the
candidates that the filter selects. -/
theorem ofList_eq_ok_iff {s : Selection} :
    ofList f extractor candidates = .ok s ↔
      (∀ v ∈ candidates, ∃ row?, considered f extractor v = .ok row?) ∧
        s = ⟨extractor.keys, (candidates.filter f.selects).map extractor.rowOf,
          candidates.length⟩ := by
  rw [ofList, Except.map_eq_ok_iff]
  constructor
  · rintro ⟨rows, hrows, rfl⟩
    obtain ⟨hall, rfl⟩ := rowsOf_eq_ok_iff.1 hrows
    exact ⟨hall, rfl⟩
  · rintro ⟨hall, rfl⟩
    exact ⟨_, rowsOf_eq_ok_iff.2 ⟨hall, rfl⟩, rfl⟩

/-- A selection that breaks off does so at one of its candidates. -/
theorem exists_of_ofList_eq_error {why : SelectError}
    (h : ofList f extractor candidates = .error why) :
    ∃ v ∈ candidates, considered f extractor v = .error why := by
  have hrows := Except.map_eq_error_iff.1 h
  clear h
  induction candidates with
  | nil => cases hrows
  | cons v candidates ih =>
    rw [rowsOf_cons] at hrows
    rcases Except.bind_eq_error_iff.1 hrows with hv | ⟨row?, -, hrows⟩
    · exact ⟨v, List.mem_cons_self, hv⟩
    · rcases Except.bind_eq_error_iff.1 hrows with hrest | ⟨_, -, hnone⟩
      · obtain ⟨w, hw, hbreak⟩ := ih hrest
        exact ⟨w, List.mem_cons_of_mem _ hw, hbreak⟩
      · cases hnone

end

end Selection

/-- A selection broke off at a number that cannot be written: a predicate needed it, or it stands
in a row or in the form of a candidate that is passed over. -/
inductive SelectError.IsTooLong : SelectError → Prop
  | asked : IsTooLong (.predicate (.number .tooLong))
  | written : IsTooLong (.number .tooLong)

section
variable {text : String} {type : ValueType} {extractor : Extractor} {t : Filter.Tree}
  (hcompile : Filter.compileText (some extractor) type text = .ok t)
  (hreads : ∀ v : Value, v.isA type = true → extractor.reads v = true)
include hcompile hreads

/-- With a compiled filter and an extractor for its candidates a candidate breaks a selection
off only at a number that cannot be written. -/
theorem Selection.considered_cases (v : Value) :
    (∃ row?, considered ⟨text, type, t⟩ extractor v = .ok row?) ∨
      ¬v.Showable ∧ ∃ why, why.IsTooLong ∧ considered ⟨text, type, t⟩ extractor v = .error why := by
  unfold considered
  cases hv : v.isA type with
  | false =>
    cases hshown : v.shown with
    | ok form => exact .inl ⟨_, rfl⟩
    | error why =>
      refine .inr ⟨?_, _, .written, rfl⟩
      rintro ⟨form, hform⟩
      cases hshown.symm.trans hform
  | true =>
    dsimp only
    rcases Filter.verdict_cases hcompile hreads hv with hverdict | ⟨hshow, hverdict⟩
    · rw [hverdict]
      cases t.passes v with
      | false => exact .inl ⟨_, rfl⟩
      | true =>
        cases hrow : extractor.row? v with
        | ok row =>
          refine .inl ⟨some row, ?_⟩
          simp only [if_true, hreads v hv]
          rfl
        | error why =>
          refine .inr ⟨fun hshow => ?_, _, .written, ?_⟩
          · cases hrow.symm.trans (Extractor.row?_of_showable hshow extractor)
          · simp only [if_true, hreads v hv]
            rfl
    · rw [hverdict]
      exact .inr ⟨hshow, _, .asked, rfl⟩

/-- So a selection is the filtered list, or it breaks off at a number of a candidate that cannot
be shown. -/
theorem Selection.ofList_cases (candidates : List Value) :
    ofList ⟨text, type, t⟩ extractor candidates =
        .ok ⟨extractor.keys, (candidates.filter (Filter.selects ⟨text, type, t⟩)).map
          extractor.rowOf, candidates.length⟩ ∨
      (∃ v ∈ candidates, ¬v.Showable) ∧
        ∃ why, why.IsTooLong ∧ ofList ⟨text, type, t⟩ extractor candidates = .error why := by
  cases hlist : ofList ⟨text, type, t⟩ extractor candidates with
  | ok s => exact .inl (congrArg Except.ok (ofList_eq_ok_iff.1 hlist).2)
  | error why =>
    obtain ⟨v, hmem, hv⟩ := exists_of_ofList_eq_error hlist
    rcases considered_cases hcompile hreads v with ⟨row?, hrow⟩ | ⟨hshow, why', htooLong, hwhy⟩
    · cases hv.symm.trans hrow
    · obtain rfl := Except.error.inj (hv.symm.trans hwhy)
      exact .inr ⟨⟨v, hmem, hshow⟩, why, htooLong, rfl⟩

theorem Selection.ofList_of_showable {candidates : List Value}
    (hshow : ∀ v ∈ candidates, v.Showable) :
    ofList ⟨text, type, t⟩ extractor candidates =
      .ok ⟨extractor.keys, (candidates.filter (Filter.selects ⟨text, type, t⟩)).map
        extractor.rowOf, candidates.length⟩ := by
  refine (ofList_cases hcompile hreads candidates).resolve_right fun h => ?_
  obtain ⟨⟨v, hv, hnot⟩, -⟩ := h
  exact hnot (hshow v hv)

end

/-- A candidate of another type breaks a selection off if it cannot be shown. -/
theorem Selection.considered_of_not_showable {f : Filter} {extractor : Extractor} {v : Value}
    (hv : v.isA f.candidates = false) (h : ¬v.Showable) :
    considered f extractor v = .error (.number .tooLong) := by
  unfold considered
  rw [hv]
  cases hshown : v.shown with
  | ok form => exact absurd ⟨form, hshown⟩ h
  | error why => rfl

/-! ## The selection of a filter -/

theorem Filter.ofText_alone_eq_ok_iff {text : String} {type : ValueType}
    {extractor : Option Extractor} {f : Filter} :
    (ofText text type extractor).alone = .ok f ↔
      ∃ t, compileText extractor type text = .ok t ∧ f = ⟨text, type, t⟩ := by
  rw [(gives_ofText text type extractor).alone_eq, Except.map_eq_ok_iff]
  simp only [eq_comm (b := f)]

omit [CurrentDirectory] in
/-- The extractor that a selection uses reads the candidates of a type of
locations if a given one does. -/
theorem Extractor.reads_getD {extractor : Option Extractor} {type : ValueType}
    (htype : type = .plane ∨ type = .file ∨ type = .location)
    (hreads : ∀ e, extractor = some e → ∀ v : Value, v.isA type = true → e.reads v = true)
    (v : Value) (hv : v.isA type = true) :
    (extractor.getD (.forType type .shared)).reads v = true := by
  cases extractor with
  | none => exact reads_forType htype .shared hv
  | some e => exact hreads e rfl v hv

omit [CurrentDirectory] in
/-- The same of planes, for a given extractor that reads planes. -/
theorem Extractor.ReadsPlanes.reads_getD {extractor : Option Extractor}
    (hreads : ∀ e, extractor = some e → e.ReadsPlanes) (v : Value) (hv : v.isA .plane = true) :
    (extractor.getD (.forType .plane .shared)).reads v = true := by
  refine Extractor.reads_getD (.inl rfl) (fun e he v hv => ?_) v hv
  obtain ⟨p, rfl⟩ := Value.eq_plane_of_isA hv
  exact hreads e he p

/-- A selection is an ordered filter and map.  With a compiled filter over planes,
files or locations and an extractor that reads them, the filter answers about
every candidate of its type that can be shown, and it has a row.  Selecting from
a list comes to one end, whatever the session, and selecting from any supply of
the candidates comes to the same.  This is the selection that has in order the
rows of those that are of the type and that the filter accepts, and that counts
all; or there is a candidate that cannot be shown, and a number that cannot be
written breaks the selection off.  So the selection from two lists together is
put together from those of each. -/
theorem select_eq_filter_map {text : String} {extractor : Option Extractor} {type : ValueType}
    {f : Filter} (htype : type = .plane ∨ type = .file ∨ type = .location)
    (hreads : ∀ e, extractor = some e → ∀ v : Value, v.isA type = true → e.reads v = true)
    (hfilter : (Filter.ofText text type
      (some (extractor.getD (.forType type .shared)))).alone = .ok f) :
    let e := extractor.getD (.forType type .shared)
    (∀ v : Value, v.isA type = true → v.Showable → ∀ s : Session, s.Sound →
      ((f.ask v).run.run s).1 = .ok (f.tree.passes v) ∧
        ((e.extract v).run.run s).1 = .ok (e.rowOf v)) ∧
    (∀ (candidates : List Value) (supply : Supply), List.Forall₂ Gives supply candidates →
      let selection : Selection :=
        ⟨e.keys, (candidates.filter fun v => v.isA type && f.tree.passes v).map e.rowOf,
          candidates.length⟩
      ∃ r : Except SelectError Selection,
        (∀ s : Session, s.Sound →
          ((select text candidates extractor type).run.run s).1 = r ∧
            ((selectFrom text supply extractor type).run.run s).1 = r) ∧
        (r = .ok selection ∨
          (∃ v ∈ candidates, ¬v.Showable) ∧ ∃ why, why.IsTooLong ∧ r = .error why)) ∧
    (∀ (xs ys : List Value) (s₁ s₂ s₃ : Session), s₁.Sound → s₂.Sound → s₃.Sound →
      (∀ v ∈ xs ++ ys, v.Showable) →
      ∃ a b : Selection,
        ((select text xs extractor type).run.run s₁).1 = .ok a ∧
        ((select text ys extractor type).run.run s₂).1 = .ok b ∧
        ((select text (xs ++ ys) extractor type).run.run s₃).1 =
          .ok ⟨e.keys, a.rows ++ b.rows, a.seen + b.seen⟩) := by
  intro e
  obtain ⟨t, hcompile, rfl⟩ := Filter.ofText_alone_eq_ok_iff.1 hfilter
  have hreads' := Extractor.reads_getD htype hreads
  refine ⟨?answered, ?selected, ?joined⟩
  case answered =>
    intro v hv hshow s hs
    have hverdict := (Filter.verdict_cases hcompile hreads' hv).resolve_right fun h => h.1 hshow
    exact ⟨hverdict ▸ (t.answers v).result_eq hs, (e.answers_rowOf hshow).result_eq hs⟩
  case selected =>
    intro candidates supply hsupply selection
    exact ⟨Selection.ofList ⟨text, type, t⟩ e candidates, fun s hs =>
      ⟨(answers_select hcompile candidates).result_eq hs,
        (answers_selectFrom hcompile hsupply).result_eq hs⟩,
      Selection.ofList_cases hcompile hreads' candidates⟩
  case joined =>
    intro xs ys s₁ s₂ s₃ hs₁ hs₂ hs₃ hshow
    obtain ⟨hxs, hys⟩ := List.forall_mem_append.1 hshow
    have hshown := @Selection.ofList_of_showable _ _ _ _ _ hcompile hreads'
    refine ⟨_, _, ((answers_select hcompile xs).result_eq hs₁).trans (hshown hxs),
      ((answers_select hcompile ys).result_eq hs₂).trans (hshown hys),
      ((answers_select hcompile (xs ++ ys)).result_eq hs₃).trans ?_⟩
    rw [hshown hshow, List.filter_append, List.map_append, List.length_append]

end

/-- A candidate of another type is passed over with its form, so a number that cannot be
written breaks a selection off. -/
theorem select_long_number_breaks_off :
    letI : CurrentDirectory := .root
    ((select "file eq \"x\"" [.integer (10 ^ Text.digitLimit : Nat)] none .plane).run.run {}).1 =
      .error (.number .tooLong) := by
  let _ : CurrentDirectory := .root
  suffices h : ∀ n : Nat, ¬Text.Writable n →
      ((select "file eq \"x\"" [.integer n] none .plane).run.run {}).1 =
        .error (.number .tooLong) from h _ Text.not_writable_pow
  intro n hn
  let l : Filter.LiteralTest := ⟨.eq, "x", none, rfl⟩
  have hcompile : Filter.compileText (some (.forType .plane .shared)) .plane "file eq \"x\"" =
      .ok (.branch (.feature .fileName) [.leaf l]) :=
    Filter.compileText_eq_ok_iff.2 ⟨[⟨.symbol "file" none, 0⟩, ⟨.symbol "eq" none, 5⟩,
      ⟨.literal "x", 8⟩], by decide +kernel, by with_unfolding_all rfl⟩
  have hbreak : Selection.ofList ⟨"file eq \"x\"", .plane, .branch (.feature .fileName) [.leaf l]⟩
      (.forType .plane .shared) [.integer n] = .error (.number .tooLong) := by
    rw [Selection.ofList, Selection.rowsOf_cons, Selection.considered_of_not_showable rfl]
    · rfl
    · rwa [Value.showable_integer_iff]
  exact ((@answers_select _ _ none _ _ hcompile _).result_eq Session.sound_empty).trans hbreak

/-- The statement for two planes and a text, of which a supply derives a name
before it hands over the second one. -/
theorem select_eq_filter_map_series :
    letI : CurrentDirectory := .root
    ∃ f : Filter,
      (Filter.ofText "series eq \"1\"" .plane (some (.forType .plane .shared))).alone = .ok f ∧
      ((selectFrom "series eq \"1\"" [
          return .plane ⟨⟨"file:///a.tif", none⟩, 0, 0⟩,
          do
            let _ ← Run.fileName? "file:///b.tif"
            return .plane ⟨⟨"file:///b.tif", none⟩, 1, 0⟩,
          return .text "x"] none .plane).run.run {}).1 =
        .ok ⟨(Extractor.forType .plane .shared).keys,
          ([.plane ⟨⟨"file:///a.tif", none⟩, 0, 0⟩, .plane ⟨⟨"file:///b.tif", none⟩, 1, 0⟩,
            .text "x"].filter fun v : Value => v.isA .plane && f.tree.passes v).map
              (Extractor.forType .plane .shared).rowOf, 3⟩ := by
  let _ : CurrentDirectory := .root
  let l : Filter.LiteralTest := ⟨.eq, "1", none, rfl⟩
  have hcompile : Filter.compileText (some (.forType .plane .shared)) .plane "series eq \"1\"" =
      .ok (.branch (.feature .series) [.leaf l]) :=
    Filter.compileText_eq_ok_iff.2 ⟨[⟨.symbol "series" none, 0⟩, ⟨.symbol "eq" none, 7⟩,
      ⟨.literal "1", 10⟩], by decide +kernel, by with_unfolding_all rfl⟩
  have hfilter := Filter.ofText_alone_eq_ok_iff.2 ⟨_, hcompile, rfl⟩
  refine ⟨_, hfilter, ?_⟩
  have hnamed : Gives
      (do
        let _ ← Run.fileName? "file:///b.tif"
        return .plane ⟨⟨"file:///b.tif", none⟩, 1, 0⟩)
      (Value.plane ⟨⟨"file:///b.tif", none⟩, 1, 0⟩) := (gives_fileName? _).bind (.pure _)
  have hshow : ∀ v ∈ [Value.plane ⟨⟨"file:///a.tif", none⟩, 0, 0⟩,
      .plane ⟨⟨"file:///b.tif", none⟩, 1, 0⟩, .text "x"], v.Showable := by
    simp only [List.forall_mem_cons, Value.showable_plane_iff, Value.showable_text]
    exact ⟨⟨by decide, by decide⟩, ⟨by decide, by decide⟩, trivial, by simp⟩
  have h := @select_eq_filter_map _ _ none _ _ (.inl rfl) (by simp) hfilter
  obtain ⟨r, hrun, hr⟩ := h.2.1 _ _ (.cons (.pure _) (.cons hnamed (.cons (.pure _) .nil)))
  refine (hrun {} Session.sound_empty).2.trans (hr.resolve_right fun hbreak => ?_)
  obtain ⟨⟨v, hv, hnot⟩, -⟩ := hbreak
  exact hnot (hshow v hv)

end ImageSelect
