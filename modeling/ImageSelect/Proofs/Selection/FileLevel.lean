import ImageSelect.Proofs.Filter.Kept
import ImageSelect.Proofs.Filter.Narrowing
import ImageSelect.Proofs.Selection.Default

/-!
# Expressions over files, asked about planes

An expression that compiles for files compiles for locations and for planes as well, and says
of a plane what it says of the file.  So it selects all planes of a file, or none of them.

* `FileLevel`: a tree that was compiled for files.
* `FileLevel.exists_verdict`: it has one verdict on a file and on all its planes, from every
  sound session.
* `select_all_or_none`: what is selected among the planes of a file.
-/

namespace ImageSelect

/-! ## Verdicts on files and planes -/

/-- A tree that a text compiles to for files. -/
def FileLevel (extractor : Option Extractor) (text : String) (t : Filter.Tree) : Prop :=
  Filter.compileText extractor .file text = .ok t

section
variable {extractor : Option Extractor} {text : String} {t : Filter.Tree}

theorem FileLevel.compileText_location (h : FileLevel extractor text t) :
    Filter.compileText extractor .location text = .ok (t.retype .location) :=
  Filter.compileText_retype ValueType.location_servesFor_file h

theorem FileLevel.compileText_plane (h : FileLevel extractor text t) :
    Filter.compileText extractor .plane text = .ok ((t.retype .location).retype .plane) :=
  Filter.compileText_retype (.of_isSubtype rfl) h.compileText_location

variable [CurrentDirectory]

/-- A tree for files looks nothing up, so it has a verdict on every location.  It is the
same for a file and for all planes over a file with this URL. -/
theorem FileLevel.exists_verdict (h : FileLevel extractor text t) (url : String) :
    ∃ passes, ∀ l : Location, l.url = url → t.verdict (.ofLocation l) = .ok passes := by
  obtain ⟨hwf, haccepts⟩ := Filter.wellFormed_of_compileText h
  exact hwf.exists_verdict_url haccepts url

theorem Filter.Tree.verdict_retype (t : Filter.Tree) (context : ValueType) (v : Value) :
    (t.retype context).verdict v = t.verdict v := by
  rw [Filter.Tree.verdict, Filter.Tree.verdict, Filter.Tree.eval_retype]

end

/-! ## Selecting among the planes of a file -/

section
variable [CurrentDirectory]

/-- A filter that says the same of all candidates selects all or none. -/
theorem Selection.all_or_none_of_ofList {f : Filter} {extractor : Extractor}
    {candidates : List Value} {passes : Bool} (h : ∀ v ∈ candidates, f.selects v = passes)
    {s : Selection} (hs : ofList f extractor candidates = .ok s) :
    s.rows = [] ∨ candidates.mapM extractor.row? = .ok s.rows := by
  obtain ⟨hconsidered, rfl⟩ := ofList_eq_ok_iff.1 hs
  cases passes with
  | false =>
    left
    have hnone : candidates.filter f.selects = [] := by
      rw [List.filter_eq_nil_iff]
      intro v hv
      rw [h v hv]
      decide
    rw [hnone, List.map_nil]
  | true =>
    right
    rw [List.filter_eq_self.2 h]
    refine Except.mapM_eq_ok fun v hv => ?_
    obtain ⟨_, hrow⟩ := hconsidered v hv
    exact row?_of_considered hrow (h v hv)

/-- What the text of a tree for files compiles to for planes, with the extractor that a
selection uses, has the verdicts of that tree. -/
theorem FileLevel.exists_compiled {extractor : Option Extractor} {text : String}
    {t : Filter.Tree} (h : FileLevel extractor text t) :
    ∃ t', Filter.compileText (some (extractor.getD (.forType .plane .shared))) .plane text =
        .ok t' ∧
      ∀ v, t'.verdict v = t.verdict v := by
  have hplane := h.compileText_plane
  cases extractor with
  | none =>
    refine ⟨_, Filter.compileText_forType hplane .shared, fun v => ?_⟩
    rw [Filter.verdict_forType hplane, Filter.Tree.verdict_retype, Filter.Tree.verdict_retype]
  | some e =>
    refine ⟨_, hplane, fun v => ?_⟩
    rw [Filter.Tree.verdict_retype, Filter.Tree.verdict_retype]

/-- Selecting among planes of one file gives the rows of all of them or no row, unless it breaks off
at a number that cannot be written. -/
theorem FileLevel.select_all_or_none {extractor : Option Extractor} {text : String}
    {t : Filter.Tree} (h : FileLevel extractor text t)
    (hreads : ∀ e, extractor = some e → e.ReadsPlanes)
    {file : ImageFile} {planes : List Plane} (hplanes : ∀ p ∈ planes, (p.file == file) = true)
    {supply : Supply} (hsupply : List.Forall₂ Gives supply (planes.map Value.plane)) :
    ∃ r : Except SelectError Selection,
      (∀ s : Session, s.Sound →
        ((select text (planes.map .plane) extractor .plane).run.run s).1 = r ∧
          ((selectFrom text supply extractor .plane).run.run s).1 = r) ∧
      ((∃ selection, r = .ok selection ∧ (selection.rows = [] ∨
          (planes.map .plane).mapM (extractor.getD (.forType .plane .shared)).row? =
            .ok selection.rows)) ∨
        (∃ p ∈ planes, ¬(Value.plane p).Showable) ∧ ∃ why, why.IsTooLong ∧ r = .error why) := by
  obtain ⟨t', hcompile, hverdict⟩ := h.exists_compiled
  obtain ⟨passes, hpasses⟩ := h.exists_verdict file.url
  have hselects : ∀ v ∈ planes.map Value.plane,
      Filter.selects ⟨text, .plane, t'⟩ v = passes := by
    intro v hv
    obtain ⟨p, hp, rfl⟩ := List.mem_map.1 hv
    have hurl : p.file.url = file.url := (ImageFile.beq_iff _ _).1 (hplanes p hp)
    have hplane : t'.verdict (.plane p) = .ok passes :=
      (hverdict _).trans (hpasses (.plane p) hurl)
    show (true && t'.passes (.plane p)) = passes
    rw [Bool.true_and, Filter.Tree.passes, hplane]
  refine ⟨_, fun s hs => ⟨(answers_select hcompile _).result_eq hs,
    (answers_selectFrom hcompile hsupply).result_eq hs⟩, ?_⟩
  rcases Selection.ofList_cases hcompile (Extractor.ReadsPlanes.reads_getD hreads)
      (planes.map .plane) with
    hlist | ⟨⟨v, hv, hnot⟩, hbreak⟩
  · exact .inl ⟨_, hlist, Selection.all_or_none_of_ofList hselects hlist⟩
  · obtain ⟨p, hp, rfl⟩ := List.mem_map.1 hv
    exact .inr ⟨⟨p, hp, hnot⟩, hbreak⟩

/-! ## Files, locations and planes -/

/-- An expression compiles for files exactly if it compiles for locations, and then for planes
as well.  It says of every plane of a file, compiled for planes or for locations, what it says
of the file, compiled for files or for locations, from whatever sound sessions.  So among the
planes of a file it selects all or none; only a number that cannot be written, in the row of a
plane, breaks the selection off.  More generally, what compiles for a type compiles for each
subtype to the same tree with the connectives typed by their contexts, which is written in the
same way and answers in the same way about every value of the subtype. -/
theorem file_level_agrees_on_planes (extractor : Option Extractor) (text : String) :
    ((∃ t, Filter.compileText extractor .file text = .ok t) ↔
      ∃ t, Filter.compileText extractor .location text = .ok t) ∧
    (∀ t, Filter.compileText extractor .file text = .ok t →
      ∃ tl tp, Filter.compileText extractor .location text = .ok tl ∧
        Filter.compileText extractor .plane text = .ok tp ∧
        (∀ url, ∃ passes, ∀ p : Plane, p.file.url = url → ∀ s : Session, s.Sound →
          ((tp.eval (.plane p)).run.run s).1 = .ok passes ∧
          ((t.eval (.file p.file)).run.run s).1 = .ok passes ∧
          ((tl.eval (.plane p)).run.run s).1 = .ok passes ∧
          ((tl.eval (.file p.file)).run.run s).1 = .ok passes) ∧
        ((∀ e, extractor = some e → e.ReadsPlanes) →
          ∀ (file : ImageFile) (planes : List Plane), (∀ p ∈ planes, (p.file == file) = true) →
          ∀ supply : Supply, List.Forall₂ Gives supply (planes.map Value.plane) →
          ∃ r : Except SelectError Selection,
            (∀ s : Session, s.Sound →
              ((select text (planes.map .plane) extractor .plane).run.run s).1 = r ∧
                ((selectFrom text supply extractor .plane).run.run s).1 = r) ∧
            ((∃ selection, r = .ok selection ∧ (selection.rows = [] ∨
                (planes.map .plane).mapM (extractor.getD (.forType .plane .shared)).row? =
                  .ok selection.rows)) ∨
              (∃ p ∈ planes, ¬(Value.plane p).Showable) ∧
                ∃ why, why.IsTooLong ∧ r = .error why))) ∧
    (∀ type sub t, sub.isSubtype type = true → Filter.compileText extractor type text = .ok t →
      Filter.compileText extractor sub text = .ok (t.retype sub) ∧
        (t.retype sub).render = t.render ∧
        ∀ v : Value, v.isA sub = true → (t.retype sub).eval v = t.eval v) := by
  refine ⟨⟨?located, ?filed⟩, ?planes, ?subtypes⟩
  case located =>
    intro h
    obtain ⟨t, ht⟩ := h
    exact ⟨_, FileLevel.compileText_location ht⟩
  case filed =>
    intro h
    obtain ⟨t, ht⟩ := h
    exact ⟨_, Filter.compileText_retype (.of_isSubtype rfl) ht⟩
  case planes =>
    intro t ht
    have hlevel : FileLevel extractor text t := ht
    refine ⟨_, _, hlevel.compileText_location, hlevel.compileText_plane, ?_, ?_⟩
    · intro url
      obtain ⟨passes, hpasses⟩ := hlevel.exists_verdict url
      refine ⟨passes, fun p hurl s hs => ?_⟩
      have hfile : t.verdict (.file p.file) = .ok passes := hpasses (.file p.file) hurl
      have hplane : t.verdict (.plane p) = .ok passes := hpasses (.plane p) hurl
      simp only [Filter.Tree.eval_retype]
      have hon := (t.answers (.plane p)).result_eq hs
      have hof := (t.answers (.file p.file)).result_eq hs
      rw [hplane] at hon
      rw [hfile] at hof
      exact ⟨hon, hof, hon, hof⟩
    · intro hreads file planes hplanes supply hsupply
      exact hlevel.select_all_or_none hreads hplanes hsupply
  case subtypes =>
    intro type sub t hsub ht
    exact ⟨Filter.compileText_retype (.of_isSubtype hsub) ht, t.render_retype sub,
      fun v _ => t.eval_retype sub v⟩

end

/-- The statement for a test of the file name, two planes of a file, and a supply that
derives the name of another file in between. -/
theorem file_level_agrees_on_planes_name :
    letI : CurrentDirectory := .root
    let p : Plane := ⟨⟨"file:///a.tif", none⟩, 0, 0⟩
    let q : Plane := ⟨⟨"file:///a.tif", none⟩, 1, 0⟩
    let supply : Supply := [
      return .plane p,
      do
        let _ ← Run.fileName? "file:///b.png"
        return .plane q]
    ∃ tl, Filter.compileText none .location "file does endwith \".tif\"" = .ok tl ∧
    Filter.compileText none .plane "file does endwith \".tif\"" = .ok (tl.retype .plane) ∧
    (∃ passes, ((tl.eval (.plane q)).run.run {}).1 = .ok passes ∧
      ((tl.eval (.file q.file)).run.run {}).1 = .ok passes) ∧
    ∃ selection : Selection,
      ((selectFrom "file does endwith \".tif\"" supply none .plane).run.run {}).1 =
        .ok selection ∧
      (selection.rows = [] ∨
        [.plane p, .plane q].mapM (Extractor.forType .plane .shared).row? =
          .ok selection.rows) := by
  let _ : CurrentDirectory := .root
  intro p q supply
  let l : Filter.LiteralTest := ⟨.endWith, ".tif", none, rfl⟩
  have hcompile : Filter.compileText none .file "file does endwith \".tif\"" =
      .ok (.branch (.feature .fileName) [.branch (.connective .does .text) [.leaf l]]) :=
    Filter.compileText_eq_ok_iff.2 ⟨[⟨.symbol "file" none, 0⟩, ⟨.symbol "does" none, 5⟩,
      ⟨.symbol "endwith" none, 10⟩, ⟨.literal ".tif", 18⟩], by decide +kernel,
      by with_unfolding_all rfl⟩
  obtain ⟨-, hfile, hsubtypes⟩ := file_level_agrees_on_planes none "file does endwith \".tif\""
  obtain ⟨tl, tp, hlocation, -, hverdict, hselect⟩ := hfile _ hcompile
  obtain ⟨passes, hpasses⟩ := hverdict "file:///a.tif"
  obtain ⟨-, -, hplane, hof⟩ := hpasses q rfl {} Session.sound_empty
  have hsupply : List.Forall₂ Gives supply ([p, q].map Value.plane) :=
    .cons (.pure _) (.cons ((gives_fileName? _).bind (.pure _)) .nil)
  obtain ⟨r, hrun, hr⟩ := hselect (by simp) p.file [p, q]
    (by simp [p, q, ImageFile.beq_iff]) supply hsupply
  refine ⟨tl, hlocation, (hsubtypes .location .plane tl rfl hlocation).1, ⟨passes, hplane, hof⟩, ?_⟩
  rcases hr with ⟨selection, rfl, hrows⟩ | ⟨⟨k, hk, hnot⟩, -⟩
  · exact ⟨selection, (hrun {} Session.sound_empty).2, hrows⟩
  · have hshow : ∀ k ∈ [p, q], (Value.plane k).Showable := by
      simp only [List.forall_mem_cons, Value.showable_plane_iff]
      exact ⟨⟨by decide, by decide⟩, ⟨by decide, by decide⟩, by simp⟩
    exact absurd (hshow k hk) hnot

end ImageSelect
