import Std.Data.String.ToNat
import ImageSelect.Location.Hash
import ImageSelect.Proofs.Filter.Narrowing
import ImageSelect.Proofs.Location.Access
import ImageSelect.Proofs.Selection.FilterMap

/-!
# Candidates that are equal

Files are equal if their URLs are, and planes if their files and numbers are.  Nothing else that a
candidate has can be observed: neither the document that it carries, nor the names that are kept
for it, nor what was interned before.

* `Location.Equal`: what two equal locations share.
* `Extractor.extract_eq_of_equal` and `Filter.Tree.eval_eq_of_equal`: extractors and filters look at
  nothing else, provided that the extractors are built in.
* `Location.after`: a location with which something was done.
* `plane_beq_iff_row`: a plane can be told from its row.
-/

namespace ImageSelect

/-! ## Equal locations -/

/-- Two files with one URL, or two planes with one URL and the same numbers. -/
inductive Location.Equal : Location → Location → Prop
  | file (url : String) (d d' : Option Xml.Element) : Equal (.file ⟨url, d⟩) (.file ⟨url, d'⟩)
  | plane (url : String) (d d' : Option Xml.Element) (series frame : Nat) :
      Equal (.plane ⟨⟨url, d⟩, series, frame⟩) (.plane ⟨⟨url, d'⟩, series, frame⟩)

theorem Location.same_iff_equal {l m : Location} :
    (Value.ofLocation l).same (.ofLocation m) = true ↔ l.Equal m := by
  constructor
  · intro h
    cases l with
    | file f =>
      cases m with
      | file g =>
        rw [Value.ofLocation, Value.ofLocation, Value.same, ImageFile.beq_iff] at h
        obtain ⟨url, d⟩ := f
        obtain ⟨url', d'⟩ := g
        obtain rfl : url = url' := h
        exact .file url d d'
      | plane q => simp [Value.ofLocation, Value.same, Value.fraction?] at h
    | plane p =>
      cases m with
      | file g => simp [Value.ofLocation, Value.same, Value.fraction?] at h
      | plane q =>
        rw [Value.ofLocation, Value.ofLocation, Value.same, Plane.beq_iff] at h
        obtain ⟨⟨url, d⟩, series, frame⟩ := p
        obtain ⟨⟨url', d'⟩, series', frame'⟩ := q
        obtain ⟨rfl, rfl, rfl⟩ : url = url' ∧ series = series' ∧ frame = frame' := h
        exact .plane url d d' series frame
  · intro h
    cases h with
    | file url d d' =>
      rw [Value.ofLocation, Value.ofLocation, Value.same, ImageFile.beq_iff]
    | plane url d d' series frame =>
      rw [Value.ofLocation, Value.ofLocation, Value.same, Plane.beq_iff]
      exact ⟨rfl, rfl, rfl⟩

section
variable {l m : Location}

theorem Location.Equal.type_eq (h : l.Equal m) :
    (Value.ofLocation l).type = (Value.ofLocation m).type := by
  cases h <;> rfl

theorem Location.Equal.isA_eq (h : l.Equal m) (t : ValueType) :
    (Value.ofLocation l).isA t = (Value.ofLocation m).isA t := by
  rw [Value.isA, Value.isA, h.type_eq]

theorem Location.Equal.describe_eq (h : l.Equal m) :
    (Value.ofLocation l).describe = (Value.ofLocation m).describe := by
  cases h <;> rfl

theorem Location.Equal.showable_iff (h : l.Equal m) :
    (Value.ofLocation l).Showable ↔ (Value.ofLocation m).Showable := by
  have hshown : (Value.ofLocation l).shown = (Value.ofLocation m).shown := by
    cases h <;> rfl
  rw [Value.Showable, Value.Showable, hshown]

theorem Location.Equal.hashBy_eq (h : l.Equal m) (hashing : Hashing) :
    l.hashBy hashing = m.hashBy hashing := by
  cases h <;> rfl

end

/-! ## Extractors -/

namespace Extractor

mutual

/-- An extractor that reports numbers and names, alone or joined with others of this kind. -/
def IsBuiltIn : Extractor → Prop
  | .planeNumbers _ | .names _ => True
  | .fixed _ _ | .custom _ _ => False
  | .combined members => AreBuiltIn members

def AreBuiltIn : List Extractor → Prop
  | [] => True
  | e :: es => IsBuiltIn e ∧ AreBuiltIn es

end

theorem isBuiltIn_plane (sharing : Sharing) : (plane sharing).IsBuiltIn := by
  simp [plane, IsBuiltIn, AreBuiltIn]

section
variable [CurrentDirectory] {l m : Location}

mutual

/-- A built-in extractor does with equal locations the same. -/
theorem extract_eq_of_equal (h : l.Equal m) : ∀ {e : Extractor}, e.IsBuiltIn →
    e.extract (.ofLocation l) = e.extract (.ofLocation m)
  | .planeNumbers _, _ => by cases h <;> rfl
  | .names _, _ => by cases h <;> rfl
  | .combined members, he => by
    rw [extract, extract]
    exact extractMembers_eq_of_equal h {} he

theorem extractMembers_eq_of_equal (h : l.Equal m) :
    ∀ {es : List Extractor} (row : Row), AreBuiltIn es →
    extractMembers es row (.ofLocation l) = extractMembers es row (.ofLocation m)
  | [], _, _ => rfl
  | e :: es, row, ⟨he, hes⟩ => by
    rw [extractMembers, extractMembers, extract_eq_of_equal h he]
    exact bind_congr fun more => extractMembers_eq_of_equal h (row.merge more) hes

end

end

section
variable {l m : Location}

mutual

theorem reads_eq_of_equal (h : l.Equal m) : ∀ {e : Extractor}, e.IsBuiltIn →
    e.reads (.ofLocation l) = e.reads (.ofLocation m)
  | .planeNumbers _, _ => h.isA_eq .plane
  | .names _, _ => h.isA_eq .location
  | .combined _, he => membersRead_eq_of_equal h he

theorem membersRead_eq_of_equal (h : l.Equal m) : ∀ {es : List Extractor}, AreBuiltIn es →
    membersRead es (.ofLocation l) = membersRead es (.ofLocation m)
  | [], _ => rfl
  | e :: es, ⟨he, hes⟩ => by
    rw [membersRead, membersRead, reads_eq_of_equal h he, membersRead_eq_of_equal h hes]

end

end

mutual

theorem IsBuiltIn.reads_plane : ∀ {e : Extractor}, e.IsBuiltIn → e.ReadsPlanes
  | .planeNumbers _, _, _ => rfl
  | .names _, _, _ => rfl
  | .combined _, he, p => AreBuiltIn.membersRead_plane he p

theorem AreBuiltIn.membersRead_plane : ∀ {es : List Extractor}, AreBuiltIn es →
    ∀ p : Plane, membersRead es (.plane p) = true
  | [], _, _ => rfl
  | e :: es, ⟨he, hes⟩, p => by
    rw [membersRead, he.reads_plane p, AreBuiltIn.membersRead_plane hes p]
    rfl

end

end Extractor

/-! ## Filters -/

namespace Filter

section
variable [CurrentDirectory] {l m : Location} (h : l.Equal m)
include h

omit [CurrentDirectory] in
/-- A test takes no location for a text, whichever it is. -/
theorem LiteralTest.eval_eq_of_equal (test : LiteralTest) :
    test.eval (.ofLocation l) = test.eval (.ofLocation m) := by
  obtain ⟨t, literal, pattern, prepared⟩ := test
  cases h <;> cases t <;> rfl

theorem Feature.textOf?_eq_of_equal (f : Feature) :
    f.textOf? (.ofLocation l) = f.textOf? (.ofLocation m) := by
  cases h <;> cases f <;> rfl

theorem lookUp_eq_of_equal (key : String) {source : Extractor} (hsource : source.IsBuiltIn) :
    lookUp key source (.ofLocation l) = lookUp key source (.ofLocation m) := by
  simp only [lookUp, metadataValue?, noteMissing, Extractor.reads_eq_of_equal h hsource,
    Extractor.extract_eq_of_equal h hsource, h.describe_eq, h.type_eq]

/-- A filter whose extractors are built in does with equal locations the same. -/
theorem Tree.eval_eq_of_equal {t : Tree}
    (hsource : ∀ key source, (key, source) ∈ t.lookUps → source.IsBuiltIn) :
    t.eval (.ofLocation l) = t.eval (.ofLocation m) := by
  induction t using Tree.induct with
  | leaf test =>
    rw [Tree.eval, Tree.eval, Tree.evalWith, Tree.evalWith]
    exact bind_congr fun _ => LiteralTest.eval_eq_of_equal h test
  | branch c children ih =>
    have hbelow : AnswerAlike (fun _ => Eq) .silent .silent (.ofLocation l) (.ofLocation m)
        children children := List.forall₂_same.2 fun t ht =>
      ih t ht fun key source hmem => hsource key source (Tree.mem_lookUps_of_mem ht hmem)
    cases c with
    | connective c domain =>
      exact congruence_eq.connective c domain domain rfl (fun _ => rfl) hbelow
    | feature f =>
      exact congruence_eq.feature f rfl (f.textOf?_eq_of_equal h) (fun _ => rfl) fun s =>
        List.forall₂_same.2 fun _ _ => rfl
    | metadata key source =>
      have hbuiltIn := hsource key source (Tree.mem_lookUps_branch_iff.2 (.inl rfl))
      exact congruence_eq.metadata key source rfl (lookUp_eq_of_equal h key hbuiltIn)
        (fun _ => rfl) fun s => List.forall₂_same.2 fun _ _ => rfl
    | quorum least most => exact congruence_eq.quorum least most rfl hbelow

end

end Filter

/-! ## What was done before -/

section
variable [CurrentDirectory]

/-- What is done with a file gives the same from every sound session, and keeps its URL. -/
theorem FileAction.exists_gives_run (a : FileAction) (file : ImageFile) :
    ∃ file' answer, Gives (a.run file) (file', answer) ∧ file'.url = file.url := by
  cases hnaming : a.naming? with
  | none =>
    obtain ⟨file', answer, hrun, hurl⟩ := run_of_naming?_eq_none hnaming file
    exact ⟨file', answer, fun s hs => ⟨s, hrun s, hs⟩, hurl⟩
  | some n =>
    rw [run_of_naming hnaming]
    exact ⟨file, _, (n.gives_request file.url).bind (.pure _), rfl⟩

theorem FileAction.exists_gives_runAll (actions : List FileAction) :
    ∀ file : ImageFile, ∃ file' answers, Gives (runAll file actions) (file', answers) ∧
      file'.url = file.url := by
  induction actions with
  | nil => exact fun file => ⟨file, [], .pure _, rfl⟩
  | cons a actions ih =>
    intro file
    obtain ⟨file₁, answer, hrun, hurl₁⟩ := a.exists_gives_run file
    obtain ⟨file₂, answers, hrunAll, hurl₂⟩ := ih file₁
    exact ⟨file₂, answer :: answers, hrun.bind (hrunAll.bind (.pure _)), hurl₂.trans hurl₁⟩

/-- A location after something was done with its file. -/
def Location.after (actions : List FileAction) : Location → Run Location
  | .file f => do
    let (f, _) ← FileAction.runAll f actions
    return .file f
  | .plane p => do
    let (f, _) ← FileAction.runAll p.file actions
    return .plane { p with file := f }

namespace Location

variable {l m k : Location}

omit [CurrentDirectory] in
theorem Equal.symm (h : l.Equal m) : m.Equal l := by
  cases h with
  | file url d d' => exact .file url d' d
  | plane url d d' series frame => exact .plane url d' d series frame

omit [CurrentDirectory] in
theorem Equal.trans (h : l.Equal m) (h' : m.Equal k) : l.Equal k := by
  cases h with
  | file url d d' => cases h' with | file _ _ d'' => exact .file url d d''
  | plane url d d' series frame =>
    cases h' with | plane _ _ d'' _ _ => exact .plane url d d'' series frame

omit [CurrentDirectory] in
theorem equal_of_url {f g : ImageFile} (h : f.url = g.url) (series frame : Nat) :
    (Location.file f).Equal (.file g) ∧
      (Location.plane ⟨f, series, frame⟩).Equal (.plane ⟨g, series, frame⟩) := by
  obtain ⟨url, d⟩ := f
  obtain ⟨url', d'⟩ := g
  obtain rfl : url = url' := h
  exact ⟨.file url d d', .plane url d d' series frame⟩

/-- Whatever is done with a location, it stays equal to what it was. -/
theorem exists_gives_after (l : Location) (actions : List FileAction) :
    ∃ l', Gives (l.after actions) l' ∧ l.Equal l' := by
  cases l with
  | file f =>
    obtain ⟨f', answers, hrun, hurl⟩ := FileAction.exists_gives_runAll actions f
    exact ⟨.file f', hrun.bind (.pure _), (equal_of_url hurl.symm 0 0).1⟩
  | plane p =>
    obtain ⟨file, answers, hrun, hurl⟩ := FileAction.exists_gives_runAll actions p.file
    exact ⟨.plane { p with file := file }, hrun.bind (.pure _),
      (equal_of_url hurl.symm p.series p.frame).2⟩

end Location

/-! ## Rows of planes -/

open Extractor (urlKey seriesKey frameKey)

section
variable {p q : Plane} (hp : (Value.plane p).Showable) (hq : (Value.plane q).Showable)
  (sharing sharing' : Sharing)
include hp hq

/-- A plane can be told from the URL and the numbers in its row. -/
theorem plane_beq_iff_cells :
    (p == q) = true ↔ ∀ key ∈ [urlKey, seriesKey, frameKey],
      ((Extractor.plane sharing).rowOf (.plane p)).get? key =
        ((Extractor.plane sharing').rowOf (.plane q)).get? key := by
  have hget : ∀ {p : Plane}, (Value.plane p).Showable → ∀ sharing : Sharing,
      let row := (Extractor.plane sharing).rowOf (.plane p)
      row.get? urlKey = some p.file.url ∧ row.get? seriesKey = some (toString p.series) ∧
        row.get? frameKey = some (toString p.frame) := by
    intro p hp sharing
    rw [Extractor.rowOf_plane_eq hp]
    exact ⟨rfl, rfl, rfl⟩
  obtain ⟨hurl, hseries, hframe⟩ := hget hp sharing
  obtain ⟨hurl', hseries', hframe'⟩ := hget hq sharing'
  simp only [List.forall_mem_cons, List.not_mem_nil, false_implies, implies_true, and_true,
    hurl, hseries, hframe, hurl', hseries', hframe', Option.some.injEq, Plane.beq_iff]
  have hnumber : ∀ a b : Nat, toString a = toString b ↔ a = b := fun a b => Nat.repr_inj
  rw [hnumber, hnumber]

/-- Two planes are equal exactly if they have the same row. -/
theorem plane_beq_iff_row :
    (p == q) = true ↔ (Extractor.plane sharing).rowOf (.plane p) =
      (Extractor.plane sharing').rowOf (.plane q) := by
  constructor
  · intro h
    obtain ⟨hurl, hseries, hframe⟩ := (Plane.beq_iff p q).1 h
    rw [Extractor.rowOf_plane_eq hp, Extractor.rowOf_plane_eq hq, hurl, hseries, hframe]
  · intro h
    refine (plane_beq_iff_cells hp hq sharing sharing').2 fun key _ => ?_
    rw [h]

end

/-- A plane has a row exactly if it can be shown. -/
theorem plane_row?_eq_ok_iff (p : Plane) (sharing : Sharing) {row : Row} :
    (Extractor.plane sharing).row? (.plane p) = .ok row ↔
      (Value.plane p).Showable ∧ (Extractor.plane sharing).rowOf (.plane p) = row := by
  by_cases h : (Value.plane p).Showable
  · rw [Extractor.row?_of_showable h, Except.ok.injEq]
    exact ⟨fun heq => ⟨h, heq⟩, fun heq => heq.2⟩
  · rw [Extractor.row?_plane_of_not_showable h]
    exact ⟨fun heq => (nomatch heq), fun heq => absurd heq.1 h⟩

/-! ## Observations -/

omit [CurrentDirectory] in
/-- The extractors of the look-ups in a compiled filter are built in if a given one is. -/
theorem Filter.isBuiltIn_of_compileText {extractor : Option Extractor} {type : ValueType}
    {text : String} {t : Tree} (hcompile : compileText extractor type text = .ok t)
    (hgiven : ∀ e, extractor = some e → e.IsBuiltIn) (key : String) (source : Extractor)
    (hmem : (key, source) ∈ t.lookUps) : source.IsBuiltIn := by
  rw [source_eq_of_compileText hcompile hmem]
  cases extractor with
  | none => exact Extractor.isBuiltIn_plane .own
  | some e => exact hgiven e rfl

/-- What is equal cannot be told apart, and planes that have one row are equal.  Take two planes,
with whatever documents and from whatever sound sessions.  The default extractor has a row for a
plane exactly if the plane can be shown, and a number that cannot be written otherwise; planes that
are equal come to the same, and of two planes that have rows the rows are the same exactly if the
planes are equal, and already the same URL, series and frame only then.  Take two locations that
are equal, and do with the file of each whatever there is to do, from whatever sound sessions.
Then they are equal still; every filter that is compiled with built-in extractors comes to the same
end about both, and answers if they are of its type and can be shown; every built-in extractor
comes to the same end, which is a row if they can be shown; and their hashes are the same. -/
theorem equal_candidates_observed_alike :
    (∀ (p q : Plane) (sharing sharing' : Sharing) (s s' : Session), s.Sound → s'.Sound →
      let r := (((Extractor.forType .plane sharing).extract (.plane p)).run.run s).1
      let r' := (((Extractor.forType .plane sharing').extract (.plane q)).run.run s').1
      ((∃ row, r = .ok row) ↔ (Value.plane p).Showable) ∧
      (¬(Value.plane p).Showable → r = .error .tooLong) ∧
      ((p == q) = true → r = r') ∧
      ∀ row row' : Row, r = .ok row → r' = .ok row' →
        ((p == q) = true ↔ row = row') ∧
        ((p == q) = true ↔
          ∀ key ∈ [urlKey, seriesKey, frameKey], row.get? key = row'.get? key)) ∧
    ∀ l m : Location, (Value.ofLocation l).same (.ofLocation m) = true →
      ∀ (before before' : List FileAction) (s s' : Session), s.Sound → s'.Sound →
        let a := (l.after before).run s
        let b := (m.after before').run s'
        (Value.ofLocation a.1).same (.ofLocation b.1) = true ∧
        (∀ (text : String) (type : ValueType) (extractor : Option Extractor) (f : Filter),
          (∀ e, extractor = some e → e.IsBuiltIn) →
          (Filter.ofText text type extractor).alone = .ok f →
          ((f.ask (.ofLocation a.1)).run.run a.2).1 = ((f.ask (.ofLocation b.1)).run.run b.2).1 ∧
          ((Value.ofLocation a.1).isA type = true → (Value.ofLocation l).Showable →
            ∃ passes, ((f.ask (.ofLocation a.1)).run.run a.2).1 = .ok passes)) ∧
        (∀ e : Extractor, e.IsBuiltIn →
          e.reads (.ofLocation a.1) = e.reads (.ofLocation b.1) ∧
          ((e.extract (.ofLocation a.1)).run.run a.2).1 =
            ((e.extract (.ofLocation b.1)).run.run b.2).1 ∧
          ((Value.ofLocation l).Showable →
            ∃ row, ((e.extract (.ofLocation a.1)).run.run a.2).1 = .ok row)) ∧
        ∀ h : Hashing, a.1.hashBy h = b.1.hashBy h := by
  refine ⟨?rows, ?observations⟩
  case rows =>
    intro p q sharing sharing' s s' hs hs' r r'
    have hr : r = (Extractor.plane sharing).row? (.plane p) :=
      (Extractor.answers_row? _ _).result_eq hs
    have hr' : r' = (Extractor.plane sharing').row? (.plane q) :=
      (Extractor.answers_row? _ _).result_eq hs'
    rw [hr, hr']
    refine ⟨?_, fun hshow => Extractor.row?_plane_of_not_showable hshow sharing, fun hequal => ?_,
      fun row row' hrow hrow' => ?_⟩
    · simp only [plane_row?_eq_ok_iff, exists_and_left, exists_eq', and_true]
    · obtain ⟨hurl, hseries, hframe⟩ := (Plane.beq_iff p q).1 hequal
      rw [Extractor.row?_plane_eq, Extractor.row?_plane_eq, hurl, hseries, hframe]
    · obtain ⟨hp, rfl⟩ := (plane_row?_eq_ok_iff p sharing).1 hrow
      obtain ⟨hq, rfl⟩ := (plane_row?_eq_ok_iff q sharing').1 hrow'
      exact ⟨plane_beq_iff_row hp hq sharing sharing', plane_beq_iff_cells hp hq sharing sharing'⟩
  case observations =>
    intro l m hsame before before' s s' hs hs' a b
    obtain ⟨l', hgives, hl⟩ := l.exists_gives_after before
    obtain ⟨m', hgives', hm⟩ := m.exists_gives_after before'
    obtain ⟨s₁, hrun, hs₁⟩ := hgives s hs
    obtain ⟨s₁', hrun', hs₁'⟩ := hgives' s' hs'
    have ha : a = (l', s₁) := hrun
    have hb : b = (m', s₁') := hrun'
    have hequal : l'.Equal m' := hl.symm.trans ((Location.same_iff_equal.1 hsame).trans hm)
    rw [ha, hb]
    refine ⟨Location.same_iff_equal.2 hequal, ?verdicts, ?extracts, hequal.hashBy_eq⟩
    case verdicts =>
      intro text type extractor f hgiven hfilter
      obtain ⟨t, hcompile, rfl⟩ := Filter.ofText_alone_eq_ok_iff.1 hfilter
      have hbuiltIn := Filter.isBuiltIn_of_compileText hcompile hgiven
      have hverdict : t.verdict (.ofLocation l') = t.verdict (.ofLocation m') := by
        rw [Filter.Tree.verdict, Filter.Tree.verdict, Filter.Tree.eval_eq_of_equal hequal hbuiltIn]
      have hask := (t.answers (.ofLocation l')).result_eq hs₁
      have hask' := (t.answers (.ofLocation m')).result_eq hs₁'
      refine ⟨hask.trans (hverdict.trans hask'.symm), fun htype hshow => ?_⟩
      obtain ⟨hwf, haccepts⟩ := Filter.wellFormed_of_compileText hcompile
      obtain ⟨passes, hpasses⟩ := (hwf.verdict_cases
        (fun key source hmem => (hbuiltIn key source hmem).reads_plane)
        (Value.isA_trans htype haccepts)).resolve_right fun h => h.1 (hl.showable_iff.1 hshow)
      exact ⟨passes, hask.trans hpasses⟩
    case extracts =>
      intro e he
      have hextract := Extractor.extract_eq_of_equal hequal he
      have hrow := e.answers_row? (.ofLocation l')
      have hrow' := e.answers_row? (.ofLocation l')
      rw [hextract] at hrow'
      exact ⟨Extractor.reads_eq_of_equal hequal he,
        (hrow.result_eq hs₁).trans (hrow'.result_eq hs₁').symm, fun hshow =>
        ⟨_, (e.answers_rowOf (hl.showable_iff.1 hshow)).result_eq hs₁⟩⟩

end

/-- A plane whose series cannot be written is equal to itself and has no row, and what is said of it
does not tell it from a plane with another series. -/
theorem equal_candidates_long_series_no_row :
    letI : CurrentDirectory := .root
    let p : Plane := ⟨⟨"file:///a.tif", none⟩, 10 ^ Text.digitLimit, 0⟩
    let q : Plane := ⟨⟨"file:///a.tif", none⟩, 10 ^ Text.digitLimit + 1, 0⟩
    (p == p) = true ∧ (p == q) = false ∧
      (((Extractor.forType .plane .shared).extract (.plane p)).run.run {}).1 = .error .tooLong ∧
      (((Extractor.forType .plane .shared).extract (.plane q)).run.run {}).1 = .error .tooLong := by
  let _ : CurrentDirectory := .root
  suffices h : ∀ n : Nat, ¬Text.Writable n →
      let p : Plane := ⟨⟨"file:///a.tif", none⟩, n, 0⟩
      let q : Plane := ⟨⟨"file:///a.tif", none⟩, n + 1, 0⟩
      (p == p) = true ∧ (p == q) = false ∧
        (((Extractor.forType .plane .shared).extract (.plane p)).run.run {}).1 = .error .tooLong ∧
        (((Extractor.forType .plane .shared).extract (.plane q)).run.run {}).1 =
          .error .tooLong from h _ Text.not_writable_pow
  intro n hn p q
  have hrow : ∀ p : Plane, ¬Text.Writable p.series →
      (((Extractor.forType .plane .shared).extract (.plane p)).run.run {}).1 =
        .error .tooLong := by
    intro p hp
    refine ((Extractor.answers_row? _ _).result_eq Session.sound_empty).trans
      (Extractor.row?_plane_of_not_showable (fun hshow => hp ?_) .shared)
    exact ((Value.showable_plane_iff _).1 hshow).1
  refine ⟨(Plane.beq_iff _ _).2 ⟨rfl, rfl, rfl⟩, ?_, hrow p hn,
    hrow q fun h => hn (h.mono (Nat.le_succ n))⟩
  rw [← Bool.not_eq_true, Plane.beq_iff]
  exact fun h => absurd h.2.1 (Nat.ne_of_lt (Nat.lt_succ_self n))

/-- The statement for planes of a file and of its copy, which was asked for its names and then
carries a document. -/
theorem equal_candidates_observed_alike_copy :
    letI : CurrentDirectory := .root
    let p : Plane := ⟨⟨"file:///a.tif", none⟩, 10, 0⟩
    let q : Plane := ⟨⟨"file:///a.tif", none⟩, 10, 0⟩
    let before : List FileAction := [.fileName, .attach (.element ⟨"OME", [], []⟩), .pathName]
    let b := ((Location.plane q).after before).run {}
    (p == q) = true ∧
    (∃ row, (((Extractor.forType .plane .shared).extract (.plane p)).run.run {}).1 = .ok row ∧
      (((Extractor.forType .plane .own).extract (.plane q)).run.run {}).1 = .ok row) ∧
    ∃ f : Filter, (Filter.ofText "metadata[Series] eq \"10\"" .plane none).alone = .ok f ∧
      ((f.ask (.plane p)).run.run {}).1 = ((f.ask (.ofLocation b.1)).run.run b.2).1 := by
  let _ : CurrentDirectory := .root
  intro p q before b
  obtain ⟨hrows, hobserved⟩ := equal_candidates_observed_alike
  have hequal : (p == q) = true := (Plane.beq_iff p q).2 ⟨rfl, rfl, rfl⟩
  have hshow : (Value.plane p).Showable :=
    (Value.showable_plane_iff p).2 ⟨by decide, by decide⟩
  obtain ⟨hexists, -, hsame, -⟩ :=
    hrows p q .shared .own {} {} Session.sound_empty Session.sound_empty
  obtain ⟨row, hrow⟩ := hexists.2 hshow
  have hlocations : (Value.ofLocation (.plane p)).same (.ofLocation (.plane q)) = true :=
    Location.same_iff_equal.2 (.plane _ _ _ _ _)
  obtain ⟨-, hverdict, -, -⟩ := hobserved (.plane p) (.plane q) hlocations [] before {} {}
    Session.sound_empty Session.sound_empty
  let l : Filter.LiteralTest := ⟨.eq, "10", none, rfl⟩
  have hcompile : Filter.compileText none .plane "metadata[Series] eq \"10\"" =
      .ok (.branch (.metadata "Series" (.plane .own)) [.leaf l]) :=
    Filter.compileText_eq_ok_iff.2 ⟨[⟨.symbol "metadata" (some "Series"), 0⟩,
      ⟨.symbol "eq" none, 17⟩, ⟨.literal "10", 20⟩], by decide +kernel, by with_unfolding_all rfl⟩
  have hfilter := Filter.ofText_alone_eq_ok_iff.2 ⟨_, hcompile, rfl⟩
  exact ⟨hequal, ⟨row, hrow, (hsame hequal).symm.trans hrow⟩, _, hfilter,
    (hverdict _ _ none _ (by simp) hfilter).1⟩

end ImageSelect
