import ImageSelect.Proofs.Filter.Kept
import ImageSelect.Proofs.Selection.FilterMap
import ImageSelect.Table.Tsv

/-!
# Selecting with the default extractors

An expression may be compiled by itself, and again with the extractor for its candidates.
Both say the same of a candidate, so a selection with the default extractor holds the rows of
those candidates of which the expression by itself is true.

* `values_rowOf`: the fields of a row, by the type of the candidates.
* `verdict_forType`, `verdict_forType_cases`: what the expression by itself says.
* `exists_answers_selectFrom_forType`, `answers_select_forType`: the selection.
-/

namespace ImageSelect

theorem Value.eq_file_of_isA {v : Value} (h : v.isA .file = true) : ∃ f, v = .file f := by
  cases v with
  | file f => exact ⟨f, rfl⟩
  | _ => simp [Value.isA, Value.type, ValueType.isSubtype] at h

/-! ## Columns and fields -/

namespace Extractor

/-- The columns for candidates of a type. -/
def columnsOf : ValueType → List String
  | .plane => ["FileLocation", "Series", "Frame", "FileName", "PathName"]
  | _ => ["FileName", "PathName"]

section
variable [CurrentDirectory]

/-- The names of a URL as fields.  A name that cannot be derived is an empty field. -/
def nameFields (url : String) : List String :=
  [(Location.fileName url).toOption.getD "", (Location.pathName url).toOption.getD ""]

/-- The fields of a candidate. -/
def fieldsOf : Value → List String
  | .plane p => [p.file.url, toString p.series, toString p.frame] ++ nameFields p.file.url
  | .file f => nameFields f.url
  | _ => []

omit [CurrentDirectory] in
theorem keys_forType (type : ValueType) (sharing : Sharing) :
    (forType type sharing).keys = columnsOf type := by
  cases type <;> rfl

/-- The values of a candidate's row are its fields. -/
theorem values_rowOf {type : ValueType} (htype : type = .plane ∨ type = .file) {v : Value}
    (hv : v.isA type = true) (hshow : v.Showable) (sharing : Sharing) :
    Tsv.values (columnsOf type) ((forType type sharing).rowOf v) = fieldsOf v := by
  rw [← keys_forType type sharing]
  rcases htype with rfl | rfl
  · obtain ⟨p, rfl⟩ := Value.eq_plane_of_isA hv
    show Tsv.values _ ((plane sharing).rowOf (.plane p)) = _
    rw [rowOf_plane_eq hshow]
    rfl
  · obtain ⟨f, rfl⟩ := Value.eq_file_of_isA hv
    show Tsv.values _ ((names sharing).rowOf (.file f)) = _
    rw [rowOf_file_eq]
    rfl

end

end Extractor

/-! ## The expression by itself -/

section
variable [CurrentDirectory] {type : ValueType} {text : String} {t : Filter.Tree}
  (h : Filter.compileText none type text = .ok t)

include h

/-- A tree that was compiled without an extractor has the same verdicts with the one for the
type of the candidates. -/
theorem Filter.verdict_forType (sharing : Sharing) (v : Value) :
    (t.withSource (.forType type sharing)).verdict v = t.verdict v := by
  refine Tree.verdict_withSource (fun key source hmem w => ?_) v
  cases hplane : type.isSubtype .plane with
  | true =>
    rw [source_eq_of_compileText h hmem, Extractor.forType, if_pos hplane]
    exact ⟨rfl, Extractor.row?_plane sharing .own w⟩
  | false =>
    obtain ⟨hwf, haccepts⟩ := wellFormed_of_compileText h
    exact absurd hmem (hwf.not_mem_lookUps haccepts hplane key source)

variable (htype : type = .plane ∨ type = .file) (sharing : Sharing)
include htype

/-- It has a verdict on every candidate, unless a number cannot be written. -/
theorem Filter.verdict_forType_cases {v : Value} (hv : v.isA type = true) :
    t.verdict v = .ok (t.passes v) ∨
      ¬v.Showable ∧ t.verdict v = .error (.number .tooLong) := by
  have hcases := verdict_cases (compileText_forType h .shared)
    (fun _ => Extractor.reads_forType (htype.imp_right .inl) .shared) hv
  rwa [Tree.passes, verdict_forType h, ← Tree.passes] at hcases

/-- Selecting from a supply with the default extractor comes to a selection, or to a number of a
candidate that cannot be written. -/
theorem exists_answers_selectFrom_forType {supply : Supply} {candidates : List Value}
    (hsupply : List.Forall₂ Gives supply candidates) :
    ∃ r, Answers (selectFrom text supply (some (.forType type sharing)) type) r ∧
      ((∃ selection, r = .ok selection) ∨
        (∃ v ∈ candidates, ¬v.Showable) ∧ ∃ why, why.IsTooLong ∧ r = .error why) := by
  have hcompile := Filter.compileText_forType h sharing
  have hreads : ∀ v : Value, v.isA type = true → (Extractor.forType type sharing).reads v = true :=
    fun _ => Extractor.reads_forType (htype.imp_right .inl) sharing
  refine ⟨_, @answers_selectFrom _ _ (some (.forType type sharing)) _ _ hcompile _ _ hsupply, ?_⟩
  exact (Selection.ofList_cases hcompile hreads candidates).imp_left fun hlist => ⟨_, hlist⟩

/-- Selecting with the default extractor gives the rows of those candidates of which the
expression by itself is true. -/
theorem answers_select_forType {candidates : List Value}
    (hall : ∀ v ∈ candidates, v.isA type = true) (hshow : ∀ v ∈ candidates, v.Showable) :
    Answers (select text candidates (some (.forType type sharing)) type)
      (.ok ⟨Extractor.columnsOf type,
        (candidates.filter t.passes).map (Extractor.forType type sharing).rowOf,
        candidates.length⟩) := by
  have hcompile := Filter.compileText_forType h sharing
  have hreads : ∀ v : Value, v.isA type = true → (Extractor.forType type sharing).reads v = true :=
    fun _ => Extractor.reads_forType (htype.imp_right .inl) sharing
  have hselect := @answers_select _ _ (some (.forType type sharing)) _ _ hcompile candidates
  have hchosen : candidates.filter
      (Filter.selects ⟨text, type, t.withSource (.forType type sharing)⟩) =
        candidates.filter t.passes := by
    refine List.filter_congr fun v hv => ?_
    rw [Filter.selects, hall v hv, Bool.true_and]
    dsimp only
    rw [Filter.Tree.passes, Filter.Tree.passes, Filter.verdict_forType h]
  rwa [Option.getD_some, Selection.ofList_of_showable hcompile hreads hshow, hchosen,
    Extractor.keys_forType] at hselect

end

end ImageSelect
