import ImageSelect.Proofs.CommandLine.Refusal

/-!
# What has been checked selects

The program compiles its expression by itself before it does anything else, and once more,
with the extractor for its candidates, where it selects.  The two extractors need not declare
the same keys: the one for files declares neither the URL nor the numbers of a plane.  They
agree all the same, because an expression over files looks nothing up, and for planes the
keys are those of the extractor that serves without one.

* `compiles_iff_forType`: the expression compiles by itself exactly if it compiles there.
* `answers_ask_forType`: both filters have the verdicts of one tree.
* `Settings.run_of_not_compiles`: an expression that does not compile ends the run before
  anything is written but the refusal.
-/

namespace ImageSelect

section
variable {text : String} {type : ValueType} {sharing : Sharing} {t : Filter.Tree}

/-! ## Compiling twice -/

/-- A text comes to the same filter in all sessions. -/
theorem Filter.ofText_run_eq_ok_iff {extractor : Option Extractor} {s : Session} {f : Filter} :
    ((ofText text type extractor).run s).1 = .ok f ↔
      ∃ t, compileText extractor type text = .ok t ∧ f = ⟨text, type, t⟩ := by
  unfold ofText
  cases hcompile : compileText extractor type text with
  | error why =>
    constructor
    · intro h
      cases h
    · rintro ⟨t, ht, -⟩
      cases ht
  | ok t =>
    constructor
    · intro h
      exact ⟨t, rfl, (Except.ok.inj h).symm⟩
    · rintro ⟨t', ht, rfl⟩
      obtain rfl := Except.ok.inj ht
      rfl

/-- A text compiles by itself exactly if it compiles with the extractor for its candidates. -/
theorem Filter.compiles_iff_forType (text : String) (type : ValueType) (sharing : Sharing) :
    (∃ t, compileText none type text = .ok t) ↔
      ∃ t, compileText (some (.forType type sharing)) type text = .ok t := by
  constructor
  · intro h
    obtain ⟨t, ht⟩ := h
    exact ⟨_, compileText_forType ht sharing⟩
  · intro h
    obtain ⟨t, ht⟩ := h
    exact ⟨_, compileText_of_forType ht⟩

theorem Filter.exists_ofText_iff {extractor : Option Extractor} (s : Session) :
    (∃ f, ((ofText text type extractor).run s).1 = .ok f) ↔
      ∃ t, compileText extractor type text = .ok t := by
  simp only [ofText_run_eq_ok_iff]
  constructor
  · intro h
    obtain ⟨_, t, ht, -⟩ := h
    exact ⟨t, ht⟩
  · intro h
    obtain ⟨t, ht⟩ := h
    exact ⟨_, t, ht, rfl⟩

/-! ## The two filters -/

/-- With the extractor for the candidates a filter answers as it does by itself. -/
theorem Filter.answers_ask_forType [CurrentDirectory] (h : compileText none type text = .ok t)
    (sharing : Sharing) (v : Value) :
    Answers (Filter.ask ⟨text, type, t⟩ v) (t.verdict v) ∧
      Answers (Filter.ask ⟨text, type, t.withSource (.forType type sharing)⟩ v) (t.verdict v) :=
  ⟨t.answers v, verdict_forType h sharing v ▸ (t.withSource (.forType type sharing)).answers v⟩

end

namespace CommandLine

/-! ## Runs -/

section
variable [CurrentDirectory]

/-- An expression that does not compile ends the run before logging is set up or an input is
read: nothing is written but the refusal. -/
theorem Settings.run_of_not_compiles {s : Settings}
    (h : ¬∃ t, Filter.compileText none s.candidateType s.expression = .ok t)
    (around : Surroundings) :
    ∃ refusal, (s.run around).output = { stderr := refusal } := by
  unfold Settings.run
  cases hcompile : Filter.compileText none s.candidateType s.expression with
  | ok t => exact absurd ⟨t, hcompile⟩ h
  | error e =>
    cases e with
    | expression why => exact ⟨_, rfl⟩
    | pattern why => exact ⟨"", rfl⟩

/-- Checking an expression by itself agrees with compiling it for the selection.  Over planes
and over files it compiles by itself exactly if it compiles with the extractor for its
candidates, whosever strings that extractor uses and whatever they are, and then both filters
come to the same about every candidate: an answer, or a number that cannot be written.  An
expression that does not compile ends a run before it has written anything but the refusal.  If
the expression compiles, then whatever is read after logging is set up, the run does not end for
the expression's sake, and with counts that can be written not in the selection at all; selecting
from any supply comes to a selection, unless a candidate cannot be shown. -/
theorem checked_expression_selects (text : String) {type : ValueType}
    (htype : type = .plane ∨ type = .file) (sharing : Sharing) (s₁ s₂ : Session) :
    ((∃ f, ((Filter.ofText text type none).run s₁).1 = .ok f) ↔
      ∃ g, ((Filter.ofText text type (some (.forType type sharing))).run s₂).1 = .ok g) ∧
    (∀ f g, ((Filter.ofText text type none).run s₁).1 = .ok f →
      ((Filter.ofText text type (some (.forType type sharing))).run s₂).1 = .ok g →
      ∀ v : Value, v.isA type = true →
        ∃ r, Answers (f.ask v) r ∧ Answers (g.ask v) r ∧
          ((∃ passes, r = .ok passes) ∨ ¬v.Showable ∧ r = .error (.number .tooLong))) ∧
    (∀ s : Settings, s.expression = text → s.candidateType = type →
      ((¬∃ f, ((Filter.ofText text type none).run s₁).1 = .ok f) → ∀ around,
        ∃ refusal, (s.run around).output = { stderr := refusal }) ∧
      ((∃ f, ((Filter.ofText text type none).run s₁).1 = .ok f) →
        (∀ around setup out, (selectAndWrite s around setup out).conclusion.SparesExpression ∧
          (s.CountsWritable → ∀ why,
            (selectAndWrite s around setup out).conclusion ≠ .broken (.selection why))) ∧
        ∀ supply candidates, List.Forall₂ Gives supply candidates →
          ∃ r, Answers (selectFrom text supply (some (.forType type sharing)) type) r ∧
            ((∃ selection, r = .ok selection) ∨
              (∃ v ∈ candidates, ¬v.Showable) ∧ ∃ why, why.IsTooLong ∧ r = .error why))) := by
  simp only [Filter.exists_ofText_iff]
  refine ⟨Filter.compiles_iff_forType text type sharing, ?agree, ?runs⟩
  case agree =>
    intro f g hf hg v hv
    obtain ⟨t, ht, rfl⟩ := Filter.ofText_run_eq_ok_iff.1 hf
    obtain ⟨t', ht', rfl⟩ := Filter.ofText_run_eq_ok_iff.1 hg
    obtain rfl := Except.ok.inj ((Filter.compileText_forType ht sharing).symm.trans ht')
    obtain ⟨hf, hg⟩ := Filter.answers_ask_forType ht sharing v
    exact ⟨t.verdict v, hf, hg,
      (Filter.verdict_forType_cases ht htype hv).imp_left fun hverdict => ⟨_, hverdict⟩⟩
  case runs =>
    rintro s rfl rfl
    refine ⟨Settings.run_of_not_compiles, fun hcompiles => ?_⟩
    obtain ⟨t, ht⟩ := hcompiles
    exact ⟨fun around setup out => ⟨selectAndWrite_sparesExpression ht around setup out,
      fun hcounts => selectAndWrite_ne_selection hcounts ht around setup out⟩,
      fun supply candidates => exists_answers_selectFrom_forType ht htype sharing⟩

end

/-- The statement for a look-up of the series of planes. -/
theorem checked_expression_selects_series :
    letI : CurrentDirectory := .root
    let text := "metadata[Series] eq \"1\""
    let s : Settings := { expression := text, inputs := ["a.tif"] }
    let p : Plane := ⟨⟨"file:///a.tif", none⟩, 1, 0⟩
    (∃ f g, ((Filter.ofText text .plane none).run {}).1 = .ok f ∧
      ((Filter.ofText text .plane (some (.forType .plane .shared))).run {}).1 = .ok g ∧
      ∃ passes, Answers (f.ask (.plane p)) (.ok passes) ∧
        Answers (g.ask (.plane p)) (.ok passes)) ∧
    (∀ around setup out, (selectAndWrite s around setup out).conclusion.SparesExpression) ∧
    ∃ selection, Answers (selectFrom text [return .plane p] (some (.forType .plane .shared))
      .plane) (.ok selection) := by
  let _ : CurrentDirectory := .root
  intro text s p
  let l : Filter.LiteralTest := ⟨.eq, "1", none, rfl⟩
  have hcompile : Filter.compileText none .plane text =
      .ok (.branch (.metadata "Series" (.plane .own)) [.leaf l]) :=
    Filter.compileText_eq_ok_iff.2 ⟨[⟨.symbol "metadata" (some "Series"), 0⟩,
      ⟨.symbol "eq" none, 17⟩, ⟨.literal "1", 20⟩], by decide +kernel, by with_unfolding_all rfl⟩
  have hshow : (Value.plane p).Showable :=
    (Value.showable_plane_iff p).2 ⟨by decide, by decide⟩
  obtain ⟨hiff, hagree, hruns⟩ := checked_expression_selects text (.inl rfl) .shared {} {}
  have hf := Filter.ofText_run_eq_ok_iff (s := {}).2 ⟨_, hcompile, rfl⟩
  obtain ⟨g, hg⟩ := hiff.1 ⟨_, hf⟩
  obtain ⟨-, hselects⟩ := hruns s rfl rfl
  obtain ⟨hspares, hsupply⟩ := hselects ⟨_, hf⟩
  refine ⟨⟨_, g, hf, hg, ?_⟩, fun around setup out => (hspares around setup out).1, ?_⟩
  · obtain ⟨r, hfr, hgr, ⟨passes, rfl⟩ | ⟨hnot, -⟩⟩ := hagree _ _ hf hg (.plane p) rfl
    · exact ⟨passes, hfr, hgr⟩
    · exact absurd hshow hnot
  · obtain ⟨r, hr, ⟨selection, rfl⟩ | ⟨⟨v, hv, hnot⟩, -⟩⟩ :=
      hsupply _ [.plane p] (.cons (.pure _) .nil)
    · exact ⟨selection, hr⟩
    · obtain rfl := List.mem_singleton.1 hv
      exact absurd hshow hnot

end CommandLine

end ImageSelect
