import ImageSelect.Proofs.CommandLine.Inputs
import ImageSelect.Proofs.Filter.Refusal
import ImageSelect.Proofs.Selection.Default

/-!
# How the program reports expressions

The program compiles its expression twice, first by itself and then, with the
extractor for its candidates, where it selects.  The first time decides: what
it refuses there for the form of the expression is wrong usage, and what
compiles there compiles again and comes to an answer about each candidate.
Only the refusal of a pattern that escapes breaks a run off.
-/

namespace ImageSelect.CommandLine

theorem candidateType_cases (s : Settings) :
    s.candidateType = .plane ∨ s.candidateType = .file := by
  unfold Settings.candidateType
  cases s.filesOnly with
  | true => exact .inr rfl
  | false => exact .inl rfl

/-- How a run may end whose expression compiles: with a status, or broken off
by a file that cannot be opened or decoded, or by a number of a candidate that
cannot be written. -/
def Conclusion.SparesExpression : Conclusion → Prop
  | .exit _ => True
  | .broken (.file _) => True
  | .broken (.undecodable _) => True
  | .broken (.pattern _) => False
  | .broken (.selection why) => why.IsTooLong

section
variable [CurrentDirectory]

theorem writeTable_sparesExpression (s : Settings) (around : Surroundings)
    (setup : Logging.Setup) (out : Output) (selection : Selection) :
    (writeTable s around setup out selection).conclusion.SparesExpression := by
  unfold writeTable
  split
  · trivial
  · split <;> trivial

/-- Selecting among the inputs' candidates and writing ends as the writing does, or at a list that
is no text, or there is a candidate that cannot be shown. -/
theorem selectAndWrite_cases {s : Settings} {t : Filter.Tree}
    (h : Filter.compileText none s.candidateType s.expression = .ok t) (around : Surroundings)
    (setup : Logging.Setup) (out : Output) :
    (∃ stop, (selectAndWrite s around setup out).conclusion = .broken (.undecodable stop)) ∨
    (∃ out' selection, selectAndWrite s around setup out =
      writeTable s around setup out' selection) ∨
    (∃ inputs, ∃ v ∈ s.candidates inputs, ¬v.Showable) ∧
      ∃ why, why.IsTooLong ∧
        (selectAndWrite s around setup out).conclusion = .broken (.selection why) := by
  unfold selectAndWrite
  cases s.allInputs around out with
  | error stop => exact .inl ⟨stop, rfl⟩
  | ok inputs =>
    -- The extractor for the candidates declares all keys that were compiled before.
    obtain ⟨r, hanswers, hr⟩ := exists_answers_selectFrom_forType h (candidateType_cases s) .shared
      (forall₂_gives_pure (s.candidates inputs))
    obtain ⟨session, hselect, -⟩ := hanswers {} Session.sound_empty
    have hrun : (select s.expression (s.candidates inputs)
        (some (.forType s.candidateType .shared)) s.candidateType).run {} = (r, session) := hselect
    dsimp only
    rw [hrun]
    rcases hr with ⟨selection, rfl⟩ | ⟨hshow, why, htooLong, rfl⟩
    · exact .inr (.inl ⟨_, selection, rfl⟩)
    · exact .inr (.inr ⟨⟨inputs, hshow⟩, why, htooLong, rfl⟩)

theorem selectAndWrite_sparesExpression {s : Settings} {t : Filter.Tree}
    (h : Filter.compileText none s.candidateType s.expression = .ok t) (around : Surroundings)
    (setup : Logging.Setup) (out : Output) :
    (selectAndWrite s around setup out).conclusion.SparesExpression := by
  rcases selectAndWrite_cases h around setup out with
    ⟨stop, hstop⟩ | ⟨out', selection, hwrite⟩ | ⟨-, why, htooLong, hwhy⟩
  · rw [hstop]
    trivial
  · rw [hwrite]
    exact writeTable_sparesExpression s around setup out' selection
  · rw [hwhy]
    exact htooLong

/-- A selection among candidates with numbers that can be written does not break off. -/
theorem selectAndWrite_ne_selection {s : Settings} (hcounts : s.CountsWritable) {t : Filter.Tree}
    (h : Filter.compileText none s.candidateType s.expression = .ok t) (around : Surroundings)
    (setup : Logging.Setup) (out : Output) (why : SelectError) :
    (selectAndWrite s around setup out).conclusion ≠ .broken (.selection why) := by
  rcases selectAndWrite_cases h around setup out with
    ⟨stop, hstop⟩ | ⟨out', selection, hwrite⟩ | ⟨⟨inputs, v, hv, hnot⟩, -⟩
  · rw [hstop]
    exact fun heq => nomatch heq
  · rw [hwrite]
    unfold writeTable
    split
    · exact fun heq => nomatch heq
    · split <;> exact fun heq => nomatch heq
  · exact absurd (showable_of_mem_candidates hcounts hv) hnot

/-- The run with settings that were read and checked. -/
theorem run_of_check {arguments : List String} {around : Surroundings} {s : Settings}
    (hs : Settings.ofArguments arguments = .ok s) (hcheck : s.check around = .ok ()) :
    run arguments around = s.run around := by
  rw [run, hs]
  dsimp only
  rw [hcheck]

end

end ImageSelect.CommandLine
