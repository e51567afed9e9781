import Mathlib.Data.List.Induction

/-!
# The last entry of a kind

What a history leaves behind is often what its last entry of some kind left, provided that only
entries of other kinds came behind it.
-/

namespace ImageSelect

/-- In a list there is an entry of one kind, and all entries behind it are of another. -/
def HasLast {α : Type} (entries : List α) (kind others : α → Prop) : Prop :=
  ∃ before x after, entries = before ++ x :: after ∧ kind x ∧ ∀ y ∈ after, others y

namespace HasLast

variable {α : Type} {entries : List α} {x : α} {kind others : α → Prop}

theorem not_nil : ¬HasLast [] kind others := by
  rintro ⟨before, x, after, hsplit, -⟩
  cases before <;> cases hsplit

/-- One more entry is the last of its kind, or leaves the last one where it is. -/
theorem concat_iff :
    HasLast (entries ++ [x]) kind others ↔ kind x ∨ HasLast entries kind others ∧ others x := by
  constructor
  · rintro ⟨before, y, after, hsplit, hy, hafter⟩
    rcases List.eq_nil_or_concat after with rfl | ⟨more, z, rfl⟩
    · obtain ⟨-, hlast⟩ := List.append_inj' hsplit rfl
      obtain rfl : x = y := by simpa using hlast
      exact .inl hy
    · have hsplit' : entries ++ [x] = (before ++ y :: more) ++ [z] := by
        simpa [List.concat_eq_append] using hsplit
      obtain ⟨rfl, hlast⟩ := List.append_inj' hsplit' rfl
      obtain rfl : x = z := by simpa using hlast
      rw [List.concat_eq_append] at hafter
      exact .inr ⟨⟨before, y, more, rfl, hy, fun w hw => hafter w (List.mem_append_left _ hw)⟩,
        hafter x (List.mem_append_right _ List.mem_cons_self)⟩
  · rintro (hx | ⟨⟨before, y, after, rfl, hy, hafter⟩, hx⟩)
    · exact ⟨entries, x, [], rfl, hx, by simp⟩
    · refine ⟨before, y, after ++ [x], by simp, hy, fun z hz => ?_⟩
      rcases List.mem_append.1 hz with hz | hz
      · exact hafter z hz
      · exact List.mem_singleton.1 hz ▸ hx

/-- Where there is an entry of a kind, there is a last one. -/
theorem of_mem (hmem : x ∈ entries) (hx : kind x) : HasLast entries kind (¬kind ·) := by
  induction entries using List.reverseRecOn with
  | nil => simp at hmem
  | append_singleton entries y ih =>
    rw [concat_iff]
    by_cases hy : kind y
    · exact .inl hy
    · rcases List.mem_append.1 hmem with hmem | hmem
      · exact .inr ⟨ih hmem, hy⟩
      · exact absurd (List.mem_singleton.1 hmem ▸ hx) hy

end HasLast

end ImageSelect
