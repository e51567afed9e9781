import ImageSelect.Proofs.Text.Integer
import ImageSelect.Value

/-!
# Values that can be shown

A file or a text can always be shown, a plane when its two numbers can be
written, and what can be shown can be described.
-/

namespace ImageSelect.Value

@[simp] theorem showable_file (f : ImageFile) : (file f).Showable := by
  rw [Showable, shown]
  exact ⟨_, rfl⟩

@[simp] theorem showable_text (s : String) : (text s).Showable := by
  rw [Showable, shown]
  exact ⟨_, rfl⟩

/-- A plane can be shown when its numbers can be written. -/
theorem showable_plane_iff (p : Plane) :
    (plane p).Showable ↔ Text.Writable p.series ∧ Text.Writable p.frame := by
  rw [Showable, shown]
  constructor
  · rintro ⟨form, h⟩
    by_cases hseries : Text.Writable p.series
    · by_cases hframe : Text.Writable p.frame
      · exact ⟨hseries, hframe⟩
      · rw [Text.writeNumber_of_writable hseries, Text.writeNumber_of_not_writable hframe] at h
        cases h
    · rw [Text.writeNumber_of_not_writable hseries] at h
      cases h
  · rintro ⟨hseries, hframe⟩
    rw [Text.writeNumber_of_writable hseries, Text.writeNumber_of_writable hframe]
    exact ⟨_, rfl⟩

theorem showable_integer_iff (n : Int) : (integer n).Showable ↔ Text.Writable n.natAbs := by
  rw [Showable, shown, Text.writeInteger]
  split
  · rename_i h
    exact iff_of_true ⟨_, rfl⟩ h
  · rename_i h
    exact iff_of_false (fun ⟨_, hform⟩ => nomatch hform) h

section
variable {v : Value} {l : Location} (h : v.Showable) (hl : v.location? = some l)
include h hl

theorem Showable.series : ∀ n ∈ l.series?, Text.Writable n := by
  intro n hn
  cases v <;> cases hl
  · obtain rfl := Option.some.inj hn
    exact ((showable_plane_iff _).1 h).1
  · cases hn

theorem Showable.frame : ∀ n ∈ l.frame?, Text.Writable n := by
  intro n hn
  cases v <;> cases hl
  · obtain rfl := Option.some.inj hn
    exact ((showable_plane_iff _).1 h).2
  · cases hn

end

/-- What can be shown can be described. -/
theorem Showable.describe {v : Value} (h : v.Showable) : ∃ text, v.describe = .ok text := by
  cases v with
  | plane p =>
    obtain ⟨hseries, hframe⟩ := (showable_plane_iff p).1 h
    rw [Value.describe, Location.describe, Text.writeNumber_of_writable hseries,
      Text.writeNumber_of_writable hframe]
    exact ⟨_, rfl⟩
  | file f => exact ⟨_, rfl⟩
  | text s => exact ⟨_, rfl⟩
  | _ => exact h

end ImageSelect.Value
