import Mathlib.Data.List.Nodup
import ImageSelect.Metadata.Row

/-!
# Rows that are merged

Setting a key that is there keeps its place, so the order in which keys are set shows only in the
place of the new ones.

* `Row.set_comm` and `Row.merge_set` say when settings can change their order.
* `Row.merge_merge`: rows can be merged from the left or from the right, provided that the one in
  the middle has distinct keys.  Without this the last of two values in the middle would count on
  one side and the place of the first on the other.
* `Row.merge_of_disjoint`: rows without a common key stand one behind the other.
* `Row.get?_of_mem` and the lemmas behind it read rows with distinct keys.
-/

namespace ImageSelect.Row

variable {row acc : Row} {key key' value value' : String}

/-! ## Setting a key -/

theorem keys_set (row : Row) (key value : String) :
    (row.set key value).keys = if key ∈ row.keys then row.keys else row.keys ++ [key] := by
  obtain ⟨cells⟩ := row
  unfold set keys
  dsimp only
  induction cells with
  | nil => rfl
  | cons cell cells ih =>
    rw [setCell]
    by_cases hkey : cell.1 = key
    · simp [hkey]
    · have hkey' : ¬key = cell.1 := fun h => hkey h.symm
      simp only [if_neg hkey, List.map_cons, ih, List.mem_cons, hkey', false_or]
      split <;> simp

theorem mem_keys_set : key' ∈ (row.set key value).keys ↔ key' = key ∨ key' ∈ row.keys := by
  rw [keys_set]
  by_cases hkey : key ∈ row.keys
  · rw [if_pos hkey]
    constructor
    · exact .inr
    · rintro (rfl | hmem)
      · exact hkey
      · exact hmem
  · rw [if_neg hkey, List.mem_append, List.mem_singleton, or_comm]

theorem nodup_keys_set (h : row.keys.Nodup) (key value : String) :
    (row.set key value).keys.Nodup := by
  rw [keys_set]
  split
  · exact h
  · rename_i hkey
    rw [← List.concat_eq_append]
    exact h.concat hkey

/-- A new key comes last. -/
theorem cells_set_of_not_mem (h : key ∉ row.keys) :
    (row.set key value).cells = row.cells ++ [(key, value)] := by
  obtain ⟨cells⟩ := row
  change setCell key value cells = cells ++ [(key, value)]
  induction cells with
  | nil => rfl
  | cons cell cells ih =>
    obtain ⟨hcell, hcells⟩ : key ≠ cell.1 ∧ key ∉ keys ⟨cells⟩ := by
      simpa [keys] using h
    rw [setCell, if_neg hcell.symm, ih hcells, List.cons_append]

/-- The last value of a key counts. -/
theorem set_set (row : Row) (key value value' : String) :
    (row.set key value).set key value' = row.set key value' := by
  obtain ⟨cells⟩ := row
  unfold set
  congr 1
  induction cells with
  | nil => simp [setCell]
  | cons cell cells ih =>
    by_cases hkey : cell.1 = key
    · simp [setCell, hkey]
    · simp [setCell, hkey, ih]

/-- A key that is there can be set before another one or after it. -/
theorem set_comm (h : key ∈ row.keys) (hne : key' ≠ key) :
    (row.set key' value').set key value = (row.set key value).set key' value' := by
  obtain ⟨cells⟩ := row
  unfold set
  congr 1
  induction cells with
  | nil => simp [keys] at h
  | cons cell cells ih =>
    by_cases hkey : cell.1 = key
    · have hkey' : ¬key = key' := fun h => hne h.symm
      simp [setCell, hkey, hkey']
    · have hmem : key ∈ keys ⟨cells⟩ := by
        have hcell : ¬key = cell.1 := fun h => hkey h.symm
        simpa [keys, hcell] using h
      by_cases hkey' : cell.1 = key'
      · simp [setCell, hkey', hne]
      · simp [setCell, hkey, hkey', ih hmem]

/-! ## Merging rows -/

theorem nodup_keys_empty : ({} : Row).keys.Nodup :=
  List.nodup_nil

@[simp] theorem merge_empty (row : Row) : row.merge {} = row :=
  rfl

theorem merge_cons (row : Row) (cell : String × String) (cells : List (String × String)) :
    row.merge ⟨cell :: cells⟩ = (row.set cell.1 cell.2).merge ⟨cells⟩ :=
  rfl

theorem merge_append (row : Row) (cells more : List (String × String)) :
    row.merge ⟨cells ++ more⟩ = (row.merge ⟨cells⟩).merge ⟨more⟩ :=
  List.foldl_append

theorem nodup_keys_merge (h : row.keys.Nodup) (other : Row) : (row.merge other).keys.Nodup := by
  obtain ⟨cells⟩ := other
  induction cells generalizing row with
  | nil => exact h
  | cons cell cells ih =>
    rw [merge_cons]
    exact ih (nodup_keys_set h _ _)

/-- A key that is there can be set before a row without it is merged or after that. -/
theorem merge_set_of_mem (hmem : key ∈ row.keys) (hnot : key ∉ acc.keys) :
    (row.merge acc).set key value = (row.set key value).merge acc := by
  obtain ⟨cells⟩ := acc
  induction cells generalizing row with
  | nil => rfl
  | cons cell cells ih =>
    obtain ⟨hcell, hcells⟩ : key ≠ cell.1 ∧ key ∉ keys ⟨cells⟩ := by
      simpa [keys] using hnot
    rw [merge_cons, ih (mem_keys_set.2 (.inr hmem)) hcells, set_comm hmem hcell.symm, merge_cons]

/-- A key can be set in a row before it is merged or after that. -/
theorem merge_set (h : acc.keys.Nodup) (row : Row) (key value : String) :
    row.merge (acc.set key value) = (row.merge acc).set key value := by
  obtain ⟨cells⟩ := acc
  change row.merge ⟨setCell key value cells⟩ = _
  induction cells generalizing row with
  | nil => rfl
  | cons cell cells ih =>
    obtain ⟨hcell, hcells⟩ : cell.1 ∉ keys ⟨cells⟩ ∧ (keys ⟨cells⟩).Nodup := List.nodup_cons.1 h
    rw [setCell]
    by_cases hkey : cell.1 = key
    -- The key does not come again behind its cell, so it can be set again after all that follows.
    · subst hkey
      rw [if_pos rfl, merge_cons, merge_cons,
        merge_set_of_mem (mem_keys_set.2 (.inl rfl)) hcell, set_set]
    · rw [if_neg hkey, merge_cons, merge_cons, ih _ hcells]

/-- Three rows can be merged from either side. -/
theorem merge_merge (h : acc.keys.Nodup) (row more : Row) :
    row.merge (acc.merge more) = (row.merge acc).merge more := by
  obtain ⟨cells⟩ := more
  induction cells generalizing acc with
  | nil => rfl
  | cons cell cells ih =>
    rw [merge_cons, ih (nodup_keys_set h _ _), merge_set h, merge_cons]

/-- Rows without a common key stand one behind the other. -/
theorem merge_of_disjoint {other : Row} (h : (row.keys ++ other.keys).Nodup) :
    (row.merge other).cells = row.cells ++ other.cells := by
  obtain ⟨cells⟩ := other
  induction cells generalizing row with
  | nil => exact (List.append_nil _).symm
  | cons cell cells ih =>
    have hnot : cell.1 ∉ row.keys := fun hmem =>
      (List.nodup_append.1 h).2.2 _ hmem _ List.mem_cons_self rfl
    have hset : (row.set cell.1 cell.2).keys = row.keys ++ [cell.1] := by
      rw [keys_set, if_neg hnot]
    rw [merge_cons, ih (by rwa [hset, List.append_assoc]), cells_set_of_not_mem hnot,
      List.append_assoc]
    rfl

/-- A row with distinct keys is what it adds to the empty one. -/
theorem empty_merge (h : row.keys.Nodup) : ({} : Row).merge row = row := by
  have hcells : (({} : Row).merge row).cells = row.cells := merge_of_disjoint h
  exact congrArg Row.mk hcells

/-! ## Reading rows with distinct keys -/

/-- The value of a key is that of its only cell. -/
theorem get?_of_mem (hnodup : row.keys.Nodup) (hmem : (key, value) ∈ row.cells) :
    row.get? key = some value := by
  obtain ⟨cells⟩ := row
  induction cells with
  | nil => simp at hmem
  | cons cell cells ih =>
    have hkeys : cell.1 ∉ cells.map (·.1) ∧ (cells.map (·.1)).Nodup := List.nodup_cons.1 hnodup
    rcases List.mem_cons.1 hmem with heq | hmem
    · subst heq
      simp [get?]
    · have hne : key ≠ cell.1 := by
        intro heq
        exact hkeys.1 (heq ▸ List.mem_map_of_mem hmem)
      have hrest : List.lookup key cells = some value := ih hkeys.2 hmem
      have hother : (key == cell.1) = false := by simpa using hne
      rw [get?, List.lookup_cons, hother]
      exact hrest

/-- The cells of a row with distinct keys are its keys with their values. -/
theorem cells_eq (hnodup : row.keys.Nodup) :
    row.cells = row.keys.map fun key => (key, (row.get? key).getD "") := by
  have hcell : ∀ cell ∈ row.cells, (cell.1, (row.get? cell.1).getD "") = cell := by
    intro cell hmem
    rw [get?_of_mem hnodup hmem]
    rfl
  rw [keys, List.map_map]
  exact (List.map_id _).symm.trans (List.map_congr_left fun cell hmem => (hcell cell hmem).symm)

/-- A key of a row with distinct keys has a value. -/
theorem exists_get? (hnodup : row.keys.Nodup) (hmem : key ∈ row.keys) :
    ∃ value, row.get? key = some value := by
  obtain ⟨cell, hcell, rfl⟩ := List.mem_map.1 hmem
  exact ⟨cell.2, get?_of_mem hnodup hcell⟩

end ImageSelect.Row
