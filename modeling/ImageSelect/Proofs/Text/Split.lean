import ImageSelect.Text.Split

/-!
# Where a text is cut

A cut at the first separator leaves none before it, a cut at the last one leaves
none behind it, and the pieces between separators hold none.  So each cut finds
the place where two texts without the separator were put together.
-/

namespace ImageSelect.Text

variable {sep : Char} {text before after : List Char}

/-! ## The first separator -/

theorem cut_of_not_mem (h : sep ∉ text) : cut sep text = (text, none) := by
  induction text with
  | nil => rfl
  | cons c rest ih =>
    obtain ⟨hc, hrest⟩ := List.ne_and_not_mem_of_not_mem_cons h
    rw [cut, if_neg (Ne.symm hc), ih hrest]

theorem cut_append (h : sep ∉ before) :
    cut sep (before ++ sep :: after) = (before, some after) := by
  induction before with
  | nil => rw [List.nil_append, cut, if_pos rfl]
  | cons c rest ih =>
    obtain ⟨hc, hrest⟩ := List.ne_and_not_mem_of_not_mem_cons h
    rw [List.cons_append, cut, if_neg (Ne.symm hc), ih hrest]

/-- A text has no separator, or one that no other comes before. -/
theorem not_mem_or_exists_append (sep : Char) (text : List Char) :
    sep ∉ text ∨ ∃ before after, text = before ++ sep :: after ∧ sep ∉ before := by
  by_cases h : sep ∈ text
  · exact .inr (List.eq_append_cons_of_mem h)
  · exact .inl h

theorem cut_eq_some (h : cut sep text = (before, some after)) :
    text = before ++ sep :: after ∧ sep ∉ before := by
  rcases not_mem_or_exists_append sep text with hno | ⟨before', after', rfl, hno⟩
  · rw [cut_of_not_mem hno] at h
    cases h
  · rw [cut_append hno] at h
    cases h
    exact ⟨rfl, hno⟩

theorem cut_eq_none (h : cut sep text = (before, none)) : text = before ∧ sep ∉ before := by
  rcases not_mem_or_exists_append sep text with hno | ⟨before', after', rfl, hno⟩
  · rw [cut_of_not_mem hno] at h
    cases h
    exact ⟨rfl, hno⟩
  · rw [cut_append hno] at h
    cases h

/-! ## The last separator -/

theorem cutLast_of_not_mem (h : sep ∉ text) : cutLast sep text = (none, text) := by
  induction text with
  | nil => rfl
  | cons c rest ih =>
    obtain ⟨hc, hrest⟩ := List.ne_and_not_mem_of_not_mem_cons h
    rw [cutLast, ih hrest]
    dsimp only
    rw [if_neg (Ne.symm hc)]

theorem cutLast_append (h : sep ∉ after) :
    cutLast sep (before ++ sep :: after) = (some before, after) := by
  induction before with
  | nil =>
    rw [List.nil_append, cutLast, cutLast_of_not_mem h]
    dsimp only
    rw [if_pos rfl]
  | cons c rest ih => rw [List.cons_append, cutLast, ih]

/-- A text with a separator has a last one. -/
theorem exists_append_of_mem (h : sep ∈ text) :
    ∃ before after, text = before ++ sep :: after ∧ sep ∉ after := by
  obtain ⟨before, after, hreverse, hno⟩ := List.eq_append_cons_of_mem (List.mem_reverse.2 h)
  refine ⟨after.reverse, before.reverse, ?_, by rwa [List.mem_reverse]⟩
  rw [← List.reverse_reverse text, hreverse]
  simp

/-- The text behind the last separator has none. -/
theorem not_mem_cutLast (sep : Char) (text : List Char) : sep ∉ (cutLast sep text).2 := by
  by_cases h : sep ∈ text
  · obtain ⟨before, after, rfl, hno⟩ := exists_append_of_mem h
    rwa [cutLast_append hno]
  · rwa [cutLast_of_not_mem h]

/-- The two texts around the last separator make the text. -/
theorem cutLast_join (h : sep ∈ text) :
    (cutLast sep text).1.getD [] ++ sep :: (cutLast sep text).2 = text := by
  obtain ⟨before, after, rfl, hno⟩ := exists_append_of_mem h
  rw [cutLast_append hno]
  rfl

/-! ## Pieces -/

theorem pieces_of_not_mem (h : sep ∉ text) : pieces sep text = [text] := by
  induction text with
  | nil => rfl
  | cons c rest ih =>
    obtain ⟨hc, hrest⟩ := List.ne_and_not_mem_of_not_mem_cons h
    rw [pieces, if_neg (Ne.symm hc), ih hrest]

theorem pieces_append (h : sep ∉ before) :
    pieces sep (before ++ sep :: after) = before :: pieces sep after := by
  induction before with
  | nil => rw [List.nil_append, pieces, if_pos rfl]
  | cons c rest ih =>
    obtain ⟨hc, hrest⟩ := List.ne_and_not_mem_of_not_mem_cons h
    rw [List.cons_append, pieces, if_neg (Ne.symm hc), ih hrest]

/-- No piece has a separator. -/
theorem not_mem_of_mem_pieces {piece : List Char} (h : piece ∈ pieces sep text) : sep ∉ piece := by
  induction text generalizing piece with
  | nil =>
    obtain rfl := List.mem_singleton.1 h
    exact List.not_mem_nil
  | cons c rest ih =>
    rw [pieces] at h
    split at h
    · rcases List.mem_cons.1 h with rfl | h
      · exact List.not_mem_nil
      · exact ih h
    · rename_i hc
      obtain ⟨first, more, hfirst⟩ := List.exists_cons_of_ne_nil (pieces_ne_nil sep rest)
      rw [hfirst] at h ih
      rcases List.mem_cons.1 h with rfl | h
      · exact List.not_mem_cons_of_ne_of_not_mem (Ne.symm hc) (ih List.mem_cons_self)
      · exact ih (List.mem_cons_of_mem _ h)

/-- Pieces without separators are found again where they were joined. -/
theorem pieces_join {names : List (List Char)} (hne : names ≠ [])
    (h : ∀ name ∈ names, sep ∉ name) : pieces sep (join sep names) = names := by
  induction names with
  | nil => exact absurd rfl hne
  | cons name more ih =>
    obtain ⟨hname, hmore⟩ := List.forall_mem_cons.1 h
    cases more with
    | nil => rw [join, pieces_of_not_mem hname]
    | cons next more =>
      rw [join, pieces_append hname, ih (List.cons_ne_nil _ _) hmore]
      exact List.cons_ne_nil _ _

theorem join_cons_eq (sep : Char) (name : List Char) (more : List (List Char)) :
    join sep (name :: more) =
      name ++ (if more = [] then [] else sep :: join sep more) := by
  cases more with
  | nil => rw [if_pos rfl, List.append_nil, join]
  | cons next more =>
    rw [if_neg (List.cons_ne_nil _ _), join]
    exact List.cons_ne_nil _ _

theorem join_concat {names : List (List Char)} (hne : names ≠ []) (name : List Char) :
    join sep (names ++ [name]) = join sep names ++ sep :: name := by
  induction names with
  | nil => exact absurd rfl hne
  | cons first more ih =>
    rw [List.cons_append, join_cons_eq, join_cons_eq, if_neg (by simp)]
    cases more with
    | nil => rw [List.nil_append, if_pos rfl, List.append_nil, join]
    | cons next more =>
      rw [ih (List.cons_ne_nil _ _), if_neg (List.cons_ne_nil _ _), List.append_assoc,
        List.cons_append]

end ImageSelect.Text
