import ImageSelect.Filter.Cache
import ImageSelect.Proofs.Filter.Typing
import ImageSelect.Proofs.Filter.Verdict

/-!
# Kept filters

The look-ups of a kept filter intern in strings of its own, which grow from one
question to the next.  `Kept.ask_run` says that it answers with the verdict of its
tree all the same: a tree has the same verdicts with an extractor that has the same
rows, and where an extractor interns has no part in its rows.
-/

namespace ImageSelect.Filter

variable [CurrentDirectory]

/-! ## Trees with other look-ups -/

section
variable {children : List Tree} {g : Tree → Tree} {v : Value}

theorem firstVerdict_map (symbol : String) (h : ∀ t ∈ children, (g t).verdict v = t.verdict v) :
    firstVerdict symbol (children.map g) v = firstVerdict symbol children v := by
  cases children with
  | nil => rfl
  | cons t ts => exact h t List.mem_cons_self

theorem allM_verdict_map (h : ∀ t ∈ children, (g t).verdict v = t.verdict v) :
    (children.map g).allM (Tree.verdict · v) = children.allM (Tree.verdict · v) := by
  induction children with
  | nil => rfl
  | cons t ts ih =>
    obtain ⟨ht, hts⟩ := List.forall_mem_cons.1 h
    rw [List.map_cons, List.allM, List.allM, ht, ih hts]

theorem anyM_verdict_map (h : ∀ t ∈ children, (g t).verdict v = t.verdict v) :
    (children.map g).anyM (Tree.verdict · v) = children.anyM (Tree.verdict · v) := by
  induction children with
  | nil => rfl
  | cons t ts ih =>
    obtain ⟨ht, hts⟩ := List.forall_mem_cons.1 h
    rw [List.map_cons, List.anyM, List.anyM, ht, ih hts]

theorem passingCount_map (h : ∀ t ∈ children, (g t).verdict v = t.verdict v) :
    passingCount (children.map g) v = passingCount children v := by
  induction children with
  | nil => rfl
  | cons t ts ih =>
    obtain ⟨ht, hts⟩ := List.forall_mem_cons.1 h
    rw [List.map_cons, passingCount, passingCount, ht, ih hts]

/-- The verdict of a composite is made of those of its children. -/
theorem Composite.verdict_map {c : Composite} (v : Value)
    (h : ∀ t ∈ children, ∀ w : Value, (g t).verdict w = t.verdict w) :
    c.verdict (children.map g) v = c.verdict children v := by
  have htext : ∀ symbol,
      verdict.textVerdict symbol (children.map g) = verdict.textVerdict symbol children := by
    intro symbol
    funext text?
    cases text? with
    | none => rfl
    | some s => exact firstVerdict_map symbol fun t ht => h t ht (.text s)
  have hv := fun t ht => h t ht v
  cases c with
  | connective c domain =>
    cases c <;> simp only [verdict, firstVerdict_map _ hv, allM_verdict_map hv, anyM_verdict_map hv]
  | feature f => simp only [verdict, htext]
  | metadata key source => simp only [verdict, htext]
  | quorum least most => simp only [verdict, passingCount_map hv]

end

/-- A composite looks up the same with an extractor that has the same rows. -/
theorem Composite.verdict_withSource {c : Composite} {source' : Extractor}
    (h : ∀ key source, c = .metadata key source → ∀ v : Value,
      source'.reads v = source.reads v ∧ source'.row? v = source.row? v)
    (children : List Tree) (v : Value) :
    (c.withSource source').verdict children v = c.verdict children v := by
  cases c with
  | metadata key source =>
    obtain ⟨hreads, hrow⟩ := h key source rfl v
    simp only [withSource, verdict, lookedUp, metadataOf, hreads, hrow, symbol]
  | _ => rfl

/-- A tree has the same verdicts with an extractor that has the same rows. -/
theorem Tree.verdict_withSource {t : Tree} {source' : Extractor}
    (h : ∀ key source, (key, source) ∈ t.lookUps → ∀ v : Value,
      source'.reads v = source.reads v ∧ source'.row? v = source.row? v) :
    ∀ v : Value, (t.withSource source').verdict v = t.verdict v := by
  induction t using Tree.induct with
  | leaf l => exact fun _ => rfl
  | branch c children ih =>
    intro v
    rw [withSource, withSourceAll_eq_map, verdict_branch, verdict_branch,
      Composite.verdict_map (g := Tree.withSource source')]
    · exact Composite.verdict_withSource
        (fun key source hc => h key source (mem_lookUps_branch_iff.2 (.inl hc))) children v
    · exact fun t ht => ih t ht fun key source hmem => h key source (mem_lookUps_of_mem ht hmem)

/-! ## Filters with strings of their own -/

/-- A kept filter answers with the verdict of its tree, whatever strings it has
interned, and leaves those of the session alone. -/
theorem Kept.ask_run {kept : Kept}
    (h : compileText none kept.candidates kept.text = .ok kept.tree) (v : Value) {s : Session}
    (hs : s.Sound) :
    ∃ strings s', (kept.ask v).run s = ((kept.tree.verdict v, { kept with strings }), s') ∧
      s'.Sound ∧ s'.cache = s.cache := by
  have hverdict : (kept.tree.withSource (.plane .shared)).verdict v = kept.tree.verdict v := by
    refine Tree.verdict_withSource (fun key source hmem w => ?_) v
    rw [source_eq_of_compileText h hmem]
    exact ⟨rfl, Extractor.row?_plane .shared .own w⟩
  -- The session while the filter is asked has the filter's strings.
  have hswapped : Session.Sound { s with cache := kept.strings } := hs.of_names rfl
  obtain ⟨s', hrun, hs'⟩ := (kept.tree.withSource (.plane .shared)).answers v _ hswapped
  rw [hverdict] at hrun
  have hask : (kept.ask v).run s =
      let (answer, s') := ((kept.tree.withSource (.plane .shared)).eval v).run.run
        { s with cache := kept.strings }
      ((answer, { kept with strings := s'.cache }), { s' with cache := s.cache }) := rfl
  rw [hask, hrun]
  exact ⟨s'.cache, { s' with cache := s.cache }, rfl, hs'.of_names rfl, rfl⟩

end ImageSelect.Filter
