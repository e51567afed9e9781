import ImageSelect.Proofs.Filter.Meaning

/-!
# Compiling with another extractor

The extractor that is given plays a part only in metadata look-ups, and there
only through the keys that it declares.  So what compiles with one extractor
compiles with another one that declares the keys which are looked up.

A tree that consumes candidates which are no planes looks nothing up: below a
connective the candidates stay what they are, and below all other composites
there are texts.
-/

namespace ImageSelect.Filter

/-! ## The same tree with another extractor -/

section
variable (source : Extractor) (c : Composite)

@[simp] theorem Composite.output_withSource : (c.withSource source).output = c.output := by
  cases c <;> rfl

@[simp] theorem Composite.admits_withSource (count : Nat) :
    (c.withSource source).admits count = c.admits count := by
  cases c <;> rfl

end

@[simp] theorem Tree.accepts_withSource (t : Tree) (source : Extractor)
    (context : Option ValueType) :
    (t.withSource source).shape.accepts context = t.shape.accepts context := by
  cases t with
  | leaf l => rfl
  | branch c children => cases c <;> rfl

/-! ## Compiling with another extractor -/

section
variable {extractor extractor' : Option Extractor} {context : ValueType}

/-- Only look-ups depend on the extractor that is given. -/
theorem Meaning.make_congr {m : Meaning} (h : m ≠ .metadata) (param : Option String) :
    m.make context param extractor = m.make context param extractor' := by
  cases m with
  | metadata => exact absurd rfl h
  | _ => cases param <;> rfl

theorem Makes.test_congr {name : String} {param : Option String} {t : TextTest}
    (h : Makes extractor context name param (.test t)) :
    Makes extractor' context name param (.test t) := by
  obtain ⟨m, hm, hmake⟩ := h
  have hne : m ≠ .metadata := by
    intro h
    subst h
    simp [Meaning.make_metadata_eq_ok_iff] at hmake
  exact ⟨m, hm, (Meaning.make_congr hne param).symm.trans hmake⟩

theorem Makes.withSource {name : String} {param : Option String} {c : Composite}
    (h : Makes extractor context name param (.composite c))
    (hkey : ∀ key source, c = .metadata key source → key ∈ (lookUpSource extractor').keys) :
    Makes extractor' context name param
      (.composite (c.withSource (lookUpSource extractor'))) := by
  cases c with
  | metadata key source =>
    obtain ⟨hm, rfl, hne, -, -⟩ := Makes.metadata_iff.1 h
    exact Makes.metadata_iff.2 ⟨hm, rfl, hne, hkey key source rfl, rfl⟩
  | _ =>
    obtain ⟨m, hm, hmake⟩ := h
    have hne : m ≠ .metadata := by
      intro h
      subst h
      simp [Meaning.make_metadata_eq_ok_iff] at hmake
    exact ⟨m, hm, (Meaning.make_congr hne param).symm.trans hmake⟩

end

mutual

/-- What an expression stands for with one extractor it stands for with another
one that declares the keys. -/
theorem Denotes.withSource {extractor extractor' : Option Extractor} {context : ValueType}
    {e : Expr} {t : Tree} (h : Denotes extractor context e t)
    (hkeys : ∀ key source, (key, source) ∈ t.lookUps → key ∈ (lookUpSource extractor').keys) :
    Denotes extractor' context e (t.withSource (lookUpSource extractor')) := by
  cases h with
  | literal l made => exact .literal l made.test_congr
  | @composite _ _ _ c _ children made inner admitted fed =>
    refine .composite (made.withSource fun key source hc =>
      hkeys key source (Tree.mem_lookUps_branch_iff.2 (.inl hc))) ?_ ?_ ?_
    · rw [Composite.output_withSource]
      exact inner.withSource fun key source hmem =>
        hkeys key source (Tree.mem_lookUps_branch_iff.2 (.inr hmem))
    · rw [Composite.admits_withSource, withSourceAll_eq_map, List.length_map]
      exact admitted
    · intro t' ht'
      rw [withSourceAll_eq_map] at ht'
      obtain ⟨t, ht, rfl⟩ := List.mem_map.1 ht'
      rw [Composite.output_withSource, Tree.accepts_withSource]
      exact fed t ht

theorem DenotesAll.withSource {extractor extractor' : Option Extractor} {context : ValueType}
    {es : List Expr} {ts : List Tree} (h : DenotesAll extractor context es ts)
    (hkeys : ∀ key source, (key, source) ∈ lookUpsAll ts →
      key ∈ (lookUpSource extractor').keys) :
    DenotesAll extractor' context es (withSourceAll (lookUpSource extractor') ts) := by
  cases h with
  | nil => exact .nil
  | cons head tail =>
    exact .cons
      (head.withSource fun key source hmem => hkeys key source (List.mem_append_left _ hmem))
      (tail.withSource fun key source hmem => hkeys key source (List.mem_append_right _ hmem))

end

/-! ## The extractor for the type of the candidates -/

/-- A look-up has a key that its extractor declares. -/
theorem Tree.WellFormed.key_mem {t : Tree} (h : t.WellFormed) {key : String}
    {source : Extractor} (hmem : (key, source) ∈ t.lookUps) : key ∈ source.keys := by
  induction h with
  | leaf known => simp [Tree.lookUps] at hmem
  | branch known admitted fed below ih =>
    rcases Tree.mem_lookUps_branch_iff.1 hmem with heq | hmem
    · subst heq
      exact known
    · rw [lookUpsAll_eq_flatMap] at hmem
      obtain ⟨t, ht, hmem⟩ := List.mem_flatMap.1 hmem
      exact ih t ht hmem

/-- A composite that consumes what is no plane supplies what is no plane. -/
theorem Composite.output_isSubtype_plane {c : Composite} {context : ValueType}
    (h : (Shape.composite c).accepts (some context) = true)
    (hplane : context.isSubtype .plane = false) : c.output.isSubtype .plane = false := by
  cases c with
  | connective c domain =>
    rw [Bool.eq_false_iff] at hplane ⊢
    exact fun hover => hplane (ValueType.isSubtype_trans h hover)
  | _ => rfl

/-- A sealed tree that consumes what is no plane looks nothing up. -/
theorem Tree.Sealed.not_mem_lookUps {t : Tree} (h : t.Sealed) {context : ValueType}
    (ha : t.shape.accepts (some context) = true) (hplane : context.isSubtype .plane = false)
    (key : String) (source : Extractor) : (key, source) ∉ t.lookUps := by
  induction t using Tree.induct generalizing context with
  | leaf l => simp [Tree.lookUps]
  | branch c children ih =>
    obtain ⟨-, hfeeds, hbelow⟩ := Tree.sealed_branch_iff.1 h
    intro hmem
    rcases Tree.mem_lookUps_branch_iff.1 hmem with heq | hmem
    · subst heq
      exact Bool.false_ne_true (hplane.symm.trans ha)
    · rw [lookUpsAll_eq_flatMap] at hmem
      obtain ⟨t, ht, hmem⟩ := List.mem_flatMap.1 hmem
      exact ih t ht (hbelow t ht) (hfeeds t ht) (Composite.output_isSubtype_plane ha hplane) hmem

theorem Tree.WellFormed.not_mem_lookUps {t : Tree} (h : t.WellFormed) {context : ValueType}
    (ha : t.shape.accepts (some context) = true) (hplane : context.isSubtype .plane = false)
    (key : String) (source : Extractor) : (key, source) ∉ t.lookUps :=
  h.isSealed.not_mem_lookUps ha hplane key source

/-- What compiles with one extractor compiles with another one that declares the keys, to
the same tree with that extractor. -/
theorem compileText_withSource {extractor extractor' : Option Extractor}
    {candidates : ValueType} {text : String} {t : Tree}
    (h : compileText extractor candidates text = .ok t)
    (hkeys : ∀ key source, (key, source) ∈ t.lookUps → key ∈ (lookUpSource extractor').keys) :
    compileText extractor' candidates text = .ok (t.withSource (lookUpSource extractor')) := by
  obtain ⟨tokens, htokenize, htokens⟩ := compileText_eq_ok_iff.1 h
  obtain ⟨e, hder, hd, haccepts⟩ := compileTokens_eq_ok_iff.1 htokens
  refine compileText_eq_ok_iff.2 ⟨tokens, htokenize, compileTokens_eq_ok_iff.2 ⟨e, hder, ?_, ?_⟩⟩
  · exact hd.withSource hkeys
  · rw [Tree.accepts_withSource]
    exact haccepts

/-- Only a text for planes looks anything up, and only under keys that its extractor
declares. -/
theorem looksUp_of_compileText {extractor : Option Extractor} {candidates : ValueType}
    {text : String} {t : Tree} (h : compileText extractor candidates text = .ok t)
    {key : String} {source : Extractor} (hmem : (key, source) ∈ t.lookUps) :
    candidates.isSubtype .plane = true ∧ key ∈ (lookUpSource extractor).keys := by
  obtain ⟨hwf, haccepts⟩ := wellFormed_of_compileText h
  constructor
  · cases hplane : candidates.isSubtype .plane with
    | true => rfl
    | false => exact absurd hmem (hwf.not_mem_lookUps haccepts hplane key source)
  · rw [← source_eq_of_compileText h hmem]
    exact hwf.key_mem hmem

/-- What compiles without an extractor compiles with the one for the type of
the candidates to the same tree with that extractor. -/
theorem compileText_forType {candidates : ValueType} {text : String} {t : Tree}
    (h : compileText none candidates text = .ok t) (sharing : Sharing) :
    compileText (some (Extractor.forType candidates sharing)) candidates text =
      .ok (t.withSource (Extractor.forType candidates sharing)) := by
  refine compileText_withSource h fun key source hmem => ?_
  obtain ⟨hplane, hkey⟩ := looksUp_of_compileText h hmem
  show key ∈ (Extractor.forType candidates sharing).keys
  rw [Extractor.forType, if_pos hplane]
  exact hkey

/-- What compiles with the extractor for the type of the candidates compiles without one. -/
theorem compileText_of_forType {candidates : ValueType} {text : String} {sharing : Sharing}
    {t : Tree}
    (h : compileText (some (Extractor.forType candidates sharing)) candidates text = .ok t) :
    compileText none candidates text = .ok (t.withSource (.plane .own)) := by
  refine compileText_withSource h fun key source hmem => ?_
  obtain ⟨hplane, hkey⟩ := looksUp_of_compileText h hmem
  rw [lookUpSource, Extractor.forType, if_pos hplane] at hkey
  exact hkey

end ImageSelect.Filter
