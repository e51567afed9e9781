import ImageSelect.Proofs.Selection.FilterMap

/-!
# Filtering planes and filtering their table

An expression over planes that only combines metadata look-ups can be read on
the rows of a table.  `Tree.holdsOn` is this reading: a look-up holds on a row
that has its key with a value that is not empty and that the child passes on,
and connectives have their Boolean meaning.

The verdict on a plane is what the reading says of its row, which is there if there
is a verdict.  So selecting planes and filtering the table of all their rows come to
the same (`Selection.rows_eq_filter_table`).
-/

namespace ImageSelect

namespace Filter

/-! ## Reading trees on rows -/

/-- Trees that combine metadata look-ups by connectives. -/
inductive Tree.LooksUpOnly : Tree → Prop where
  | connective {c : Connective} {domain : ValueType} {children : List Tree}
      (below : ∀ t ∈ children, LooksUpOnly t) :
      LooksUpOnly (.branch (.connective c domain) children)
  | metadata {key : String} {source : Extractor} {children : List Tree} :
      LooksUpOnly (.branch (.metadata key source) children)

variable [CurrentDirectory]

/-- Whether a row has a key with a value that is not empty and that the first of
some trees passes on. -/
def passesOnCell (row : Row) (key : String) (children : List Tree) : Bool :=
  (row.get? key).any fun value =>
    value ≠ "" && children.head?.any fun t => t.passes (.text value)

mutual

/-- Whether a tree of look-ups holds on a row. -/
def Tree.holdsOn (row : Row) : Tree → Bool
  | .branch (.connective .and _) children => allHoldOn row children
  | .branch (.connective .or _) children => anyHoldsOn row children
  | .branch (.connective .does _) children => firstHoldsOn row children
  | .branch (.connective .not _) children | .branch (.connective .doesNot _) children =>
    !firstHoldsOn row children
  | .branch (.metadata key _) children => passesOnCell row key children
  | _ => false

/-- Whether all trees hold on a row. -/
def allHoldOn (row : Row) : List Tree → Bool
  | [] => true
  | t :: ts => t.holdsOn row && allHoldOn row ts

/-- Whether some tree holds on a row. -/
def anyHoldsOn (row : Row) : List Tree → Bool
  | [] => false
  | t :: ts => t.holdsOn row || anyHoldsOn row ts

/-- Whether the first of some trees holds on a row. -/
def firstHoldsOn (row : Row) : List Tree → Bool
  | [] => false
  | t :: _ => t.holdsOn row

end

/-- Rows with the same values under all keys are read alike. -/
theorem passesOnCell_congr {row row' : Row} (h : ∀ key, row.get? key = row'.get? key)
    (key : String) (children : List Tree) :
    passesOnCell row key children = passesOnCell row' key children := by
  unfold passesOnCell
  rw [h key]

mutual

theorem Tree.holdsOn_congr {row row' : Row} (h : ∀ key, row.get? key = row'.get? key) :
    ∀ t : Tree, t.holdsOn row = t.holdsOn row'
  | .leaf l => by
    simp only [Tree.holdsOn]
  | .branch (.connective c domain) children => by
    cases c <;> simp only [Tree.holdsOn, allHoldOn_congr h children,
      anyHoldsOn_congr h children, firstHoldsOn_congr h children]
  | .branch (.metadata key source) children => by
    simp only [Tree.holdsOn, passesOnCell_congr h]
  | .branch (.feature f) children => by
    simp only [Tree.holdsOn]
  | .branch (.quorum least most) children => by
    simp only [Tree.holdsOn]

theorem allHoldOn_congr {row row' : Row} (h : ∀ key, row.get? key = row'.get? key) :
    ∀ ts : List Tree, allHoldOn row ts = allHoldOn row' ts
  | [] => rfl
  | t :: ts => by rw [allHoldOn, allHoldOn, t.holdsOn_congr h, allHoldOn_congr h ts]

theorem anyHoldsOn_congr {row row' : Row} (h : ∀ key, row.get? key = row'.get? key) :
    ∀ ts : List Tree, anyHoldsOn row ts = anyHoldsOn row' ts
  | [] => rfl
  | t :: ts => by rw [anyHoldsOn, anyHoldsOn, t.holdsOn_congr h, anyHoldsOn_congr h ts]

theorem firstHoldsOn_congr {row row' : Row} (h : ∀ key, row.get? key = row'.get? key) :
    ∀ ts : List Tree, firstHoldsOn row ts = firstHoldsOn row' ts
  | [] => rfl
  | t :: ts => by rw [firstHoldsOn, firstHoldsOn, t.holdsOn_congr h]

end

/-! ## Verdicts on planes -/

/-- The verdicts that trees of a list have on a plane are those of the trees on a row. -/
def ReadAlike (row : Row) (p : Plane) (children : List Tree) : Prop :=
  ∀ t ∈ children, ∀ passes, t.verdict (.plane p) = .ok passes → t.holdsOn row = passes

section
variable {row : Row} {p : Plane} {children : List Tree} {passes : Bool}

theorem ReadAlike.allM (h : ReadAlike row p children)
    (hall : children.allM (Tree.verdict · (.plane p)) = .ok passes) :
    allHoldOn row children = passes := by
  induction children with
  | nil => exact Except.ok.inj hall
  | cons t ts ih =>
    obtain ⟨ht, hts⟩ := List.forall_mem_cons.1 h
    rw [List.allM] at hall
    obtain ⟨first, hfirst, hrest⟩ := Except.bind_eq_ok_iff.1 hall
    rw [allHoldOn, ht first hfirst]
    cases first with
    | true => exact ih hts hrest
    | false => exact Except.ok.inj hrest

theorem ReadAlike.anyM (h : ReadAlike row p children)
    (hany : children.anyM (Tree.verdict · (.plane p)) = .ok passes) :
    anyHoldsOn row children = passes := by
  induction children with
  | nil => exact Except.ok.inj hany
  | cons t ts ih =>
    obtain ⟨ht, hts⟩ := List.forall_mem_cons.1 h
    rw [List.anyM] at hany
    obtain ⟨first, hfirst, hrest⟩ := Except.bind_eq_ok_iff.1 hany
    rw [anyHoldsOn, ht first hfirst]
    cases first with
    | true => exact Except.ok.inj hrest
    | false => exact ih hts hrest

theorem ReadAlike.first (h : ReadAlike row p children) {symbol : String}
    (hfirst : firstVerdict symbol children (.plane p) = .ok passes) :
    firstHoldsOn row children = passes := by
  cases children with
  | nil => cases hfirst
  | cons t ts => exact h t List.mem_cons_self passes hfirst

theorem ReadAlike.connective (h : ReadAlike row p children) {c : Connective} {domain : ValueType}
    (hverdict : (Composite.connective c domain).verdict children (.plane p) = .ok passes) :
    (Tree.branch (.connective c domain) children).holdsOn row = passes := by
  cases c with
  | and => exact h.allM hverdict
  | or => exact h.anyM hverdict
  | does => exact h.first hverdict
  | not =>
    obtain ⟨first, hfirst, rfl⟩ := Except.map_eq_ok_iff.1 hverdict
    rw [Tree.holdsOn, h.first hfirst]
  | doesNot =>
    obtain ⟨first, hfirst, rfl⟩ := Except.map_eq_ok_iff.1 hverdict
    rw [Tree.holdsOn, h.first hfirst]

/-- A connective asks its first child. -/
theorem exists_verdict_of_connective {c : Connective} {domain : ValueType} {v : Value}
    (hne : children ≠ [])
    (h : (Composite.connective c domain).verdict children v = .ok passes) :
    ∃ t ∈ children, ∃ first, t.verdict v = .ok first := by
  cases children with
  | nil => exact absurd rfl hne
  | cons t ts =>
    refine ⟨t, List.mem_cons_self, ?_⟩
    cases c with
    | and | or =>
      obtain ⟨first, hfirst, -⟩ := Except.bind_eq_ok_iff.1 h
      exact ⟨first, hfirst⟩
    | does => exact ⟨passes, h⟩
    | not | doesNot =>
      obtain ⟨first, hfirst, -⟩ := Except.map_eq_ok_iff.1 h
      exact ⟨first, hfirst⟩

/-- Where a look-up has a verdict there is a row, and the child passes on its cell. -/
theorem exists_row_of_lookUp {key : String} {source : Extractor}
    (h : (Tree.branch (.metadata key source) children).verdict (.plane p) = .ok passes) :
    ∃ row, source.row? (.plane p) = .ok row ∧ passesOnCell row key children = passes := by
  rw [Tree.verdict_branch, Composite.verdict, lookedUp] at h
  obtain ⟨value?, hvalue, hchild⟩ := Except.bind_eq_ok_iff.1 h
  split at hvalue
  · have hof := Except.mapError_eq_ok_iff.1 hvalue
    obtain ⟨row, hrow, -⟩ := Except.bind_eq_ok_iff.1 hof
    have hcell := eq_of_metadataOf hof
    rw [Extractor.rowOf_of_row? hrow] at hcell
    refine ⟨row, hrow, ?_⟩
    subst hcell
    rw [passesOnCell]
    cases hget : row.get? key with
    | none =>
      rw [hget] at hchild
      exact Except.ok.inj hchild
    | some value =>
      rw [hget] at hchild
      by_cases hempty : value = ""
      · subst hempty
        exact Except.ok.inj hchild
      · have hfilter : (some value).filter (· ≠ "") = some value := by simp [hempty]
        rw [hfilter] at hchild
        cases children with
        | nil => cases hchild
        | cons t ts =>
          have hpasses : t.verdict (.text value) = .ok passes := hchild
          simp [hempty, Tree.passes, hpasses]
  · cases hvalue

end

/-- Where a tree of look-ups in the rows of one extractor has a verdict on a plane there is a
row, and the verdict is read from it. -/
theorem Tree.LooksUpOnly.exists_row {t : Tree} (h : t.LooksUpOnly) (hwf : t.WellFormed)
    {e : Extractor} (hsource : ∀ key source, (key, source) ∈ t.lookUps → source = e) {p : Plane}
    {passes : Bool} (hverdict : t.verdict (.plane p) = .ok passes) :
    ∃ row, e.row? (.plane p) = .ok row ∧ t.holdsOn row = passes := by
  induction h generalizing passes with
  | @connective c domain children _ ih =>
    cases hwf with
    | branch known admitted fed below =>
      have hne : children ≠ [] := List.length_pos_iff.1 (Composite.pos_of_admits known admitted)
      have hchild : ∀ t ∈ children, ∀ passes, t.verdict (.plane p) = .ok passes →
          ∃ row, e.row? (.plane p) = .ok row ∧ t.holdsOn row = passes := fun t ht _ =>
        ih t ht (below t ht) fun key source hmem =>
          hsource key source (Tree.mem_lookUps_of_mem ht hmem)
      rw [Tree.verdict_branch] at hverdict
      obtain ⟨t, ht, first, hfirst⟩ := exists_verdict_of_connective hne hverdict
      obtain ⟨row, hrow, -⟩ := hchild t ht first hfirst
      have halike : ReadAlike row p children := by
        intro t ht passes hpasses
        obtain ⟨row', hrow', hholds⟩ := hchild t ht passes hpasses
        obtain rfl := Except.ok.inj (hrow.symm.trans hrow')
        exact hholds
      exact ⟨row, hrow, halike.connective hverdict⟩
  | @metadata key source children =>
    obtain rfl := hsource key source (Tree.mem_lookUps_branch_iff.2 (.inl rfl))
    obtain ⟨row, hrow, hpasses⟩ := exists_row_of_lookUp hverdict
    refine ⟨row, hrow, ?_⟩
    rwa [Tree.holdsOn]

end Filter

/-! ## Tables -/

section
variable [CurrentDirectory]

/-- If the verdicts on planes are read off their rows, a selection that comes through has those
rows of the table of all planes on which the filter holds. -/
theorem Selection.rows_eq_filter_table {text : String} {t : Filter.Tree} {e : Extractor}
    {planes : List Plane} {selection : Selection}
    (hholds : ∀ (p : Plane) (passes : Bool), t.verdict (.plane p) = .ok passes →
      ∃ row, e.row? (.plane p) = .ok row ∧ t.holdsOn row = passes)
    (h : ofList ⟨text, .plane, t⟩ e (planes.map .plane) = .ok selection) :
    ∃ table, (planes.mapM fun p => e.row? (.plane p)) = .ok table ∧
      selection.rows = table.filter t.holdsOn := by
  obtain ⟨hconsidered, rfl⟩ := ofList_eq_ok_iff.1 h
  have hrows : ∀ p ∈ planes, ∃ row, e.row? (.plane p) = .ok row ∧
      t.holdsOn row = t.passes (.plane p) := by
    intro p hp
    obtain ⟨_, hp⟩ := hconsidered _ (List.mem_map_of_mem hp)
    exact hholds p _ (verdict_of_considered hp rfl)
  have htable : (planes.mapM fun p => e.row? (.plane p)) =
      .ok (planes.map fun p => e.rowOf (.plane p)) := by
    refine Except.mapM_eq_ok fun p hp => ?_
    obtain ⟨row, hrow, -⟩ := hrows p hp
    rw [hrow, Extractor.rowOf_of_row? hrow]
  refine ⟨_, htable, ?_⟩
  rw [List.filter_map, List.map_map, List.filter_map]
  refine congrArg _ (List.filter_congr fun p hp => ?_)
  obtain ⟨row, hrow, hpasses⟩ := hrows p hp
  show (true && t.passes (.plane p)) = t.holdsOn (e.rowOf (.plane p))
  rw [Bool.true_and, Extractor.rowOf_of_row? hrow, hpasses]

/-- Selecting planes by an expression that combines metadata look-ups is filtering the table of
their rows, each row read by itself.  Selecting comes to one end, from a list and from a supply
and from whatever sound session: every plane has a row and the selection holds those of them on
which the expression holds; or there is a plane that cannot be shown, and a number that cannot be
written breaks the selection off.  So two planes whose rows have the same values get the same
verdict, unless such a number breaks the evaluation off. -/
theorem select_eq_filter_table {text : String} {extractor : Option Extractor} {t : Filter.Tree}
    (hreads : ∀ e, extractor = some e → e.ReadsPlanes)
    (hcompile : Filter.compileText (some (extractor.getD (.forType .plane .shared))) .plane text =
      .ok t)
    (hlooks : t.LooksUpOnly) :
    let row? := fun p : Plane => (extractor.getD (.forType .plane .shared)).row? (.plane p)
    (∀ (planes : List Plane) (supply : Supply),
      List.Forall₂ Gives supply (planes.map Value.plane) →
      ∃ r : Except SelectError Selection,
        (∀ s : Session, s.Sound →
          ((select text (planes.map .plane) extractor .plane).run.run s).1 = r ∧
            ((selectFrom text supply extractor .plane).run.run s).1 = r) ∧
        ((∃ table selection, planes.mapM row? = .ok table ∧ r = .ok selection ∧
            selection.rows = table.filter t.holdsOn) ∨
          (∃ p ∈ planes, ¬(Value.plane p).Showable) ∧ ∃ why, why.IsTooLong ∧ r = .error why)) ∧
    (∀ (p q : Plane) (row row' : Row), row? p = .ok row → row? q = .ok row' →
      (∀ key, row.get? key = row'.get? key) → ∃ passes,
        ∀ x ∈ [p, q], ∀ s : Session, s.Sound →
          ((t.eval (.plane x)).run.run s).1 = .ok passes ∨
            ¬(Value.plane x).Showable ∧
              ((t.eval (.plane x)).run.run s).1 = .error (.number .tooLong)) := by
  intro row?
  obtain ⟨hwf, -⟩ := Filter.wellFormed_of_compileText hcompile
  have hread := Extractor.ReadsPlanes.reads_getD hreads
  have hholds : ∀ (p : Plane) (passes : Bool), t.verdict (.plane p) = .ok passes →
      ∃ row, row? p = .ok row ∧ t.holdsOn row = passes := fun _ _ =>
    hlooks.exists_row hwf fun _ _ hmem => Filter.source_eq_of_compileText hcompile hmem
  refine ⟨?table, ?alike⟩
  case table =>
    intro planes supply hsupply
    refine ⟨_, fun s hs => ⟨(answers_select hcompile _).result_eq hs,
      (answers_selectFrom hcompile hsupply).result_eq hs⟩, ?_⟩
    rcases Selection.ofList_cases hcompile hread (planes.map .plane) with
      hlist | ⟨⟨v, hv, hnot⟩, hbreak⟩
    · obtain ⟨table, htable, hrows⟩ := Selection.rows_eq_filter_table hholds hlist
      exact .inl ⟨table, _, htable, hlist, hrows⟩
    · obtain ⟨p, hp, rfl⟩ := List.mem_map.1 hv
      exact .inr ⟨⟨p, hp, hnot⟩, hbreak⟩
  case alike =>
    intro p q row row' hp hq hrow
    refine ⟨t.holdsOn row, ?_⟩
    have hcases : ∀ (x : Plane) (rowx : Row), row? x = .ok rowx →
        t.holdsOn rowx = t.holdsOn row → ∀ s : Session, s.Sound →
          ((t.eval (.plane x)).run.run s).1 = .ok (t.holdsOn row) ∨
            ¬(Value.plane x).Showable ∧
              ((t.eval (.plane x)).run.run s).1 = .error (.number .tooLong) := by
      intro x rowx hx heq s hs
      rw [(t.answers (.plane x)).result_eq hs]
      refine (Filter.verdict_cases hcompile hread rfl).imp_left fun hverdict => ?_
      obtain ⟨row₁, hrow₁, hpasses⟩ := hholds x _ hverdict
      obtain rfl := Except.ok.inj (hx.symm.trans hrow₁)
      rw [hverdict, ← hpasses, heq]
    rw [List.forall_mem_cons, List.forall_mem_singleton]
    exact ⟨hcases p row hp rfl, hcases q row' hq (t.holdsOn_congr hrow).symm⟩

end

/-- The statement for an extractor whose rows lack a key that it declares. -/
theorem select_eq_filter_table_lacking :
    letI : CurrentDirectory := .root
    let e : Extractor := .custom ["A", "B"] fun _ => some ⟨[("A", "x")]⟩
    let p : Plane := ⟨⟨"file:///a.tif", none⟩, 0, 0⟩
    ∃ t : Filter.Tree, Filter.compileText (some e) .plane "not metadata[B] eq \"x\"" = .ok t ∧
      t.LooksUpOnly ∧ ∃ selection : Selection,
        ((select "not metadata[B] eq \"x\"" [.plane p] (some e) .plane).run.run {}).1 =
          .ok selection ∧
        selection.rows = [(⟨[("A", "x")]⟩ : Row)].filter t.holdsOn := by
  let _ : CurrentDirectory := .root
  intro e p
  let l : Filter.LiteralTest := ⟨.eq, "x", none, rfl⟩
  have hcompile : Filter.compileText (some e) .plane "not metadata[B] eq \"x\"" =
      .ok (.branch (.connective .not .plane) [.branch (.metadata "B" e) [.leaf l]]) :=
    Filter.compileText_eq_ok_iff.2 ⟨[⟨.symbol "not" none, 0⟩, ⟨.symbol "metadata" (some "B"), 4⟩,
      ⟨.symbol "eq" none, 16⟩, ⟨.literal "x", 19⟩], by decide +kernel, by with_unfolding_all rfl⟩
  have hlooks : (Filter.Tree.branch (.connective .not .plane)
      [.branch (.metadata "B" e) [.leaf l]]).LooksUpOnly :=
    .connective (by simp [Filter.Tree.LooksUpOnly.metadata])
  have hreads : ∀ e', some e = some e' → e'.ReadsPlanes := by
    intro e' he'
    obtain rfl := Option.some.inj he'
    exact fun _ => rfl
  obtain ⟨r, hrun, hr⟩ := (select_eq_filter_table hreads hcompile hlooks).1 [p]
    [return .plane p] (.cons (.pure _) .nil)
  obtain ⟨hselect, -⟩ := hrun {} Session.sound_empty
  rcases hr with ⟨table, selection, htable, rfl, hrows⟩ | ⟨⟨q, hq, hnot⟩, -⟩
  · obtain rfl : [⟨[("A", "x")]⟩] = table := Except.ok.inj htable
    exact ⟨_, hcompile, hlooks, selection, hselect, hrows⟩
  · obtain rfl := List.mem_singleton.1 hq
    exact absurd ((Value.showable_plane_iff _).2 ⟨by decide, by decide⟩) hnot

end ImageSelect
