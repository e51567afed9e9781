import Mathlib.Data.List.Forall2
import ImageSelect.Proofs.Metadata.Row
import ImageSelect.Selection.Basic
import ImageSelect.Table.Tsv

/-!
# Reading a table back

A reader goes through a table character by character.  It has a place in the
field that it reads, and keeps the characters of the field, the fields of the
record and the records before that.

* `Reader.step` is the dialect: tabs and line feeds outside quotes, and quotes
  that are written twice inside quotes.
* Reading a field, a record and a whole table gives back what was written
  (`foldlM_step_field`, `foldlM_step_record`, `decode_table`).
* So the table of a selection determines its keys and its rows
  (`table_determines_selection`).
-/

namespace ImageSelect

namespace Tsv

/-! ## The reader -/

/-- Where in a field a reader is. -/
inductive Place where
  /-- Before its first character. -/
  | start
  /-- Inside a field without quotes. -/
  | bare
  /-- Between quotes. -/
  | quoted
  /-- Behind a quote between quotes: it is the closing one, or the first of two. -/
  | closing
  deriving Repr, DecidableEq

/-- A reader of a table: its place, and what it has read of the field, of the record
and of the table. -/
structure Reader where
  place : Place := .start
  text : List Char := []
  fields : List (List Char) := []
  records : List (List (List Char)) := []
  deriving Repr, DecidableEq

namespace Reader

/-- The reader behind a character of the field. -/
def take (r : Reader) (place : Place) (c : Char) : Reader :=
  { r with place, text := r.text ++ [c] }

/-- The reader behind the end of the field. -/
def endField (r : Reader) : Reader :=
  { r with place := .start, text := [], fields := r.fields ++ [r.text] }

/-- The reader behind the end of the record. -/
def endRecord (r : Reader) : Reader :=
  { records := r.records ++ [r.fields] }

/-- The reader behind a character outside quotes, if it is a tab or a line feed. -/
def separate (r : Reader) (c : Char) : Option Reader :=
  if c = '\t' then some r.endField
  else if c = '\n' then some r.endField.endRecord
  else none

/-- The reader behind the next character.  A line feed where a record would start is a
record without fields.  Behind a closing quote there is the end of the field. -/
def step (r : Reader) (c : Char) : Option Reader :=
  match r.place with
  | .start =>
    if c = '\n' ∧ r.fields = [] then some r.endRecord
    else if c = '"' then some { r with place := .quoted }
    else r.separate c <|> some (r.take .bare c)
  | .bare => r.separate c <|> some (r.take .bare c)
  | .quoted => if c = '"' then some { r with place := .closing } else some (r.take .quoted c)
  | .closing => if c = '"' then some (r.take .quoted c) else r.separate c

end Reader

/-- The records of a text, if it is a table.  The last record ends like the others. -/
def decode (text : String) : Option (List (List String)) := do
  let r ← text.toList.foldlM Reader.step {}
  if r.place = .start ∧ r.fields = [] then some (r.records.map fun texts => texts.map String.ofList)
  else none

/-! ## Fields -/

variable {r : Reader}

/-- Between quotes, a text with its quotes written twice is read as the text. -/
theorem foldlM_step_doubled (h : r.place = .quoted) (text rest : List Char) :
    (doubled text ++ rest).foldlM Reader.step r =
      rest.foldlM Reader.step { r with text := r.text ++ text } := by
  induction text generalizing r with
  | nil => simp [doubled]
  | cons c text ih =>
    have hsplit : doubled (c :: text) = doubled [c] ++ doubled text := by
      rw [doubled]
      split <;> simp [doubled, *]
    have hchar : (doubled [c]).foldlM Reader.step r = some (r.take .quoted c) := by
      by_cases hc : c = '"'
      · simp [doubled, hc, Reader.step, h, Reader.take]
      · simp [doubled, hc, Reader.step, h]
    rw [hsplit, List.append_assoc, List.foldlM_append, hchar]
    refine (ih (by rfl)).trans ?_
    simp [Reader.take, h]

/-- Characters that need no quotes are read as they are. -/
theorem foldlM_step_bare (h : r.place = .bare) {text : List Char}
    (htext : ∀ c ∈ text, isSpecial c = false) (rest : List Char) :
    (text ++ rest).foldlM Reader.step r =
      rest.foldlM Reader.step { r with text := r.text ++ text } := by
  induction text generalizing r with
  | nil => simp
  | cons c text ih =>
    have hc := htext c List.mem_cons_self
    have hchar : r.step c = some (r.take .bare c) := by
      simp only [isSpecial, Bool.or_eq_false_iff, decide_eq_false_iff_not] at hc
      simp [Reader.step, h, Reader.separate, hc]
    rw [List.cons_append, List.foldlM_cons, hchar]
    refine (ih (by rfl) fun c hc => htext c (List.mem_cons_of_mem _ hc)).trans ?_
    simp [Reader.take, h]

/-- A reader that was at the start of a field and has read a text of it.  The text can end
here; the place is the start of the field only if nothing was read. -/
structure Behind (r r' : Reader) (text : List Char) : Prop where
  place : r'.place = .closing ∨ r'.place = .bare ∨ (r'.place = .start ∧ text = [])
  text : r'.text = text
  fields : r'.fields = r.fields
  records : r'.records = r.records

/-- A text between quotes is read as the text. -/
theorem foldlM_step_quote (hplace : r.place = .start) (htext : r.text = []) (text : List Char) :
    ∃ r', Behind r r' text ∧ r'.place = .closing ∧
      (quote text).foldlM Reader.step r = some r' := by
  have hopen : r.step '"' = some { r with place := .quoted } := by
    rw [Reader.step, hplace]
    rfl
  refine ⟨{ r with place := .closing, text }, ⟨.inl rfl, rfl, rfl, rfl⟩, rfl, ?_⟩
  rw [quote, List.cons_append, List.foldlM_cons, hopen]
  refine (foldlM_step_doubled (by rfl) text ['"']).trans ?_
  rw [htext]
  rfl

/-- A field is read as its text. -/
theorem foldlM_step_field (hplace : r.place = .start) (htext : r.text = []) (text : List Char) :
    ∃ r', Behind r r' text ∧ (field text).foldlM Reader.step r = some r' := by
  by_cases hspecial : text.any isSpecial = true
  · obtain ⟨r', hbehind, -, hrun⟩ := foldlM_step_quote hplace htext text
    refine ⟨r', hbehind, ?_⟩
    rwa [field, if_pos hspecial]
  · rw [field, if_neg hspecial]
    have hall : ∀ c ∈ text, isSpecial c = false := by simpa using hspecial
    cases text with
    | nil => exact ⟨r, ⟨.inr (.inr ⟨hplace, rfl⟩), htext, rfl, rfl⟩, rfl⟩
    | cons c text =>
      have hc := hall c List.mem_cons_self
      have hchar : r.step c = some (r.take .bare c) := by
        simp only [isSpecial, Bool.or_eq_false_iff, decide_eq_false_iff_not] at hc
        simp [Reader.step, hplace, Reader.separate, hc]
      refine ⟨{ r with place := .bare, text := c :: text }, ⟨.inr (.inl rfl), rfl, rfl, rfl⟩, ?_⟩
      rw [List.foldlM_cons, hchar]
      have hrun := foldlM_step_bare (r := r.take .bare c) rfl
        (fun c hc => hall c (List.mem_cons_of_mem _ hc)) []
      rw [List.append_nil] at hrun
      refine hrun.trans ?_
      rw [Reader.take, htext]
      rfl

/-- Behind a field a tab ends it. -/
theorem Behind.step_tab {r' : Reader} {text : List Char} (h : Behind r r' text) :
    r'.step '\t' = some { fields := r.fields ++ [text], records := r.records } := by
  have hend : r'.endField = { fields := r.fields ++ [text], records := r.records } := by
    rw [Reader.endField, h.text, h.fields, h.records]
  rcases h.place with hplace | hplace | ⟨hplace, -⟩ <;>
    simp [Reader.step, hplace, Reader.separate, hend]

/-- Behind a field a line feed ends it, and the record with it, unless the field is the
empty place where a record would start. -/
theorem Behind.step_lineFeed {r' : Reader} {text : List Char} (h : Behind r r' text)
    (hne : r'.place = .start → r.fields ≠ []) :
    r'.step '\n' = some { records := r.records ++ [r.fields ++ [text]] } := by
  have hend : r'.endField.endRecord = { records := r.records ++ [r.fields ++ [text]] } := by
    rw [Reader.endField, Reader.endRecord, h.text, h.fields, h.records]
  rcases h.place with hplace | hplace | ⟨hplace, -⟩
  · simp [Reader.step, hplace, Reader.separate, hend]
  · simp [Reader.step, hplace, Reader.separate, hend]
  · simp [Reader.step, hplace, Reader.separate, hend, h.fields, hne hplace]

/-! ## Records -/

/-- Fields with tabs between them and a line feed behind them are read as a record, if
there are some.  That a single empty field would be no field is the reason why it is
written with quotes. -/
theorem foldlM_step_fields (hplace : r.place = .start) (htext : r.text = [])
    {texts : List (List Char)} (hsome : texts ≠ []) (hne : texts = [[]] → r.fields ≠ []) :
    (fields texts ++ ['\n']).foldlM Reader.step r =
      some { records := r.records ++ [r.fields ++ texts] } := by
  induction texts generalizing r with
  | nil => exact absurd rfl hsome
  | cons text texts ih =>
    obtain ⟨r', hbehind, hrun⟩ := foldlM_step_field hplace htext text
    cases texts with
    | nil =>
      have hend := hbehind.step_lineFeed fun hstart => by
        rcases hbehind.place with h | h | ⟨-, h⟩
        · exact absurd (h.symm.trans hstart) (by simp)
        · exact absurd (h.symm.trans hstart) (by simp)
        · exact hne (by rw [h])
      rw [fields, List.foldlM_append, hrun]
      simp [hend]
    | cons text' texts =>
      have hmore := ih (r := { fields := r.fields ++ [text], records := r.records }) rfl rfl
        (by simp) (by simp)
      rw [fields, List.append_assoc, List.foldlM_append, hrun]
      refine (congrArg (Option.bind · _) hbehind.step_tab).trans ?_
      rw [List.append_assoc] at hmore
      exact hmore
      all_goals simp

/-- A record is read as its fields. -/
theorem foldlM_step_record (before : List (List (List Char))) (texts : List (List Char)) :
    (record texts).foldlM Reader.step { records := before } =
      some { records := before ++ [texts] } := by
  rw [record]
  by_cases hsingle : texts = [[]]
  · obtain ⟨r', hbehind, hplace, hrun⟩ :=
      foldlM_step_quote (r := { records := before }) rfl rfl []
    have hend := hbehind.step_lineFeed fun hstart => absurd (hplace.symm.trans hstart) (by simp)
    rw [if_pos hsingle, List.foldlM_append, hrun, hsingle]
    simpa using hend
  · rw [if_neg hsingle]
    cases texts with
    | nil => rfl
    | cons text texts =>
      exact foldlM_step_fields rfl rfl (by simp) fun h => absurd h hsingle

/-- Records one after the other are read in order. -/
theorem foldlM_step_records (before : List (List (List Char)))
    (records : List (List (List Char))) :
    (records.flatMap record).foldlM Reader.step { records := before } =
      some { records := before ++ records } := by
  induction records generalizing before with
  | nil => simp
  | cons texts records ih =>
    rw [List.flatMap_cons, List.foldlM_append, foldlM_step_record]
    refine (ih (before ++ [texts])).trans ?_
    rw [List.append_assoc, List.singleton_append]

/-- A table is read as its keys and the values of its rows. -/
theorem decode_table (keys : List String) (rows : List Row) :
    decode (table keys rows) = some (keys :: rows.map (values keys)) := by
  have hback : ∀ texts : List String, (texts.map String.toList).map String.ofList = texts := by
    intro texts
    simp
  have hrun := foldlM_step_records [] ((keys :: rows.map (values keys)).map
    fun texts => texts.map String.toList)
  rw [List.flatMap_map, List.nil_append] at hrun
  rw [decode, table, String.toList_ofList, hrun]
  show some _ = some _
  rw [List.map_map]
  exact congrArg some ((List.map_congr_left fun texts _ => hback texts).trans (List.map_id _))

end Tsv

/-! ## Selections -/

namespace Selection

/-- The keys of a selection are distinct, and every row has exactly these keys. -/
structure Complete (s : Selection) : Prop where
  distinct : s.keys.Nodup
  covered : ∀ row ∈ s.rows, row.keys.Perm s.keys

section
variable {s : Selection} {row : Row}

theorem Complete.nodup (h : s.Complete) (hrow : row ∈ s.rows) : row.keys.Nodup :=
  (h.covered row hrow).nodup_iff.2 h.distinct

/-- The values that are written for a row are values that it has. -/
theorem Complete.map_get? (h : s.Complete) (hrow : row ∈ s.rows) :
    s.keys.map row.get? = (Tsv.values s.keys row).map some := by
  rw [Tsv.values, List.map_map]
  refine List.map_congr_left fun key hkey => ?_
  have hmem : key ∈ row.keys := (h.covered row hrow).mem_iff.2 hkey
  obtain ⟨value, hvalue⟩ := Row.exists_get? (h.nodup hrow) hmem
  simp [hvalue]

/-- The values that are written for a row are all that it has. -/
theorem Complete.cells_perm (h : s.Complete) (hrow : row ∈ s.rows) :
    row.cells.Perm (s.keys.zip (Tsv.values s.keys row)) := by
  have hzip : s.keys.zip (Tsv.values s.keys row) =
      s.keys.map fun key => (key, (row.get? key).getD "") := by
    rw [Tsv.values, List.map_prod_left_eq_zip]
  rw [hzip, Row.cells_eq (h.nodup hrow)]
  exact (h.covered row hrow).map _

end

end Selection

/-- The table of a selection is read as its keys and, row by row, exactly the values of
the rows in the order of the keys, whatever characters they have.  So two selections with
the same table have the same keys and the same rows. -/
theorem table_determines_selection {s : Selection} (h : s.Complete) :
    (∃ records : List (List String),
      Tsv.decode (Tsv.table s.keys s.rows) = some (s.keys :: records) ∧
        List.Forall₂ (fun row record => s.keys.map row.get? = record.map some ∧
          row.cells.Perm (s.keys.zip record)) s.rows records) ∧
    ∀ s' : Selection, s'.Complete → Tsv.table s'.keys s'.rows = Tsv.table s.keys s.rows →
      s'.keys = s.keys ∧
        List.Forall₂ (fun row' row => row'.cells.Perm row.cells) s'.rows s.rows := by
  have hread := Tsv.decode_table s.keys s.rows
  refine ⟨⟨s.rows.map (Tsv.values s.keys), hread, ?values⟩, ?unique⟩
  case values =>
    rw [List.forall₂_map_right_iff, List.forall₂_same]
    exact fun row hrow => ⟨h.map_get? hrow, h.cells_perm hrow⟩
  case unique =>
    intro s' h' htable
    have hread' := Tsv.decode_table s'.keys s'.rows
    rw [htable, hread, Option.some_inj, List.cons.injEq] at hread'
    obtain ⟨hkeys, hrows⟩ := hread'
    have hvalues : List.Forall₂ (fun row' row => Tsv.values s'.keys row' = Tsv.values s.keys row)
        s'.rows s.rows := by
      have heq : List.Forall₂ Eq (s'.rows.map (Tsv.values s'.keys))
          (s.rows.map (Tsv.values s.keys)) := by
        rw [List.forall₂_eq_eq_eq, hrows]
      exact List.forall₂_map_left_iff.1 (List.forall₂_map_right_iff.1 heq)
    refine ⟨hkeys.symm, List.forall₂_iff_zip.2 ⟨hvalues.length_eq, fun hmem => ?_⟩⟩
    have hvalue := List.forall₂_zip hvalues hmem
    have hcells' := h'.cells_perm (List.of_mem_zip hmem).1
    have hcells := h.cells_perm (List.of_mem_zip hmem).2
    rw [hvalue, ← hkeys] at hcells'
    exact hcells'.trans hcells.symm

/-- The statement for values that need quotes and for rows with their cells in another
order. -/
theorem table_determines_selection_quoted :
    let row : Row := ⟨[("A", "a\tb"), ("B", "\"")]⟩
    let row' : Row := ⟨[("B", "\""), ("A", "a\tb")]⟩
    let s : Selection := ⟨["A", "B"], [row, ⟨[("B", "\r\n"), ("A", "")]⟩], 2⟩
    let s' : Selection := ⟨["A", "B"], [row', ⟨[("B", "\r\n"), ("A", "")]⟩], 3⟩
    s.Complete ∧ s'.Complete ∧ Tsv.table s'.keys s'.rows = Tsv.table s.keys s.rows ∧
      (∃ records : List (List String),
        Tsv.decode (Tsv.table s.keys s.rows) = some (s.keys :: records) ∧
          List.Forall₂ (fun row record => s.keys.map row.get? = record.map some ∧
            row.cells.Perm (s.keys.zip record)) s.rows records) ∧
      List.Forall₂ (fun row' row => row'.cells.Perm row.cells) s'.rows s.rows := by
  intro row row' s s'
  have hs : s.Complete := ⟨by decide, by decide⟩
  have hs' : s'.Complete := ⟨by decide, by decide⟩
  have htable : Tsv.table s'.keys s'.rows = Tsv.table s.keys s.rows := by rfl
  obtain ⟨hread, hunique⟩ := table_determines_selection hs
  exact ⟨hs, hs', htable, hread, (hunique s' hs' htable).2⟩

end ImageSelect
