import ImageSelect.Proofs.Except
import ImageSelect.Proofs.Metadata.Extractor
import ImageSelect.Proofs.Metadata.Row

/-!
# Combinations of combinations

A combination can be a member of another one.  It makes no difference: the combination of all that
stands at the ends declares the same keys and gives the same rows.

* `Extractor.Nesting` is the shape of what is combined, and `Nesting.build` combines it from the
  inside out.
* `Extractor.extractMembers_merge`: what members add to a row they add to any row in front of it.
* `Extractor.Flattens` relates members to what stands at their ends.  It is kept by every
  combination (`Nesting.flattens_of_build`).
* `Extractor.row?_combined_of_exact`: the row of a combination whose members give what they
  declare.
-/

namespace ImageSelect.Extractor

/-! ## Keys of members -/

theorem memberKeys_eq_flatMap : ∀ es : List Extractor, memberKeys es = es.flatMap keys
  | [] => rfl
  | e :: es => by rw [memberKeys, memberKeys_eq_flatMap es, List.flatMap_cons]

theorem memberKeys_append (es es' : List Extractor) :
    memberKeys (es ++ es') = memberKeys es ++ memberKeys es' := by
  simp only [memberKeys_eq_flatMap, List.flatMap_append]

theorem firstRepeated_eq_none_iff {seen : List String} (h : seen.Nodup) (keys : List String) :
    firstRepeated seen keys = none ↔ (seen ++ keys).Nodup := by
  induction keys generalizing seen with
  | nil => simpa [firstRepeated] using h
  | cons key keys ih =>
    rw [firstRepeated]
    by_cases hkey : key ∈ seen
    · rw [if_pos (List.contains_iff_mem.2 hkey)]
      refine iff_of_false (by simp) fun hnodup => ?_
      exact (List.nodup_append.1 hnodup).2.2 _ hkey _ List.mem_cons_self rfl
    · have hseen : (seen ++ [key]).Nodup := by
        rw [← List.concat_eq_append]
        exact h.concat hkey
      rw [if_neg (by simpa using hkey), ih hseen, List.append_assoc, List.singleton_append]

/-- Extractors can be combined if the keys that they declare are distinct. -/
theorem combine_eq_ok_iff {members : List Extractor} {e : Extractor} :
    combine members = .ok e ↔ (memberKeys members).Nodup ∧ e = combined members := by
  have hnone := firstRepeated_eq_none_iff List.nodup_nil (memberKeys members)
  rw [List.nil_append] at hnone
  rw [combine, ← hnone]
  cases firstRepeated [] (memberKeys members) with
  | none => simp [eq_comm]
  | some key => simp

/-! ## Rows of members -/

section

variable [CurrentDirectory]

/-- What members add to a row they add to any row in front of it. -/
theorem extractMembers_merge {acc : Row} (h : acc.keys.Nodup) (es : List Extractor) (row : Row)
    (v : Value) :
    extractMembers es (row.merge acc) v = (row.merge ·) <$> extractMembers es acc v := by
  induction es generalizing acc with
  | nil => simp [extractMembers]
  | cons e es ih =>
    rw [extractMembers, extractMembers, map_bind]
    refine bind_congr fun more => ?_
    rw [← Row.merge_merge h, ih (Row.nodup_keys_merge h more)]

theorem extractMembers_append (es es' : List Extractor) (row : Row) (v : Value) :
    extractMembers (es ++ es') row v =
      extractMembers es row v >>= fun row => extractMembers es' row v := by
  induction es generalizing row with
  | nil => simp [extractMembers]
  | cons e es ih =>
    rw [List.cons_append, extractMembers, extractMembers, bind_assoc]
    exact bind_congr fun more => ih _

/-- A combination adds to a row what its members add to it. -/
theorem extractMembers_combined (members es : List Extractor) (row : Row) (v : Value) :
    extractMembers (combined members :: es) row v = extractMembers (members ++ es) row v := by
  have hmembers : extractMembers members row v =
      (row.merge ·) <$> extractMembers members {} v := by
    rw [← extractMembers_merge Row.nodup_keys_empty, Row.merge_empty]
  rw [extractMembers_append, hmembers, extractMembers, extract, bind_map_left]

end

theorem membersRead_append (es es' : List Extractor) (v : Value) :
    membersRead (es ++ es') v = (membersRead es v && membersRead es' v) := by
  induction es with
  | nil => rfl
  | cons e es ih => rw [List.cons_append, membersRead, membersRead, ih, Bool.and_assoc]

theorem membersRead_iff {es : List Extractor} {v : Value} :
    membersRead es v = true ↔ ∀ e ∈ es, e.reads v = true := by
  induction es with
  | nil => simp [membersRead]
  | cons e es ih => rw [membersRead, Bool.and_eq_true, ih, List.forall_mem_cons]

/-! ## Nestings -/

/-- What is combined: an extractor, or a combination of such things. -/
inductive Nesting where
  | leaf (e : Extractor)
  | node (members : List Nesting)

namespace Nesting

mutual

/-- The extractors at the ends, from left to right. -/
def leaves : Nesting → List Extractor
  | .leaf e => [e]
  | .node members => leavesOf members

def leavesOf : List Nesting → List Extractor
  | [] => []
  | t :: ts => leaves t ++ leavesOf ts

end

mutual

/-- Combines from the inside out.  A combination that is refused leaves nothing to combine. -/
def build : Nesting → Except DuplicateKey Extractor
  | .leaf e => .ok e
  | .node members => do
    let es ← buildAll members
    combine es

def buildAll : List Nesting → Except DuplicateKey (List Extractor)
  | [] => .ok []
  | t :: ts => do
    let e ← build t
    let es ← buildAll ts
    return e :: es

end

end Nesting

/-- Members declare the same keys as the extractors at their ends, read the same values and add
the same to a row. -/
structure Flattens [CurrentDirectory] (members leaves : List Extractor) : Prop where
  keys : memberKeys members = memberKeys leaves
  reads : ∀ v, membersRead members v = membersRead leaves v
  extract : ∀ row v, extractMembers members row v = extractMembers leaves row v

namespace Flattens

variable [CurrentDirectory] {es es' leaves leaves' : List Extractor}

theorem refl (es : List Extractor) : Flattens es es :=
  ⟨rfl, fun _ => rfl, fun _ _ => rfl⟩

theorem append (h : Flattens es leaves) (h' : Flattens es' leaves') :
    Flattens (es ++ es') (leaves ++ leaves') where
  keys := by rw [memberKeys_append, memberKeys_append, h.keys, h'.keys]
  reads v := by rw [membersRead_append, membersRead_append, h.reads, h'.reads]
  extract row v := by
    rw [extractMembers_append, extractMembers_append, h.extract]
    exact bind_congr fun row => h'.extract row v

theorem combined (h : Flattens es leaves) : Flattens [combined es] leaves where
  keys := by rw [memberKeys, memberKeys, List.append_nil, Extractor.keys, h.keys]
  reads v := by rw [membersRead, membersRead, Bool.and_true, Extractor.reads, h.reads]
  extract row v := by rw [extractMembers_combined, List.append_nil, h.extract]

end Flattens

namespace Nesting

mutual

theorem flattens_of_build [CurrentDirectory] : ∀ {t : Nesting} {e : Extractor},
    t.build = .ok e → Flattens [e] t.leaves
  | .leaf e', e, h => by
    obtain rfl := Except.ok.inj h
    exact .refl _
  | .node members, e, h => by
    rw [build, Except.bind_eq_ok_iff] at h
    obtain ⟨es, hall, hcombine⟩ := h
    obtain ⟨-, rfl⟩ := combine_eq_ok_iff.1 hcombine
    exact (flattens_of_buildAll hall).combined

theorem flattens_of_buildAll [CurrentDirectory] : ∀ {ts : List Nesting} {es : List Extractor},
    buildAll ts = .ok es → Flattens es (leavesOf ts)
  | [], es, h => by
    obtain rfl := Except.ok.inj h
    exact .refl _
  | t :: ts, es, h => by
    rw [buildAll, Except.bind_eq_ok_iff] at h
    obtain ⟨e, hbuild, h⟩ := h
    obtain ⟨es', hall, hcons⟩ := Except.bind_eq_ok_iff.1 h
    obtain rfl := Except.ok.inj hcons
    exact (flattens_of_build hbuild).append (flattens_of_buildAll hall)

end

mutual

theorem exists_build [CurrentDirectory] : ∀ {t : Nesting}, (memberKeys t.leaves).Nodup →
    ∃ e, t.build = .ok e
  | .leaf e, _ => ⟨e, rfl⟩
  | .node members, h => by
    obtain ⟨es, hall⟩ := exists_buildAll h
    have hnodup : (memberKeys es).Nodup := (flattens_of_buildAll hall).keys ▸ h
    exact ⟨_, Except.bind_eq_ok_iff.2 ⟨es, hall, combine_eq_ok_iff.2 ⟨hnodup, rfl⟩⟩⟩

theorem exists_buildAll [CurrentDirectory] : ∀ {ts : List Nesting},
    (memberKeys (leavesOf ts)).Nodup → ∃ es, buildAll ts = .ok es
  | [], _ => ⟨[], rfl⟩
  | t :: ts, h => by
    rw [leavesOf, memberKeys_append] at h
    obtain ⟨e, hbuild⟩ := exists_build h.of_append_left
    obtain ⟨es, hall⟩ := exists_buildAll h.of_append_right
    exact ⟨e :: es, Except.bind_eq_ok_iff.2 ⟨e, hbuild, Except.bind_eq_ok_iff.2 ⟨es, hall, rfl⟩⟩⟩

end

/-- What is built at the root is a combination of members that flatten. -/
theorem exists_members_of_build [CurrentDirectory] {members : List Nesting} {e : Extractor}
    (h : (node members).build = .ok e) :
    ∃ es, e = combined es ∧ Flattens es (leavesOf members) := by
  obtain ⟨es, hall, hcombine⟩ := Except.bind_eq_ok_iff.1 h
  exact ⟨es, (combine_eq_ok_iff.1 hcombine).2, flattens_of_buildAll hall⟩

/-- A combination can be built if the keys at its ends are distinct. -/
theorem exists_build_node_iff [CurrentDirectory] {members : List Nesting} :
    (∃ e, (node members).build = .ok e) ↔ (memberKeys (leavesOf members)).Nodup := by
  constructor
  · rintro ⟨e, hbuild⟩
    obtain ⟨es, hall, hcombine⟩ := Except.bind_eq_ok_iff.1 hbuild
    rw [← (flattens_of_buildAll hall).keys]
    exact (combine_eq_ok_iff.1 hcombine).1
  · exact fun hnodup => exists_build (t := .node members) hnodup

end Nesting

/-! ## Members that give what they declare -/

section

variable [CurrentDirectory]

/-- An extractor has a row for a value, and the keys of the row are those that it declares, in
their order. -/
structure Exact (e : Extractor) (v : Value) : Prop where
  reads : e.reads v = true
  row : e.row? v = .ok (e.rowOf v)
  keys : (e.rowOf v).keys = e.keys

theorem answers_extractMembers {es : List Extractor} {v : Value} (h : ∀ e ∈ es, e.Exact v)
    (row : Row) :
    Answers (extractMembers es row v)
      (.ok (es.foldl (fun row e => row.merge (e.rowOf v)) row)) := by
  induction es generalizing row with
  | nil => exact .pure row
  | cons e es ih =>
    obtain ⟨he, hes⟩ := List.forall_mem_cons.1 h
    rw [extractMembers, List.foldl_cons]
    exact (he.row ▸ e.answers_row? v).bind_ok (ih hes _)

/-- The rows of members that give what they declare stand one behind the other. -/
theorem row?_combined_of_exact {es : List Extractor} {v : Value} (hnodup : (memberKeys es).Nodup)
    (hexact : ∀ e ∈ es, e.Exact v) :
    (combined es).row? v = .ok ⟨es.flatMap fun e => (e.rowOf v).cells⟩ := by
  -- The rows that come first stand in front and share no key with the rest.
  have hbehind : ∀ (es : List Extractor) (row : Row), (∀ e ∈ es, e.Exact v) →
      (row.keys ++ memberKeys es).Nodup →
      (es.foldl (fun row e => row.merge (e.rowOf v)) row).cells =
        row.cells ++ es.flatMap fun e => (e.rowOf v).cells := by
    intro es
    induction es with
    | nil => exact fun row _ _ => (List.append_nil _).symm
    | cons e es ih =>
      intro row hexact hnodup
      obtain ⟨he, hes⟩ := List.forall_mem_cons.1 hexact
      rw [memberKeys, ← he.keys, ← List.append_assoc] at hnodup
      have hcells := Row.merge_of_disjoint hnodup.of_append_left
      have hkeys : (row.merge (e.rowOf v)).keys = row.keys ++ (e.rowOf v).keys := by
        rw [Row.keys, hcells, List.map_append]
        rfl
      rw [List.foldl_cons, ih _ hes (hkeys ▸ hnodup), hcells, List.flatMap_cons, List.append_assoc]
  have hrow : Answers ((combined es).extract v)
      (.ok (es.foldl (fun row e => row.merge (e.rowOf v)) {})) := by
    rw [extract]
    exact answers_extractMembers hexact {}
  rw [row?_of_answers hrow, Except.ok.injEq, Row.mk.injEq,
    hbehind es {} hexact (by simpa [Row.keys] using hnodup)]
  exact List.nil_append _

end

end ImageSelect.Extractor

namespace ImageSelect

open Extractor

/-- Combining is flattening.  A combination of whatever extractors and combinations can be built
exactly if the keys that are declared at its ends, from left to right, are distinct.  Then these
are its keys, it reads the values that all of the ends read, and it does with every value, in
every session, what one combination of the ends does: it gives the same row, whatever keys are in
the rows of the ends.  If the row of every end has exactly the declared keys, in their order, so
has the row of the combination, with every value as the end that declares its key has it. -/
theorem combination_flattens [CurrentDirectory] (members : List Nesting) :
    let leaves := Nesting.leavesOf members
    ((∃ e, (Nesting.node members).build = .ok e) ↔ (leaves.flatMap keys).Nodup) ∧
    ∀ e, (Nesting.node members).build = .ok e →
      combine leaves = .ok (combined leaves) ∧
      e.keys = leaves.flatMap keys ∧
      (∀ v, e.reads v = (combined leaves).reads v ∧ e.extract v = (combined leaves).extract v) ∧
      ∀ v, (∀ leaf ∈ leaves, leaf.Exact v) →
        e.Exact v ∧
        ∀ leaf ∈ leaves, ∀ key ∈ leaf.keys, ∃ value,
          (leaf.rowOf v).get? key = some value ∧ (e.rowOf v).get? key = some value := by
  intro leaves
  rw [← memberKeys_eq_flatMap]
  refine ⟨Nesting.exists_build_node_iff, fun e hbuild => ?_⟩
  have hnodup : (memberKeys leaves).Nodup := Nesting.exists_build_node_iff.1 ⟨e, hbuild⟩
  obtain ⟨es, rfl, hflat⟩ := Nesting.exists_members_of_build hbuild
  have hextract : ∀ v, (combined es).extract v = (combined leaves).extract v := by
    intro v
    rw [extract, extract, hflat.extract]
  refine ⟨combine_eq_ok_iff.2 ⟨hnodup, rfl⟩, hflat.keys, fun v => ⟨hflat.reads v, hextract v⟩,
    fun v hexact => ?_⟩
  have hrow : (combined es).row? v = .ok ⟨leaves.flatMap fun e => (e.rowOf v).cells⟩ := by
    rw [row?, hextract]
    exact row?_combined_of_exact hnodup hexact
  have hcells : ((combined es).rowOf v).cells = leaves.flatMap fun e => (e.rowOf v).cells := by
    rw [rowOf_of_row? hrow]
  have hkeys : ((combined es).rowOf v).keys = memberKeys leaves := by
    rw [Row.keys, hcells, List.map_flatMap, memberKeys_eq_flatMap]
    exact List.flatMap_congr fun leaf hleaf => (hexact leaf hleaf).keys
  refine ⟨⟨?reads, rowOf_of_row? hrow ▸ hrow, hkeys.trans hflat.keys.symm⟩, ?values⟩
  case reads =>
    rw [reads, hflat.reads, membersRead_iff]
    exact fun leaf hleaf => (hexact leaf hleaf).reads
  case values =>
    intro leaf hleaf key hkey
    rw [← (hexact leaf hleaf).keys] at hkey
    obtain ⟨cell, hcell, rfl⟩ := List.mem_map.1 hkey
    have hleafKeys : (leaf.rowOf v).keys.Nodup := by
      rw [(hexact leaf hleaf).keys]
      rw [memberKeys_eq_flatMap] at hnodup
      exact (List.nodup_flatMap.1 hnodup).1 leaf hleaf
    have hmem : cell ∈ ((combined es).rowOf v).cells :=
      hcells ▸ List.mem_flatMap.2 ⟨leaf, hleaf, hcell⟩
    exact ⟨cell.2, Row.get?_of_mem hleafKeys hcell, Row.get?_of_mem (hkeys ▸ hnodup) hmem⟩

/-- The statement for the names of a file with a plate, and for rows with a key that nothing
declares: the first place and the last value of it count. -/
theorem combination_flattens_undeclared :
    letI : CurrentDirectory := .root
    let members : List Nesting :=
      [.node [.leaf (names .shared)], .node [], .leaf (fixed ["Plate"] ⟨[("Plate", "7")]⟩)]
    let loose : List Nesting :=
      [.leaf (fixed ["A"] ⟨[("A", "1"), ("C", "2")]⟩),
        .node [.leaf (fixed ["B"] ⟨[("C", "3"), ("B", "4")]⟩)]]
    let v : Value := .file ⟨"file:///a.tif", none⟩
    (∃ e, (Nesting.node members).build = .ok e ∧ e.Exact v ∧
      e.keys = ["FileName", "PathName", "Plate"] ∧ (e.rowOf v).get? "Plate" = some "7") ∧
    ∃ e, (Nesting.node loose).build = .ok e ∧
      e.rowOf v = ⟨[("A", "1"), ("C", "3"), ("B", "4")]⟩ := by
  let _ : CurrentDirectory := .root
  intro members loose v
  obtain ⟨hbuilds, hbuilt⟩ := combination_flattens members
  obtain ⟨hbuilds', hbuilt'⟩ := combination_flattens loose
  obtain ⟨e, he⟩ := hbuilds.2 (by decide)
  obtain ⟨e', he'⟩ := hbuilds'.2 (by decide)
  have hleaves : ∀ leaf ∈ Nesting.leavesOf members, leaf.Exact v := by
    have hshow : v.Showable := Value.showable_file _
    refine List.forall_mem_cons.2 ⟨⟨rfl, row?_of_showable hshow _, ?_⟩,
      List.forall_mem_singleton.2 ⟨rfl, row?_of_showable hshow _, rfl⟩⟩
    rw [rowOf_file_eq]
    rfl
  obtain ⟨-, hkeys, -, hexact⟩ := hbuilt e he
  obtain ⟨hrow, hvalues⟩ := hexact v hleaves
  obtain ⟨value, hleaf, hvalue⟩ :=
    hvalues (fixed ["Plate"] ⟨[("Plate", "7")]⟩) (.tail _ (.head _)) "Plate" (.head _)
  obtain ⟨-, -, hsame, -⟩ := hbuilt' e' he'
  refine ⟨⟨e, he, hrow, hkeys, ?_⟩, e', he', ?_⟩
  · rw [hvalue, ← hleaf]
    rfl
  · rw [rowOf, row?, (hsame v).2]
    rfl

end ImageSelect
