import Mathlib.Data.List.DropRight
import Mathlib.Data.List.Infix
import Mathlib.Data.List.Nodup
import Mathlib.Data.List.ProdSigma
import Mathlib.Data.Prod.Lex
import ImageSelect.CommandLine.Program
import ImageSelect.Proofs.CommandLine.Settings
import ImageSelect.Proofs.Value

/-!
# Inputs and their candidates

Which inputs a list names, which files they stand for, and which planes these have.

* `listed_eq`: a list names its lines that are neither blank nor comments, each without the
  blanks at its ends.
* `candidates_eq`: the candidates input by input, a file's planes in lexicographic order of
  series and frame.
* `showable_of_mem_candidates`: the numbers of all candidates can be written.
-/

namespace ImageSelect

/-! ## Pairs below two counts -/

/-- The pairs of numbers below two counts, in lexicographic order. -/
structure Enumerates (pairs : List (Nat × Nat)) (series frames : Int) : Prop where
  sorted : pairs.Pairwise (Prod.Lex (· < ·) (· < ·))
  mem_iff : ∀ k, k ∈ pairs ↔ (k.1 : Int) < series ∧ (k.2 : Int) < frames

/-- A product of ranges is in lexicographic order. -/
theorem pairwise_range_product (series frames : Nat) :
    (List.range series ×ˢ List.range frames).Pairwise (Prod.Lex (· < ·) (· < ·)) := by
  show ((List.range series).flatMap fun i => (List.range frames).map (i, ·)).Pairwise _
  rw [List.pairwise_flatMap]
  constructor
  · intro i _
    rw [List.pairwise_map]
    exact List.pairwise_lt_range.imp fun h => .right i h
  · refine List.pairwise_lt_range.imp fun h k hk l hl => ?_
    obtain ⟨_, _, rfl⟩ := List.mem_map.1 hk
    obtain ⟨_, _, rfl⟩ := List.mem_map.1 hl
    exact .left _ _ h

theorem enumerates_product (series frames : Int) :
    Enumerates (List.range series.toNat ×ˢ List.range frames.toNat) series frames where
  sorted := pairwise_range_product _ _
  mem_iff := by
    intro k
    rw [List.mem_product, List.mem_range, List.mem_range]
    omega

/-- There is only one list of the pairs below two counts. -/
theorem Enumerates.unique {pairs pairs' : List (Nat × Nat)} {series frames : Int}
    (h : Enumerates pairs series frames) (h' : Enumerates pairs' series frames) :
    pairs = pairs' := by
  have hperm : pairs.Perm pairs' :=
    (List.perm_ext_iff_of_nodup h.sorted.nodup h'.sorted.nodup).2 fun k =>
      (h.mem_iff k).trans (h'.mem_iff k).symm
  exact hperm.eq_of_pairwise (fun k l _ _ hkl hlk => absurd hlk (asymm hkl)) h.sorted h'.sorted

/-- The planes of a file are those of all pairs. -/
theorem allPlanes_eq (file : ImageFile) (series frames : Nat) :
    allPlanes file series frames =
      (List.range series ×ˢ List.range frames).map fun k => ⟨file, k.1, k.2⟩ := by
  show _ = ((List.range series).flatMap fun i => (List.range frames).map (i, ·)).map _
  rw [List.map_flatMap, allPlanes]
  refine List.flatMap_congr fun i _ => ?_
  rw [List.map_map]
  rfl

namespace CommandLine

/-! ## Files -/

theorem contains_iff {mark text : List Char} : contains mark text = true ↔ mark <:+: text := by
  induction text with
  | nil => simp [contains]
  | cons c cs ih =>
    rw [contains, Bool.or_eq_true, List.isPrefixOf_iff_prefix, ih, List.infix_cons_iff]

/-- The file that an input names: an input with `://` in it is a URL, any other a path. -/
def fileNamed [CurrentDirectory] (input : String) : ImageFile :=
  if "://".toList <:+: input.toList then { url := input } else ImageFile.ofPath input

theorem imageFileOf_eq [CurrentDirectory] (input : String) :
    imageFileOf input = fileNamed input := by
  unfold imageFileOf fileNamed
  by_cases h : "://".toList <:+: input.toList
  · rw [if_pos h, if_pos (contains_iff.2 h)]
  · rw [if_neg h, if_neg (mt contains_iff.1 h)]

/-! ## Lists -/

/-- A text with every line end written as a line feed. -/
def withLineFeeds : List Char → List Char
  | [] => []
  | '\r' :: '\n' :: cs => '\n' :: withLineFeeds cs
  | '\r' :: cs => '\n' :: withLineFeeds cs
  | c :: cs => c :: withLineFeeds cs

theorem withLineFeeds_cons {c : Char} (hc : c ≠ '\r') (cs : List Char) :
    withLineFeeds (c :: cs) = c :: withLineFeeds cs := by
  rw [withLineFeeds]
  · intro _ h
    exact absurd h hc
  · exact hc

/-- The lines are what stands between line feeds, once every line end is one. -/
theorem lines_eq (text : List Char) : lines text = Text.pieces '\n' (withLineFeeds text) := by
  fun_induction lines text with
  | case1 => rfl
  | case2 cs ih => rw [withLineFeeds, Text.pieces, if_pos rfl, ih]
  | case3 cs ih => rw [withLineFeeds_cons (by decide), Text.pieces, if_pos rfl, ih]
  | case4 cs hpair ih =>
    rw [withLineFeeds, Text.pieces, if_pos rfl, ih]
    exact hpair
  | case5 c cs hpair hfeed hreturn hnil ih =>
    exact absurd (ih.symm.trans hnil) (Text.pieces_ne_nil _ _)
  | case6 c cs hpair hfeed hreturn line more hlines ih =>
    rw [withLineFeeds_cons hreturn, Text.pieces, if_neg hfeed, ← ih, hlines]

/-- Whether a line names an input: it is not blank, and its first character that is not blank
is no number sign. -/
def namesInput (line : List Char) : Bool :=
  (line.find? fun c => !Unicode.isSpace c).any (· ≠ '#')

/-- Without the blanks at its ends, a line starts with its first character that is not
blank. -/
theorem head?_strip (line : List Char) :
    (Unicode.strip line).head? = line.find? fun c => !Unicode.isSpace c := by
  have hstrip : Unicode.strip line = (line.dropWhile Unicode.isSpace).rdropWhile Unicode.isSpace :=
    rfl
  have hfind : (line.find? fun c => !Unicode.isSpace c) =
      (line.dropWhile Unicode.isSpace).head? := by
    rw [List.find?_eq_head?_dropWhile_not]
    simp
  have hhead := List.head?_dropWhile_not Unicode.isSpace line
  rw [hstrip, hfind]
  cases hdrop : line.dropWhile Unicode.isSpace with
  | nil => simp
  | cons c rest =>
    rw [hdrop] at hhead
    have hc : Unicode.isSpace c = false := hhead
    -- The first character is not blank, so something is left at the other end.
    have hne : (c :: rest).rdropWhile Unicode.isSpace ≠ [] := by
      intro h
      have hall := List.rdropWhile_eq_nil_iff.1 h c List.mem_cons_self
      exact Bool.false_ne_true (hc.symm.trans hall)
    obtain ⟨first, more, hcons⟩ := List.exists_cons_of_ne_nil hne
    have hprefix := List.rdropWhile_prefix Unicode.isSpace (c :: rest)
    rw [hcons] at hprefix ⊢
    rw [(List.cons_prefix_cons.1 hprefix).1]
    rfl

theorem isInput_strip (line : List Char) : isInput (Unicode.strip line) = namesInput line := by
  rw [namesInput, ← head?_strip]
  unfold isInput
  split
  · rename_i h
    rw [h]
    rfl
  · rename_i h
    rw [h]
    rfl
  · rename_i hnil hsign
    cases hstrip : Unicode.strip line with
    | nil => exact absurd hstrip hnil
    | cons c rest =>
      have hc : c ≠ '#' := by
        intro h
        subst h
        exact hsign rest hstrip
      simp [hc]

/-- The inputs that a list names: its lines that name one, without the blanks at their ends. -/
def namedIn (text : List Char) : List String :=
  ((Text.pieces '\n' (withLineFeeds text)).filter namesInput).map
    fun line => String.ofList (Unicode.strip line)

theorem listed_eq (text : List Char) : listed text = namedIn text := by
  have hcomp : isInput ∘ Unicode.strip = namesInput := funext isInput_strip
  rw [listed, List.filter_map, List.map_map, hcomp, lines_eq]
  rfl

/-! ## Candidates -/

variable [CurrentDirectory]

/-- The candidates input by input. -/
theorem candidates_eq (s : Settings) (inputs : List String) :
    s.candidates inputs =
      inputs.flatMap fun input =>
        if s.filesOnly then [.file (fileNamed input)]
        else (List.range s.seriesCount.toNat ×ˢ List.range s.frameCount.toNat).map
          fun k => .plane ⟨fileNamed input, k.1, k.2⟩ := by
  refine List.flatMap_congr fun input _ => ?_
  rw [candidatesOf, imageFileOf_eq]
  split
  · rfl
  · rw [allPlanes_eq, List.map_map]
    rfl

/-- Every candidate is of the type of the candidates. -/
theorem isA_of_mem_candidates {s : Settings} {inputs : List String} {v : Value}
    (h : v ∈ s.candidates inputs) : v.isA s.candidateType = true := by
  obtain ⟨input, -, hv⟩ := List.mem_flatMap.1 h
  unfold candidatesOf at hv
  unfold Settings.candidateType
  cases hfiles : s.filesOnly with
  | true =>
    rw [hfiles] at hv
    rw [List.mem_singleton.1 hv]
    rfl
  | false =>
    rw [hfiles] at hv
    obtain ⟨p, -, rfl⟩ := List.mem_map.1 hv
    rfl

/-- Every candidate can be shown if the counts can be written: its numbers are below them. -/
theorem showable_of_mem_candidates {s : Settings} (hcounts : s.CountsWritable)
    {inputs : List String} {v : Value} (h : v ∈ s.candidates inputs) : v.Showable := by
  rw [candidates_eq] at h
  obtain ⟨input, -, hv⟩ := List.mem_flatMap.1 h
  split at hv
  · obtain rfl := List.mem_singleton.1 hv
    exact Value.showable_file _
  · obtain ⟨k, hk, rfl⟩ := List.mem_map.1 hv
    obtain ⟨hseries, hframe⟩ := List.mem_product.1 hk
    rw [List.mem_range] at hseries hframe
    exact (Value.showable_plane_iff _).2
      ⟨hcounts.series.mono (by dsimp only; omega), hcounts.frames.mono (by dsimp only; omega)⟩

/-- Each input has as many candidates as there are pairs, or one. -/
theorem length_candidates (s : Settings) (inputs : List String) :
    (s.candidates inputs).length =
      inputs.length *
        if s.filesOnly then 1 else s.seriesCount.toNat * s.frameCount.toNat := by
  rw [candidates_eq, List.length_flatMap]
  cases s.filesOnly with
  | true => simp
  | false => simp [List.length_product]

end CommandLine

end ImageSelect
