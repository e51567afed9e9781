import Mathlib.Data.List.Infix
import ImageSelect.Regex.Pattern

/-!
# Patterns without special characters

A pattern whose characters have no special meaning is a pattern for its own text: it compiles,
and it is found in the texts in which its text occurs.

* `Reading.step_plain` says what one such character adds to a reading, and
  `Reading.run_plain` what they all do.
* `compile_plain` gives the pattern, which is the text.
* `attempt_ofText` says when a text is matched at a place, and `search_ofText` when it is found
  from one on.
-/

namespace ImageSelect.Regex

/-- The characters that mean more than themselves outside of character sets. -/
def specialChars : List Char :=
  ['\\', '^', '$', '.', '|', '?', '*', '+', '(', ')', '[', '\x7b']

/-- Whether a character means only itself. -/
def isPlain (c : Char) : Bool :=
  !specialChars.contains c

/-- A character as an expression. -/
def Node.ofChar (c : Char) : Node :=
  .char false c.toNat

/-- A text as an expression. -/
def Node.ofText (text : List Char) : Node :=
  .concat (text.map .ofChar)

/-! ## Compiling -/

/-- Bare characters, one after the other from a position on. -/
def plainPieces (position : Nat) : List Char → List Piece
  | [] => []
  | c :: text => ⟨position, c, false⟩ :: plainPieces (position + 1) text

theorem ne_of_isPlain {c special : Char} (h : isPlain c = true)
    (hspecial : special ∈ specialChars) : c ≠ special := by
  rintro rfl
  simp [isPlain, hspecial] at h

theorem cutPieces_plain {text : List Char} (h : ∀ c ∈ text, isPlain c = true) (position : Nat) :
    cutPieces position text = ⟨plainPieces position text, false⟩ := by
  induction text generalizing position with
  | nil => rfl
  | cons c text ih =>
    obtain ⟨hc, htext⟩ := List.forall_mem_cons.1 h
    have hbackslash : c ≠ '\\' := ne_of_isPlain hc (by decide)
    rw [cutPieces, ih htext]
    · rfl
    · intro heq
      exact absurd heq hbackslash
    · intro d rest heq
      exact absurd heq hbackslash

namespace Reading

/-- A plain character is added as it is, where blanks count. -/
theorem step_plain {r : Reading} {c : Char} (hset : r.openSet = none)
    (hverbose : r.frame.verbose = false) (h : isPlain c = true) (size position : Nat)
    (rest : List Piece) :
    r.step size ⟨position, c, false⟩ rest = .ok (.next (r.add (.ofChar c)) 0) := by
  have hne : ∀ special ∈ specialChars, c ≠ special := fun _ => ne_of_isPlain h
  simp only [specialChars, List.forall_mem_cons] at hne
  simp [step, hset, Piece.is, stepItem, stepChar, hverbose, hne, Except.map, Node.ofChar]

/-- Plain characters are added one after the other. -/
theorem run_plain {text : List Char} (h : ∀ c ∈ text, isPlain c = true) (size : Nat) :
    ∀ (position : Nat) (r : Reading), r.openSet = none → r.frame.verbose = false →
      run size r (plainPieces position text) =
        .ok ((text.map Node.ofChar).foldl add r, []) := by
  induction text with
  | nil =>
    intro position r _ _
    rw [plainPieces, run]
    rfl
  | cons c text ih =>
    intro position r hset hverbose
    obtain ⟨hc, htext⟩ := List.forall_mem_cons.1 h
    rw [plainPieces, run, step_plain hset hverbose hc]
    exact ih htext (position + 1) (r.add (.ofChar c)) hset hverbose

theorem foldl_add (nodes : List Node) (r : Reading) :
    nodes.foldl add r =
      { r with frame := { r.frame with items := nodes.reverse ++ r.frame.items } } := by
  induction nodes generalizing r with
  | nil => rfl
  | cons node nodes ih =>
    rw [List.foldl_cons, ih, List.reverse_cons, List.append_assoc]
    rfl

end Reading

/-- The expression of a pattern that opens nothing. -/
theorem Reading.finish_items (size : Nat) (nodes : List Node) :
    Reading.finish size { frame := ⟨.top, 0, false, [], nodes.reverse⟩ } [] =
      .ok (.concat nodes, []) := by
  have hbody : Reading.body { frame := ⟨.top, 0, false, [], nodes.reverse⟩ } = .concat nodes := by
    simp [Reading.body, Reading.branch, Node.choice]
  simp only [finish, hbody]
  rfl

theorem parse_plain {text : List Char} (h : ∀ c ∈ text, isPlain c = true) :
    parse text = .ok (.ofText text, []) := by
  have hrun : ∀ size, Reading.run size {} (plainPieces 0 text) =
      .ok ({ frame := ⟨.top, 0, false, [], (text.map .ofChar).reverse⟩ }, []) := by
    intro size
    rw [Reading.run_plain h size 0 {} rfl rfl, Reading.foldl_add]
    exact congrArg _ (congrArg (·, []) (by rw [List.append_nil]))
  unfold parse
  rw [cutPieces_plain h]
  dsimp only
  rw [hrun]
  dsimp only
  rw [Reading.finish_items]
  rfl

theorem Node.check_concat {flags : Flags} {nodes : List Node}
    (h : ∀ node ∈ nodes, node.check flags = .ok ()) : (Node.concat nodes).check flags = .ok () := by
  induction nodes with
  | nil => rfl
  | cons node nodes ih =>
    obtain ⟨hnode, hnodes⟩ := List.forall_mem_cons.1 h
    cases nodes with
    | nil => exact hnode
    | cons next nodes =>
      rw [concat, check, hnode, ih hnodes]
      · rfl
      · simp

theorem compile_plain {text : List Char} (h : ∀ c ∈ text, isPlain c = true) :
    compile text = .ok ⟨.ofText text, []⟩ := by
  have hcheck : (Node.ofText text).check [] = .ok () := by
    refine Node.check_concat fun node hnode => ?_
    obtain ⟨c, -, rfl⟩ := List.mem_map.1 hnode
    rfl
  rw [compile, parse_plain h]
  show (do (Node.ofText text).check []; return (⟨.ofText text, []⟩ : Pattern)) = _
  rw [hcheck]
  rfl

/-! ## Matching -/

/-- Expressions one after the other are tried one after the other. -/
theorem Node.attempt_concat_cons (flags : Flags) (node : Node) (nodes : List Node) (s : Place)
    (k : Follow) : (Node.concat (node :: nodes)).attempt flags s k =
      node.attempt flags s fun s => (Node.concat nodes).attempt flags s k := by
  cases nodes with
  | nil => simp [concat, attempt]
  | cons next nodes => simp [concat, attempt]

theorem isChar_plain (c d : Char) : isChar [] c.toNat d = decide (d = c) := by
  have hcode : d.toNat = c.toNat ↔ d = c := ⟨Char.toNat_inj.1, congrArg _⟩
  simp [isChar, Flags.foldsCase, hcode]

/-- A text is matched where it follows. -/
theorem attempt_ofText (text : List Char) (s : Place) (k : Follow) :
    (Node.ofText text).attempt [] s k =
      if text <+: s.after then k (s.forward text.length) else none := by
  induction text generalizing s with
  | nil => simp [Node.ofText, Node.concat, Node.attempt, Place.forward]
  | cons c text ih =>
    unfold Node.ofText at ih ⊢
    rw [List.map_cons, Node.attempt_concat_cons, Node.ofChar, Node.attempt, attemptChar]
    cases hafter : s.after with
    | nil => simp
    | cons d rest =>
      simp only [isChar_plain, ih, List.cons_prefix_cons]
      by_cases hd : d = c
      · simp [hd, Place.forward, hafter, Place.next]
      · have hc : c ≠ d := fun heq => hd heq.symm
        simp [hd, hc]

/-- A text is found where it occurs. -/
theorem search_ofText (text before candidate : List Char) :
    ((Node.ofText text).search [] before candidate).isSome = true ↔ text <:+: candidate := by
  induction candidate generalizing before with
  | nil =>
    rw [Node.search, attempt_ofText]
    by_cases htext : text = []
    · simp [htext]
    · simp [htext]
  | cons c rest ih =>
    rw [Node.search, attempt_ofText, List.infix_cons_iff]
    by_cases hstart : text <+: c :: rest
    · simp [hstart]
    · simp [hstart, ih]

/-- The pattern of a text without special characters is found in the texts in which the text
occurs. -/
theorem occursIn_of_compile {text : List Char} (h : ∀ c ∈ text, isPlain c = true) {p : Pattern}
    (hcompile : compile text = .ok p) (candidate : List Char) :
    p.occursIn candidate = true ↔ text <:+: candidate := by
  obtain rfl := Except.ok.inj (hcompile.symm.trans (compile_plain h))
  exact search_ofText text [] candidate

end ImageSelect.Regex
