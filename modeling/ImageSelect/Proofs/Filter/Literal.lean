import ImageSelect.Proofs.Filter.Sealing
import ImageSelect.Proofs.Regex.Plain

/-!
# Literals that are kept and literals that are given

A test can be asked with the literal that it is completed with, or with another one that is
given.  A test for a regular expression keeps the pattern of its own literal and compiles that
of any other, so it makes no difference which of the two a literal is.

* `TextTest.evalLiteral_eq`: asking with a literal that is given is asking the test that is
  completed with it.
* `Memory.evalLiteralAt_memory`: so it is in memory, where the pattern is a field of its own
  beside the literal.
* `Memory.callAll_memory` reads any calls on a memory as building.
* `Memory.attachAnew_memory`: what completing a new predicate comes to.
* `LiteralTest.holds_contain_iff` and `LiteralTest.holds_containRegexp_iff`: a text without
  special characters is looked for as it is.
-/

namespace ImageSelect.Filter

/-! ## Tests -/

section
variable {t : TextTest} (known : t ∈ textTests)
include known

theorem TextTest.note_of_known : t.note = pure () := by
  cases t with
  | probe name => simp [textTests] at known
  | _ => rfl

theorem TextTest.evalOn_text (pattern : Option Regex.Pattern) (literal c : String) :
    t.evalOn pattern literal (.text c) = pure (t.holds pattern c literal) := by
  unfold evalOn
  rw [note_of_known known]
  rfl

end

/-- A pattern that is held serves its own literal only, so asking with a literal that is given
is asking the test that is completed with it. -/
theorem TextTest.evalLiteral_eq {held : Option LiteralTest} {l : LiteralTest}
    (hheld : ∀ own, held = some own → own.test = l.test) (known : l.test ∈ textTests)
    (c : String) : l.test.evalLiteral held c l.literal = pure (.ok (l.holds c)) := by
  unfold TextTest.evalLiteral LiteralTest.holds
  rw [TextTest.note_of_known known, pure_bind]
  dsimp only
  cases hown : held.bind fun own => if own.literal = l.literal then own.pattern else none with
  | none =>
    dsimp only
    rw [l.prepared]
    rfl
  | some pattern =>
    obtain ⟨own, hsome, hpattern⟩ := Option.bind_eq_some_iff.1 hown
    obtain ⟨hliteral, hpattern⟩ := Option.ite_none_right_eq_some.1 hpattern
    -- Both patterns come from preparing the same literal for the same test.
    have hprepared := own.prepared
    rw [hheld own hsome, hliteral, l.prepared, hpattern] at hprepared
    rw [Except.ok.inj hprepared]

theorem occursIn_iff {part text : List Char} : occursIn part text = true ↔ part <:+: text := by
  induction text with
  | nil => simp [occursIn]
  | cons c rest ih =>
    rw [occursIn, Bool.or_eq_true, List.isPrefixOf_iff_prefix, ih, List.infix_cons_iff]

namespace LiteralTest

variable {l : LiteralTest} {c : String}

theorem holds_contain_iff (h : l.test = .contain) :
    l.holds c = true ↔ l.literal.toList <:+: c.toList := by
  unfold holds
  rw [h]
  exact occursIn_iff

/-- A regular expression without special characters is found where its text occurs. -/
theorem holds_containRegexp_iff (h : l.test = .containRegexp)
    (hplain : ∀ c ∈ l.literal.toList, Regex.isPlain c = true) :
    l.holds c = true ↔ l.literal.toList <:+: c.toList := by
  have hprepared := l.prepared
  rw [h] at hprepared
  obtain ⟨p, hcompile, hp⟩ := Except.map_eq_ok_iff.1 hprepared
  unfold holds
  rw [h, ← hp]
  exact Regex.occursIn_of_compile hplain hcompile c.toList

end LiteralTest

/-- Every literal can be prepared, except that the literal of a regular expression must be a
pattern. -/
theorem TextTest.exists_attach {t : TextTest} {literal : String}
    (h : t ≠ .containRegexp ∨ ∀ c ∈ literal.toList, Regex.isPlain c = true) :
    ∃ l, t.attach literal = .ok l := by
  have hprepared : ∃ pattern, t.prepare literal = .ok pattern := by
    cases t with
    | containRegexp =>
      rcases h with hne | hplain
      · exact absurd rfl hne
      · exact ⟨_, by rw [prepare, Regex.compile_plain hplain]; rfl⟩
    | _ => exact ⟨none, rfl⟩
  obtain ⟨pattern, hprepared⟩ := hprepared
  exact ⟨⟨t, literal, pattern, hprepared⟩, TextTest.attach_eq_ok_iff.2 ⟨rfl, rfl⟩⟩

/-! ## Questions to tests in memory -/

/-- A predicate answers a question at once, whatever has accumulated in the session. -/
def Question.Says (q : Question Bool) (passes : Bool) : Prop :=
  ∀ s : Session, q.run.run s = (.ok passes, s)

theorem Question.says_of_run_eq {q : Question Bool} {passes : Bool}
    (h : q.run = pure (.ok passes)) : q.Says passes := by
  intro s
  rw [h]
  rfl

/-- The pattern for a literal that is given is that of the node, if it has this literal. -/
theorem Node.patternGiven_cell (n : Node) (t : TextTest) (literal : String) :
    n.cell.patternGiven t literal =
      match n.literal?.bind fun l => if l.literal = literal then l.pattern else none with
      | some pattern => .ok (some pattern)
      | none => (t.prepare literal).mapError .pattern := by
  cases n with
  | fresh shape => rfl
  | parent c ids children => rfl
  | literal l =>
    by_cases hl : l.literal = literal <;> cases hpattern : l.pattern <;>
      simp [Node.cell, Node.literal?, Cell.patternGiven, hl, hpattern]

theorem Node.test_of_literal? {n : Node} {t : TextTest} (h : n.shape = .test t)
    {own : LiteralTest} (hown : n.literal? = some own) : own.test = t := by
  cases n with
  | literal l =>
    obtain rfl := Option.some.inj hown
    exact Shape.test.inj h
  | _ => cases hown

namespace Memory

/-- The predicate of a number is a test. -/
def HasTest (m : Memory) (id : Nat) (t : TextTest) : Prop :=
  ∃ cell, m.cell? id = some cell ∧ cell.shape = .test t

/-- The predicate of a number is a test that is completed with a literal. -/
def HasLiteral (m : Memory) (id : Nat) (t : TextTest) (literal : String) : Prop :=
  ∃ cell, m.cell? id = some cell ∧ cell.shape = .test t ∧ cell.literal? = some literal

theorem HasLiteral.hasTest {m : Memory} {id : Nat} {t : TextTest} {literal : String}
    (h : m.HasLiteral id t literal) : m.HasTest id t :=
  let ⟨cell, hcell, hshape, _⟩ := h
  ⟨cell, hcell, hshape⟩

section
variable {b : Builder} {id : Nat} {t : TextTest} {literal : String}

theorem hasTest_memory_iff :
    b.memory.HasTest id t ↔ ∃ n, b.node? id = some n ∧ n.shape = .test t := by
  simp [HasTest]

theorem hasLiteral_memory_iff :
    b.memory.HasLiteral id t literal ↔
      ∃ l, b.node? id = some (.literal l) ∧ l.test = t ∧ l.literal = literal := by
  simp only [HasLiteral, Builder.cell?_memory]
  constructor
  · rintro ⟨cell, hcell, hshape, hliteral⟩
    obtain ⟨n, hn, rfl⟩ := Option.map_eq_some_iff.1 hcell
    cases n with
    | literal l => exact ⟨l, hn, Shape.test.inj hshape, Option.some.inj hliteral⟩
    | _ => cases hliteral
  · rintro ⟨l, hn, rfl, rfl⟩
    exact ⟨Node.cell (.literal l), by rw [hn]; rfl, rfl, rfl⟩

theorem HasTest.known (h : b.memory.HasTest id t) (hsound : b.Sound fun _ => True) :
    t ∈ textTests := by
  obtain ⟨n, hn, hshape⟩ := hasTest_memory_iff.1 h
  have hknown := hsound.known id n hn
  rwa [hshape] at hknown

/-- A test in memory answers with a literal that is given as the node does. -/
theorem evalLiteralAt_memory {n : Node} (hn : b.node? id = some n) (hshape : n.shape = .test t)
    (known : t ∈ textTests) (c literal : String) :
    (b.memory.evalLiteralAt id (.text c) literal).run =
      Except.mapError OperationError.pattern <$> t.evalLiteral n.literal? c literal := by
  have hasked : (b.memory.evalLiteralAt id (.text c) literal).run =
      pure ((n.cell.patternGiven t literal).map fun pattern => t.holds pattern c literal) := by
    unfold evalLiteralAt
    rw [Builder.cell?_memory, hn]
    dsimp only [Option.map_some]
    rw [Node.shape_cell, hshape]
    simp only [TextTest.evalOn_text known]
    cases n.cell.patternGiven t literal <;> rfl
  rw [hasked, Node.patternGiven_cell]
  unfold TextTest.evalLiteral
  rw [TextTest.note_of_known known, pure_bind]
  dsimp only
  cases n.literal?.bind fun l => if l.literal = literal then l.pattern else none with
  | none => cases t.prepare literal <;> rfl
  | some pattern => rfl

theorem says_evalLiteralAt {n : Node} {l : LiteralTest} (hn : b.node? id = some n)
    (hshape : n.shape = .test l.test) (known : l.test ∈ textTests) (c : String) :
    (b.memory.evalLiteralAt id (.text c) l.literal).Says (l.holds c) := by
  refine Question.says_of_run_eq ?_
  rw [evalLiteralAt_memory hn hshape known,
    TextTest.evalLiteral_eq (fun _ => Node.test_of_literal? hshape) known]
  rfl

theorem says_evalAt [CurrentDirectory] {l : LiteralTest} (hn : b.node? id = some (.literal l))
    (known : l.test ∈ textTests) (deep : Nat) (c : String) :
    (b.memory.evalAt (deep + 1) id (.text c)).Says (l.holds c) := by
  have hunfolds : b.memory.Unfolds id (.leaf l) :=
    .leaf (by rw [Builder.cell?_memory, hn]; rfl)
  have heval : (Tree.leaf l).eval (.text c) = pure (l.holds c) := by
    unfold Tree.eval Tree.evalWith
    exact (TextTest.evalOn_eq l _).symm.trans (TextTest.evalOn_text known _ _ _)
  rw [hunfolds.evalAt_eq (Nat.le_add_left 1 deep), heval]
  exact fun s => rfl

end

/-! ## Calls -/

/-- The operations among some calls. -/
def operationsOf (calls : List Call) : List Operation :=
  calls.filterMap fun
    | .operation operation => some operation
    | .evalLiteral _ _ _ => none

/-- The building that is done in a row of calls. -/
def buildingOf (calls : List Call) : List Builder.Action :=
  actionsOf (operationsOf calls)

/-- A row of calls on a builder's memory does what the builder does. -/
theorem callAll_memory [CurrentDirectory] (depth : Nat) (calls : List Call) :
    ∀ (b : Builder) (s : Session), ∃ s', (callAll depth b.memory calls).run s =
      (((buildingOf calls).foldl Builder.after b).memory, s') := by
  induction calls with
  | nil => exact fun b s => ⟨s, rfl⟩
  | cons call calls ih =>
    intro b s
    cases call with
    -- A question leaves the memory as it is, though not the session.
    | evalLiteral id v literal =>
      obtain ⟨s', hrest⟩ := ih b ((b.memory.evalLiteralAt id v literal).run.run s).2
      exact ⟨s', hrest⟩
    | operation operation =>
      cases operation with
      | eval id v =>
        obtain ⟨s', hrest⟩ := ih b ((b.memory.evalAt depth id v).run.run s).2
        exact ⟨s', hrest⟩
      | build action =>
        obtain ⟨s', hrest⟩ := ih (b.after action) s
        refine ⟨s', ?_⟩
        rw [callAll, StateT.run_bind, Memory.call, perform_build]
        exact hrest

/-- Makes a new predicate of a symbol and completes it with a literal.  Gives what completing
comes to, and the memory after it. -/
def attachAnew (m : Memory) (symbol literal : String) : Except OperationError Unit × Memory :=
  let (_, made) := (Steps.build (.construct symbol .object "" none)).run.run m
  (Steps.build (.setLiteral m.cells.size (.text literal))).run.run made

/-- Completing a new test succeeds if its literal can be attached, and leaves a complete node
behind. -/
theorem attachAnew_memory (b : Builder) {t : TextTest} (known : t ∈ textTests)
    (literal : String) :
    b.memory.attachAnew t.symbol literal =
      match t.attach literal with
      | .ok l => (.ok (), ((b.add (.test t)).1.put b.nodes.size (.literal l)).memory)
      | .error why => (.error (.refused (.attach why)), (b.add (.test t)).1.memory) := by
  have hmake : b.act (.construct t.symbol .object "" none) = .ok (b.add (.test t)).1 := by
    have hsymbol : Meaning.ofSymbol? t.symbol = some (.test t) :=
      (Meaning.isKnown_test known).ofSymbol?
    rw [Builder.act, Builder.addMade, hsymbol]
    rfl
  have hmade := Steps.follows_build (b := b) (.construct t.symbol .object "" none)
  unfold Steps.Follows at hmade
  rw [hmake] at hmade
  have hset := Steps.follows_build (b := (b.add (.test t)).1)
    (.setLiteral b.nodes.size (.text literal))
  unfold Steps.Follows at hset
  rw [Builder.act, Builder.setLiteral, Builder.node?_add_new] at hset
  unfold attachAnew
  rw [hmade, Builder.size_memory]
  refine hset.trans ?_
  dsimp only [Node.setLiteral]
  cases t.attach literal <;> rfl

/-! ## Literals that are kept and given -/

section
variable {b : Builder} {id : Nat} {t : TextTest} {literal : String}

/-- A complete test answers alike with its own literal and with the same one given. -/
theorem says_own [CurrentDirectory] (hsound : b.Sound fun _ => True)
    (h : b.memory.HasLiteral id t literal) (c : String) :
    ∃ passes, (∀ deep, (b.memory.evalAt (deep + 1) id (.text c)).Says passes) ∧
      (b.memory.evalLiteralAt id (.text c) literal).Says passes := by
  have known := h.hasTest.known hsound
  obtain ⟨l, hn, rfl, rfl⟩ := hasLiteral_memory_iff.1 h
  exact ⟨l.holds c, fun deep => says_evalAt hn known deep c, says_evalLiteralAt hn rfl known c⟩

/-- A test answers with a literal that is given as a new test does that is completed with it. -/
theorem says_given [CurrentDirectory] (hsound : b.Sound fun _ => True)
    (h : b.memory.HasTest id t)
    (hattach : (b.memory.attachAnew t.symbol literal).1 = .ok ()) :
    (b.memory.attachAnew t.symbol literal).2.HasLiteral b.memory.cells.size t literal ∧
      ∀ c, ∃ passes, (b.memory.evalLiteralAt id (.text c) literal).Says passes ∧
        ∀ deep, ((b.memory.attachAnew t.symbol literal).2.evalAt (deep + 1)
          b.memory.cells.size (.text c)).Says passes := by
  have known := h.known hsound
  obtain ⟨n, hn, hshape⟩ := hasTest_memory_iff.1 h
  rw [attachAnew_memory b known] at hattach ⊢
  cases hl : t.attach literal with
  | error why => simp [hl] at hattach
  | ok l =>
    obtain ⟨rfl, rfl⟩ := TextTest.attach_eq_ok_iff.1 hl
    have hfound : ((b.add (.test l.test)).1.put b.nodes.size (.literal l)).node? b.nodes.size =
        some (.literal l) := by
      rw [Builder.node?_put (Builder.node?_add_new b _), if_pos rfl]
    rw [Builder.size_memory]
    exact ⟨hasLiteral_memory_iff.2 ⟨l, hfound, rfl, rfl⟩, fun c => ⟨l.holds c,
      says_evalLiteralAt hn hshape known c, fun deep => says_evalAt hfound known deep c⟩⟩

/-- A new test of a kind that there is can be completed with a literal, except that the literal
of a regular expression must be a pattern. -/
theorem attachAnew_eq_ok (known : t ∈ textTests)
    (h : t ≠ .containRegexp ∨ ∀ c ∈ literal.toList, Regex.isPlain c = true) :
    (b.memory.attachAnew t.symbol literal).1 = .ok () := by
  obtain ⟨l, hl⟩ := TextTest.exists_attach h
  rw [attachAnew_memory b known, hl]

/-- A complete test stays what it is, and so do its answers. -/
theorem HasLiteral.kept [CurrentDirectory] {b' : Builder} (hext : b.Extends b')
    (h : b.memory.HasLiteral id t literal) : b'.memory.HasLiteral id t literal ∧
      (∀ deep v, b'.memory.evalAt deep id v = b.memory.evalAt deep id v) ∧
      ∀ v given, b'.memory.evalLiteralAt id v given = b.memory.evalLiteralAt id v given := by
  obtain ⟨l, hn, hl⟩ := hasLiteral_memory_iff.1 h
  have hn' : b'.node? id = some (.literal l) := hext id _ hn rfl
  have hcell : b'.memory.cell? id = b.memory.cell? id := by
    rw [Builder.cell?_memory, Builder.cell?_memory, hn, hn']
  refine ⟨hasLiteral_memory_iff.2 ⟨l, hn', hl⟩, fun deep v => ?_, fun v given => ?_⟩
  -- A test asks no other predicate, so its own fields decide.
  · cases deep with
    | zero => rfl
    | succ deep =>
      rw [evalAt, evalAt, hcell, Builder.cell?_memory, hn]
      rfl
  · rw [evalLiteralAt, evalLiteralAt, hcell]

/-- A regular expression without special characters is looked for like any text. -/
theorem says_plain [CurrentDirectory] (hsound : b.Sound fun _ => True)
    (hplain : ∀ c ∈ literal.toList, Regex.isPlain c = true) {id₁ id₂ : Nat}
    (h₁ : b.memory.HasLiteral id₁ .contain literal)
    (h₂ : b.memory.HasLiteral id₂ .containRegexp literal) (c : String) :
    ∃ passes, (passes = true ↔ literal.toList <:+: c.toList) ∧
      ∀ deep, (b.memory.evalAt (deep + 1) id₁ (.text c)).Says passes ∧
        (b.memory.evalAt (deep + 1) id₂ (.text c)).Says passes := by
  obtain ⟨l₁, hn₁, ht₁, rfl⟩ := hasLiteral_memory_iff.1 h₁
  obtain ⟨l₂, hn₂, ht₂, heq⟩ := hasLiteral_memory_iff.1 h₂
  have hcontain := LiteralTest.holds_contain_iff (c := c) ht₁
  have hregexp : l₂.holds c = l₁.holds c := by
    rw [Bool.eq_iff_iff, hcontain, ← heq]
    exact LiteralTest.holds_containRegexp_iff ht₂ (heq ▸ hplain)
  exact ⟨l₁.holds c, hcontain, fun deep => ⟨says_evalAt hn₁ (hsound.known id₁ _ hn₁) deep c,
    hregexp ▸ says_evalAt hn₂ (hsound.known id₂ _ hn₂) deep c⟩⟩

end

/-- What holds after any calls.  A test that is completed with a literal gives the answers of
asking it with this literal.  With any literal that could be attached, a test answers as a new
one does that is completed with it; all could, except that the literal of a regular expression
must be a pattern.  No later call changes a complete test or its answers.  For a literal without
special characters, which can always be attached, a regular expression passes where the text
itself is contained. -/
theorem stored_and_given_literals_agree [CurrentDirectory] (depth : Nat) (calls : List Call)
    (s : Session) :
    let (m, s₁) := (callAll depth {} calls).run s
    (∀ id t literal c, m.HasLiteral id t literal → ∃ passes,
      (∀ deep, (m.evalAt (deep + 1) id (.text c)).Says passes) ∧
      (m.evalLiteralAt id (.text c) literal).Says passes) ∧
    (∀ id t given, m.HasTest id t →
      let (result, m') := m.attachAnew t.symbol given
      (t ≠ .containRegexp → result = .ok ()) ∧
      (result = .ok () → m'.HasLiteral m.cells.size t given ∧ ∀ c, ∃ passes,
        (m.evalLiteralAt id (.text c) given).Says passes ∧
        ∀ deep, (m'.evalAt (deep + 1) m.cells.size (.text c)).Says passes)) ∧
    (∀ id t literal more, m.HasLiteral id t literal →
      let m' := ((callAll depth m more).run s₁).1
      m'.HasLiteral id t literal ∧
      (∀ deep v, m'.evalAt deep id v = m.evalAt deep id v) ∧
      ∀ v given, m'.evalLiteralAt id v given = m.evalLiteralAt id v given) ∧
    ∀ literal : String, (∀ c ∈ literal.toList, Regex.isPlain c = true) →
      (m.attachAnew TextTest.containRegexp.symbol literal).1 = .ok () ∧
      ∀ id₁ id₂ c, m.HasLiteral id₁ .contain literal → m.HasLiteral id₂ .containRegexp literal →
        ∃ passes, (passes = true ↔ literal.toList <:+: c.toList) ∧
          ∀ deep, (m.evalAt (deep + 1) id₁ (.text c)).Says passes ∧
            (m.evalAt (deep + 1) id₂ (.text c)).Says passes := by
  obtain ⟨s₁, hrun⟩ := callAll_memory depth calls {} s
  rw [Builder.memory_empty] at hrun
  rw [hrun]
  have hsound : (Builder.run (buildingOf calls)).Sound fun _ => True :=
    Builder.sound_run fun _ _ => trivial
  unfold Builder.run at hsound
  generalize (buildingOf calls).foldl Builder.after {} = b at hsound
  refine ⟨fun id t literal c h => says_own hsound h c, fun id t given h => ⟨fun hne => ?given,
    says_given hsound h⟩, fun id t literal more h => ?kept, fun literal hplain => ⟨?plain,
    fun id₁ id₂ c h₁ h₂ => says_plain hsound hplain h₁ h₂ c⟩⟩
  case given => exact attachAnew_eq_ok (h.known hsound) (.inl hne)
  case kept =>
    obtain ⟨s₂, hmore⟩ := callAll_memory depth more b s₁
    dsimp only
    rw [hmore]
    exact h.kept (Builder.extends_foldl _ b)
  case plain => exact attachAnew_eq_ok (by decide) (.inr hplain)

/-- The statement for a regular expression that is completed in a second attempt, and for one
that looks for the same text without being a regular expression. -/
theorem stored_and_given_literals_agree_retry :
    letI : CurrentDirectory := .root
    let calls : List Call := [
      .operation (.build (.create "containregexp" .text none none)),
      .operation (.build (.setLiteral 0 (.text "("))),
      .evalLiteral 0 (.text "xay") "x|z",
      .operation (.build (.setLiteral 0 (.text "a"))),
      .operation (.build (.create "contain" .text none none)),
      .operation (.build (.setLiteral 1 (.text "a")))]
    let (m, s₁) := (callAll 1 {} calls).run {}
    (∃ passes, (m.evalAt 1 0 (.text "xay")).Says passes ∧
      (m.evalLiteralAt 0 (.text "xay") "a").Says passes) ∧
    (∃ passes, (m.evalLiteralAt 0 (.text "xay") "x|z").Says passes ∧
      ((m.attachAnew TextTest.containRegexp.symbol "x|z").2.evalAt 1 2 (.text "xay")).Says passes) ∧
    (m.attachAnew TextTest.contain.symbol "(").1 = .ok () ∧
    ((callAll 1 m [.evalLiteral 0 (.text "xay") "x|z"]).run s₁).1.evalAt 1 0 (.text "xay") =
      m.evalAt 1 0 (.text "xay") ∧
    (m.evalAt 1 0 (.text "xay")).Says true ∧ (m.evalAt 1 1 (.text "xay")).Says true := by
  let _ : CurrentDirectory := .root
  intro calls
  have hagree := stored_and_given_literals_agree 1 calls {}
  have hregexp : ((callAll 1 {} calls).run {}).1.HasLiteral 0 .containRegexp "a" :=
    ⟨⟨.test .containRegexp, some "a", some ⟨.ofText ['a'], []⟩, none⟩, by with_unfolding_all rfl,
      rfl, rfl⟩
  have hcontain : ((callAll 1 {} calls).run {}).1.HasLiteral 1 .contain "a" :=
    ⟨⟨.test .contain, some "a", none, none⟩, by with_unfolding_all rfl, rfl, rfl⟩
  have hsize : ((callAll 1 {} calls).run {}).1.cells.size = 2 := by
    with_unfolding_all rfl
  have hattach : (((callAll 1 {} calls).run {}).1.attachAnew TextTest.containRegexp.symbol
      "x|z").1 = .ok () := by with_unfolding_all rfl
  generalize (callAll 1 {} calls).run {} = after at hagree hregexp hcontain hsize hattach ⊢
  obtain ⟨m, s₁⟩ := after
  obtain ⟨hown, hgiven, hkept, hplain⟩ := hagree
  obtain ⟨own, heval, hliteral⟩ := hown 0 _ _ "xay" hregexp
  have hanew : ∃ passes, (m.evalLiteralAt 0 (.text "xay") "x|z").Says passes ∧
      ∀ deep, ((m.attachAnew TextTest.containRegexp.symbol "x|z").2.evalAt (deep + 1) 2
        (.text "xay")).Says passes := by
    rw [← hsize]
    exact ((hgiven 0 _ "x|z" hregexp.hasTest).2 hattach).2 "xay"
  obtain ⟨given, hasked, hanew⟩ := hanew
  have hchars : ∀ c ∈ "a".toList, Regex.isPlain c = true := List.all_eq_true.1 (by decide)
  obtain ⟨passes, hpasses, hsay⟩ := (hplain "a" hchars).2 1 0 "xay" hcontain hregexp
  obtain rfl : passes = true := hpasses.2 ⟨['x'], ['y'], by decide⟩
  exact ⟨⟨own, heval 0, hliteral⟩, ⟨given, hasked, hanew 0⟩,
    (hgiven 1 _ "(" hcontain.hasTest).1 (by decide), (hkept 0 _ _ _ hregexp).2.1 1 _,
    (hsay 0).2, (hsay 0).1⟩

end Memory

end ImageSelect.Filter
