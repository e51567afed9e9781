import ImageSelect.Filter.Compiled
import ImageSelect.Proofs.Metadata.Extractor

/-!
# Verdicts

The verdict of a tree on a value is its answer in a new session, or the reason
why it breaks off there.  `Tree.answers` says that it is the same in every
sound session: neither the names that are kept, nor what is interned, nor what
other predicates were asked before has a part in it.

* One lemma for each way in which a predicate asks its children.
* `Tree.answers` is the induction over trees, and one lemma for each composite
  says how its verdict comes from the verdicts of its children.
-/

namespace ImageSelect.Filter

variable [CurrentDirectory]

/-! ## Predicates -/

/-- A test answers about a value in the same way in every session. -/
theorem LiteralTest.exists_answers (l : LiteralTest) (v : Value) : ∃ r, Answers (l.eval v) r := by
  have hnote : Gives l.test.note () := by
    unfold TextTest.note
    split
    · exact gives_visit _
    · exact .pure ()
  unfold LiteralTest.eval
  suffices h : ∀ x : Inquiry Bool, (∃ r, Answers x r) →
      ∃ r, Answers (do (l.test.note : Run Unit); x) r by
    apply h
    split
    · exact ⟨_, .pure _⟩
    · exact ⟨_, .pure _⟩
    · exact ⟨_, .pure _⟩
    · exact ⟨_, .pure _⟩
    · exact ⟨_, .pure _⟩
    · exact ⟨_, .throw _⟩
  intro x hx
  obtain ⟨r, hr⟩ := hx
  exact ⟨_, (Answers.lift hnote).bind_ok hr⟩

/-- The text of a feature that a location has, if it has it. -/
def Feature.of? (f : Feature) (l : Location) : Option String :=
  match f with
  | .fileName => (Location.fileName l.url).toOption
  | .directory => (Location.pathName l.url).toOption
  | .extension => (Location.fileName l.url).toOption.map extensionOf
  | .url => some l.url
  | .series => l.series?.map toString
  | .frame => l.frame?.map toString

/-- The text of a feature that a location has, unless it is a number that cannot be
written. -/
def Feature.written? (f : Feature) (l : Location) : Except Text.WriteError (Option String) :=
  match f with
  | .series => l.series?.mapM Text.writeNumber
  | .frame => l.frame?.mapM Text.writeNumber
  | f => .ok (f.of? l)

theorem Feature.answers_value? (f : Feature) (l : Location) :
    Answers (f.value? l) (f.written? l) := by
  cases f with
  | fileName => exact .lift (gives_fileName? l.url)
  | directory => exact .lift (gives_pathName? l.url)
  | extension => exact .lift ((gives_fileName? l.url).map _)
  | url => exact .pure _
  | series => exact .ofExcept _
  | frame => exact .ofExcept _

omit [CurrentDirectory] in
theorem mapM_writeNumber {n? : Option Nat} (h : ∀ n ∈ n?, Text.Writable n) :
    n?.mapM Text.writeNumber = .ok (n?.map toString) := by
  cases n? with
  | none => rfl
  | some n =>
    rw [Option.mapM_some, Text.writeNumber_of_writable (h n rfl)]
    rfl

/-- What can be shown has the text of each of its features. -/
theorem Feature.written?_of_showable (f : Feature) {v : Value} (h : v.Showable) {l : Location}
    (hl : v.location? = some l) : f.written? l = .ok (f.of? l) := by
  cases f with
  | series => exact mapM_writeNumber (h.series hl)
  | frame => exact mapM_writeNumber (h.frame hl)
  | _ => rfl

theorem Feature.of?_of_written? {f : Feature} {l : Location} {text? : Option String}
    (h : f.written? l = .ok text?) : f.of? l = text? := by
  have hnumber : ∀ n? : Option Nat, n?.mapM Text.writeNumber = .ok text? →
      n?.map toString = text? := by
    intro n? hn
    cases n? with
    | none => exact Except.ok.inj hn
    | some n =>
      rw [Option.mapM_some] at hn
      obtain ⟨text, hwrite, rfl⟩ := Except.map_eq_ok_iff.1 hn
      rw [(Text.writeNumber_eq_ok_iff.1 hwrite).2]
      rfl
  cases f with
  | series => exact hnumber _ h
  | frame => exact hnumber _ h
  | _ => exact Except.ok.inj h

/-- The text of a feature of a value in a new session. -/
def Feature.textIn? (f : Feature) (v : Value) : Except EvalError (Option String) :=
  (f.textOf? v).run.alone

/-- A feature of a value is looked up in the same way in every session. -/
theorem Feature.answers (f : Feature) (v : Value) : Answers (f.textOf? v) (f.textIn? v) := by
  have htext : ∃ r, Answers (f.textOf? v) r := by
    unfold Feature.textOf?
    split
    · rename_i l _
      split
      · exact ⟨_, (f.answers_value? l).adapt _⟩
      · exact ⟨_, .throw _⟩
    · exact ⟨_, .throw _⟩
  exact exists_gives_iff.1 htext

/-- The metadata value of a value under a key: the one in its row, unless it is empty.
Without one the value must have a description. -/
def metadataOf (key : String) (source : Extractor) (v : Value) :
    Except Text.WriteError (Option String) := do
  let row ← source.row? v
  match (row.get? key).filter (· ≠ "") with
  | some value => return some value
  | none => (fun _ => none) <$> v.describe

theorem answers_noteMissing (key : String) (v : Value) :
    Answers (noteMissing key v) ((fun _ => ()) <$> v.describe) := by
  have heq : (fun _ => ()) <$> v.describe = v.describe >>= fun _ => .ok () := by
    cases v.describe <;> rfl
  rw [heq]
  exact (Answers.ofExcept v.describe).bind fun _ _ => .lift (gives_log _ _ _)

theorem answers_metadataValue? (key : String) (source : Extractor) (v : Value) :
    Answers (metadataValue? key source v) (metadataOf key source v) := by
  have hnone : Answers (do noteMissing key v; return (none : Option String))
      ((fun _ => none) <$> v.describe) := by
    have heq : (fun _ => (none : Option String)) <$> v.describe =
        ((fun _ => ()) <$> v.describe) >>= fun _ => .ok none := by
      cases v.describe <;> rfl
    rw [heq]
    exact (answers_noteMissing key v).bind fun _ _ => .pure none
  unfold metadataValue? metadataOf
  refine (source.answers_row? v).bind fun row _ => ?_
  cases row.get? key with
  | none => exact hnone
  | some value =>
    by_cases hempty : value = ""
    · subst hempty
      exact hnone
    · have hfilter : (some value).filter (· ≠ "") = some value := by simp [hempty]
      rw [hfilter]
      dsimp only
      rw [if_neg hempty]
      exact .pure _

/-- The metadata value of what can be shown is the one in its row, unless it is empty. -/
theorem metadataOf_of_showable {v : Value} (h : v.Showable) (key : String) (source : Extractor) :
    metadataOf key source v = .ok (((source.rowOf v).get? key).filter (· ≠ "")) := by
  obtain ⟨description, hdescribe⟩ := h.describe
  rw [metadataOf, Extractor.row?_of_showable h, hdescribe]
  show (match ((source.rowOf v).get? key).filter (· ≠ "") with
    | some value => .ok (some value)
    | none => .ok none : Except Text.WriteError (Option String)) = _
  cases ((source.rowOf v).get? key).filter (· ≠ "") <;> rfl

theorem eq_of_metadataOf {key : String} {source : Extractor} {v : Value} {text? : Option String}
    (h : metadataOf key source v = .ok text?) :
    ((source.rowOf v).get? key).filter (· ≠ "") = text? := by
  obtain ⟨row, hrow, hvalue⟩ := Except.bind_eq_ok_iff.1 h
  rw [Extractor.rowOf_of_row? hrow]
  cases hfilter : (row.get? key).filter (· ≠ "") with
  | some value =>
    rw [hfilter] at hvalue
    exact Except.ok.inj hvalue
  | none =>
    rw [hfilter] at hvalue
    obtain ⟨_, -, hnone⟩ := Except.map_eq_ok_iff.1 hvalue
    exact hnone

/-- What a metadata look-up answers. -/
def lookedUp (key : String) (source : Extractor) (v : Value) :
    Except EvalError (Option String) :=
  if source.reads v then (metadataOf key source v).mapError .number
  else .error (.unsupported metadataSymbol v.type)

theorem answers_lookUp (key : String) (source : Extractor) (v : Value) :
    Answers (lookUp key source v) (lookedUp key source v) := by
  unfold lookUp lookedUp
  split
  · exact (answers_metadataValue? key source v).adapt _
  · exact .throw _

/-! ## Children -/

/-- The answer of a tree about a value in a new session. -/
def Tree.verdict (t : Tree) (v : Value) : Except EvalError Bool :=
  (t.eval v).run.alone

/-- The verdict of the first of some trees, the children of a predicate. -/
def firstVerdict (symbol : String) : List Tree → Value → Except EvalError Bool
  | [], _ => .error (.childless symbol)
  | t :: _, v => t.verdict v

/-- The number of trees that pass. -/
def passingCount : List Tree → Value → Except EvalError Nat
  | [], _ => .ok 0
  | t :: ts, v => do
    let passes ← t.verdict v
    let count ← passingCount ts v
    return count + (if passes then 1 else 0)

/-- How the verdict of a composite comes from those of its children. -/
def Composite.verdict (c : Composite) (children : List Tree) (v : Value) :
    Except EvalError Bool :=
  match c with
  | .connective .and _ => children.allM (Tree.verdict · v)
  | .connective .or _ => children.anyM (Tree.verdict · v)
  | .connective .does _ => firstVerdict c.symbol children v
  | .connective .not _ | .connective .doesNot _ => (firstVerdict c.symbol children v).map (!·)
  | .feature f => f.textIn? v >>= textVerdict c.symbol children
  | .metadata key source => lookedUp key source v >>= textVerdict c.symbol children
  | .quorum least _ => (passingCount children v).map (decide <| least ≤ ·)
where
  /-- The verdict of the first child on a text, if there is one. -/
  textVerdict (symbol : String) (children : List Tree) : Option String → Except EvalError Bool
    | none => .ok false
    | some s => firstVerdict symbol children (.text s)

/-- Trees answer about a value with their verdicts. -/
def ChildrenAnswer (children : List Tree) (v : Value) : Prop :=
  ∀ t ∈ children, Answers (t.eval v) (t.verdict v)

section
variable {children : List Tree} {v : Value}

theorem answers_evalFirst (symbol : String) (h : ChildrenAnswer children v) :
    Answers (evalFirst .silent symbol children v) (firstVerdict symbol children v) := by
  cases children with
  | nil =>
    rw [evalFirst]
    exact .throw _
  | cons t ts =>
    rw [evalFirst]
    exact h t List.mem_cons_self

theorem answers_evalAll (h : ChildrenAnswer children v) :
    Answers (evalAll .silent children v) (children.allM (Tree.verdict · v)) := by
  induction children with
  | nil =>
    rw [evalAll]
    exact .pure true
  | cons t ts ih =>
    obtain ⟨ht, hts⟩ := List.forall_mem_cons.1 h
    rw [evalAll]
    refine Answers.bind ht fun passes _ => ?_
    cases passes with
    | true => exact ih hts
    | false => exact .pure false

theorem answers_evalAny (h : ChildrenAnswer children v) :
    Answers (evalAny .silent children v) (children.anyM (Tree.verdict · v)) := by
  induction children with
  | nil =>
    rw [evalAny]
    exact .pure false
  | cons t ts ih =>
    obtain ⟨ht, hts⟩ := List.forall_mem_cons.1 h
    rw [evalAny]
    refine Answers.bind ht fun passes _ => ?_
    cases passes with
    | true => exact .pure true
    | false => exact ih hts

theorem answers_countPassing (h : ChildrenAnswer children v) :
    Answers (countPassing .silent children v) (passingCount children v) := by
  induction children with
  | nil =>
    rw [countPassing]
    exact .pure 0
  | cons t ts ih =>
    obtain ⟨ht, hts⟩ := List.forall_mem_cons.1 h
    rw [countPassing]
    exact Answers.bind ht fun passes _ => (ih hts).bind fun count _ => .pure _

/-- A composite that derives a text from what it gets, or rejects it, and asks
its child about the text. -/
theorem answers_textFirst {x : Inquiry (Option String)} {r : Except EvalError (Option String)}
    (hx : Answers x r) (symbol : String) (h : ∀ s, ChildrenAnswer children (.text s)) :
    Answers
      (x >>= fun text? => match text? with
        | none => return false
        | some s => evalFirst .silent symbol children (.text s))
      (r >>= Composite.verdict.textVerdict symbol children) := by
  refine hx.bind fun text? _ => ?_
  cases text? with
  | none => exact .pure false
  | some s => exact answers_evalFirst symbol (h s)

end

/-! ## Trees -/

/-- A composite answers as its children's verdicts say, if they answer with
them. -/
theorem Composite.answers {c : Composite} {children : List Tree} (v : Value)
    (h : ∀ w, ChildrenAnswer children w) :
    Answers ((Tree.branch c children).eval v) (c.verdict children v) := by
  unfold Tree.eval Tree.evalWith
  refine (Answers.pure ()).bind_ok ?_
  cases c with
  | connective c domain =>
    cases c with
    | and => exact answers_evalAll (h v)
    | or => exact answers_evalAny (h v)
    | does => exact answers_evalFirst _ (h v)
    | not => exact (answers_evalFirst _ (h v)).map _
    | doesNot => exact (answers_evalFirst _ (h v)).map _
  | feature f => exact answers_textFirst (f.answers v) _ fun s => h (.text s)
  | metadata key source =>
    exact answers_textFirst (answers_lookUp key source v) _ fun s => h (.text s)
  | quorum least most => exact (answers_countPassing (h v)).map _

/-- A tree answers about a value with its verdict in every sound session. -/
theorem Tree.answers (t : Tree) : ∀ v : Value, Answers (t.eval v) (t.verdict v) := by
  induction t using Tree.induct with
  | leaf l =>
    intro v
    obtain ⟨r, hr⟩ := l.exists_answers v
    refine exists_gives_iff.1 ⟨r, ?_⟩
    unfold Tree.eval Tree.evalWith
    exact (Answers.pure ()).bind_ok hr
  | branch c children ih =>
    intro v
    exact exists_gives_iff.1 ⟨_, Composite.answers v fun w t ht => ih t ht w⟩

/-- The verdict of a composite comes from those of its children. -/
theorem Tree.verdict_branch (c : Composite) (children : List Tree) (v : Value) :
    (Tree.branch c children).verdict v = c.verdict children v :=
  (Composite.answers v fun w t _ => t.answers w).alone_eq

/-! ## Filters -/

/-- Whether a tree passes on a value: it answers, and with yes. -/
def Tree.passes (t : Tree) (v : Value) : Bool :=
  match t.verdict v with
  | .ok passes => passes
  | .error _ => false

/-- Compiling gives a filter with the tree of its text. -/
theorem gives_ofText (text : String) (type : ValueType) (extractor : Option Extractor) :
    Gives (ofText text type extractor)
      ((compileText extractor type text).map fun t => ⟨text, type, t⟩) := by
  unfold ofText
  cases compileText extractor type text with
  | error why => exact .pure _
  | ok t => exact (gives_log _ _ _).bind (.pure _)

end ImageSelect.Filter
