import ImageSelect.Proofs.Filter.Evaluation
import ImageSelect.Proofs.Filter.Places

/-!
# The order of evaluation

Evaluating a sealed tree comes to what the tree means, and it asks exactly the tests that are
reached, in the order in which they are read.  Deriving names and looking up metadata, which
happens in between, runs no probe.

* `Notes`: the answer of an inquiry, and the names that it leaves among those of the probes.
* `Watch.Labels`: a watch that leaves labels where tests are asked.
* `Tree.Sealed.notes_evalAt`: the induction over sealed trees.
* `Composite.through`, `Composite.negated`: a feature or a look-up above and below a negation.
* `sealed_tree_evaluation`: what follows for the evaluation that there is.
-/

namespace ImageSelect.Filter

/-! ## The names that tests leave -/

/-- The names that a test leaves by itself. -/
def LiteralTest.probes (l : LiteralTest) : List String :=
  match l.test with
  | .probe name => [name]
  | _ => []

/-- A label for each test that may be asked. -/
abbrev Label := List Nat → LiteralTest → Value → List String

/-- The names that visits leave: for each one the label, and what the test leaves by itself. -/
def namesOf (label : Label) (visits : List Visit) : List String :=
  visits.flatMap fun visit => label visit.path visit.test visit.value ++ visit.test.probes

theorem namesOf_append (label : Label) (xs ys : List Visit) :
    namesOf label (xs ++ ys) = namesOf label xs ++ namesOf label ys :=
  List.flatMap_append

theorem namesOf_map_under (label : Label) (i : Nat) (visits : List Visit) :
    namesOf label (visits.map (Visit.under i)) =
      namesOf (fun path => label (i :: path)) visits := by
  unfold namesOf
  rw [List.flatMap_map]
  rfl

/-! ## Truth values -/

/-- The truth values up to the first one that settles what a composite means. -/
def Composite.asked (c : Composite) : List Bool → List Bool
  | [] => []
  | passes :: results => passes :: if c.settles passes then [] else c.asked results

/-- The truth values that come after it play no part. -/
theorem Composite.conclude_asked (c : Composite) (results : List Bool) :
    c.conclude (c.asked results) = c.conclude results := by
  have hall : (∀ passes, c.settles passes = false) → c.asked results = results := by
    intro hnever
    induction results with
    | nil => rfl
    | cons passes results ih => simp [asked, hnever, ih]
  cases c with
  | connective c domain =>
    cases c with
    | and =>
      clear hall
      induction results with
      | nil => rfl
      | cons passes results ih => cases passes <;> simp_all [asked, settles, conclude]
    | or =>
      clear hall
      induction results with
      | nil => rfl
      | cons passes results ih => cases passes <;> simp_all [asked, settles, conclude]
    | _ => rw [hall fun _ => rfl]
  | _ => rw [hall fun _ => rfl]

section
variable [CurrentDirectory]

/-! ## Inquiries and the names that they leave -/

/-- From every sound session an inquiry comes to an answer.  It leaves a sound session behind,
and some names behind the names of the probes that ran before.  Only if it is `stuck` may it
break off instead, at a number that cannot be written, and it has left the first of these names
then. -/
def Notes (stuck : Prop) {α : Type} (m : Inquiry α) (a : α) (names : List String) : Prop :=
  ∀ s : Session, s.Sound → ∃ s', s'.Sound ∧
    (m.run.run s = (.ok a, s') ∧ s'.probes.toList = s.probes.toList ++ names ∨
      stuck ∧ m.run.run s = (.error (.number .tooLong), s') ∧
        ∃ first, first <+: names ∧ s'.probes.toList = s.probes.toList ++ first)

namespace Notes

variable {stuck stuck' : Prop} {α β : Type} {m : Inquiry α} {a : α} {names names' : List String}

theorem pure (a : α) : Notes stuck (Pure.pure a) a [] :=
  fun s hs => ⟨s, hs, .inl ⟨rfl, (List.append_nil _).symm⟩⟩

theorem bind {f : α → Inquiry β} {b : β} (h : Notes stuck m a names)
    (hf : Notes stuck (f a) b names') : Notes stuck (m >>= f) b (names ++ names') := by
  intro s hs
  obtain ⟨s', hs', ⟨hrun, hnames⟩ | ⟨hstuck, hrun, first, hfirst, hnames⟩⟩ := h s hs
  · have hbind : (m >>= f).run.run s = (f a).run.run s' := by
      rw [ExceptT.run_bind, StateT.run_bind, hrun]
      rfl
    obtain ⟨s'', hs'', h⟩ := hf s' hs'
    refine ⟨s'', hs'', ?_⟩
    rw [hbind]
    rcases h with ⟨hrun', hnames'⟩ | ⟨hstuck, hrun', first, hfirst, hnames'⟩
    · exact .inl ⟨hrun', by rw [hnames', hnames, List.append_assoc]⟩
    · refine .inr ⟨hstuck, hrun', names ++ first, (List.prefix_append_right_inj names).2 hfirst, ?_⟩
      rw [hnames', hnames, List.append_assoc]
  · refine ⟨s', hs', .inr ⟨hstuck, ?_, first, hfirst.trans (List.prefix_append _ _), hnames⟩⟩
    rw [ExceptT.run_bind, StateT.run_bind, hrun]
    rfl

theorem map (h : Notes stuck m a names) (f : α → β) : Notes stuck (f <$> m) (f a) names := by
  rw [← bind_pure_comp]
  have hmap := h.bind (f := fun a => Pure.pure (f a)) (pure (f a))
  rwa [List.append_nil] at hmap

theorem mono (h : Notes stuck m a names) (himp : stuck → stuck') : Notes stuck' m a names := by
  intro s hs
  obtain ⟨s', hs', hrun⟩ := h s hs
  exact ⟨s', hs', hrun.imp_right fun ⟨hstuck, hbreak⟩ => ⟨himp hstuck, hbreak⟩⟩

/-- What leaves the probes alone leaves no name. -/
theorem of_answers {r : Except EvalError α} (h : Answers m r) (hquiet : Quiet m.run)
    (hr : r = .ok a ∨ stuck ∧ r = .error (.number .tooLong)) : Notes stuck m a [] := by
  intro s hs
  obtain ⟨s', hrun, hs'⟩ := h s hs
  have hprobes : s'.probes.toList = s.probes.toList ++ [] := by
    have hsame := hquiet s
    rw [hrun] at hsame
    rw [hsame, List.append_nil]
  refine ⟨s', hs', ?_⟩
  rcases hr with rfl | ⟨hstuck, rfl⟩
  · exact .inl ⟨hrun, hprobes⟩
  · exact .inr ⟨hstuck, hrun, [], List.prefix_refl [], hprobes⟩

theorem visit (name : String) : Notes stuck (Run.visit name : Inquiry Unit) () [name] := by
  intro s hs
  refine ⟨{ s with probes := s.probes.push name }, hs.of_names rfl, .inl ⟨rfl, ?_⟩⟩
  rw [Array.toList_push]

/-- What is not stuck comes to its answer. -/
theorem answers (h : Notes stuck m a names) (hstuck : ¬stuck) : Answers m (.ok a) := by
  intro s hs
  obtain ⟨s', hs', ⟨hrun, -⟩ | ⟨habsurd, -⟩⟩ := h s hs
  · exact ⟨s', hrun, hs'⟩
  · exact absurd habsurd hstuck

end Notes

/-! ## The names that an evaluation leaves -/

/-- A watch that leaves labels where tests are asked. -/
structure Watch.Labels (watch : List Nat → Watch) (label : Label) : Prop where
  leaf : ∀ path l v, Notes False (watch path (.leaf l) v) () (label path l v)
  branch : ∀ path c children v, Notes False (watch path (.branch c children) v) () []

theorem Watch.Labels.under {watch : List Nat → Watch} {label : Label}
    (h : Watch.Labels watch label) (i : Nat) :
    Watch.Labels (fun path => watch (i :: path)) (fun path => label (i :: path)) :=
  ⟨fun path => h.leaf (i :: path), fun path => h.branch (i :: path)⟩

theorem Watch.labels_silent : Watch.Labels (fun _ => .silent) (fun _ _ _ => []) :=
  ⟨fun _ _ _ => .pure (), fun _ _ _ _ => .pure ()⟩

/-- The watch that leaves a label as if it were the name of a probe. -/
def Watch.labelling (label : List Nat → LiteralTest → Value → String) (path : List Nat) : Watch
  | .leaf l, v => (Run.visit (label path l v) : Inquiry Unit)
  | .branch _ _, _ => pure ()

theorem Watch.labels_labelling (label : List Nat → LiteralTest → Value → String) :
    Watch.Labels (.labelling label) (fun path l v => [label path l v]) :=
  ⟨fun _ _ _ => .visit _, fun _ _ _ _ => .pure ()⟩

/-- A test answers about a text with what it means. -/
theorem LiteralTest.notes_eval {stuck : Prop} (l : LiteralTest) (s : String) :
    Notes stuck (l.eval (.text s)) (l.meaning (.text s)) l.probes := by
  have hnote : Notes stuck (l.test.note : Inquiry Unit) () l.probes := by
    unfold TextTest.note LiteralTest.probes
    cases l.test with
    | probe name => exact .visit name
    | _ => exact .pure ()
  have heval := hnote.bind (f := fun _ => pure (l.holds s)) (.pure (l.holds s))
  rw [List.append_nil] at heval
  unfold LiteralTest.eval
  exact heval

theorem Feature.quiet_value? (f : Feature) (l : Location) : Quiet (f.value? l).run := by
  cases f with
  | fileName => exact (quiet_fileName? l.url).run_lift
  | directory => exact (quiet_pathName? l.url).run_lift
  | extension => exact ((quiet_fileName? l.url).map _).run_lift
  | url => exact .pure _
  | series => exact .run_ofExcept _
  | frame => exact .run_ofExcept _

theorem quiet_metadataValue? (key : String) (source : Extractor) (v : Value) :
    Quiet (metadataValue? key source v).run := by
  have hnone : Quiet (do noteMissing key v; return (none : Option String) : Writing _).run :=
    ((Quiet.run_ofExcept _).run_bind fun _ => (quiet_log _ _ _).run_lift).run_bind fun _ => .pure _
  unfold metadataValue?
  refine (source.quiet_extract v).run_bind fun row => ?_
  split
  · split
    · exact hnone
    · exact .pure _
  · exact hnone

/-- A feature is looked up without a name. -/
theorem Feature.notes_textOf? {f : Feature} {v : Value} (h : v.isA f.input = true) :
    Notes (¬v.Showable) (f.textOf? v) (v.location?.bind f.of?) [] := by
  obtain ⟨l, hl⟩ := Value.location?_of_isA h
  rw [Feature.textOf?_of_location? hl h, hl]
  refine .of_answers ((f.answers_value? l).adapt _) ((f.quiet_value? l).map _) ?_
  by_cases hshow : v.Showable
  · rw [f.written?_of_showable hshow hl]
    exact .inl rfl
  · cases hwritten : f.written? l with
    | ok text? =>
      have htext : (some l).bind f.of? = text? := Feature.of?_of_written? hwritten
      rw [htext]
      exact .inl rfl
    | error why => exact .inr ⟨hshow, rfl⟩

/-- Metadata is looked up without a name. -/
theorem notes_lookUp {key : String} {source : Extractor} {p : Plane}
    (hsource : source.ReadsPlanes) :
    Notes (¬(Value.plane p).Showable) (lookUp key source (.plane p))
      (((source.rowOf (.plane p)).get? key).filter (· ≠ "")) [] := by
  rw [lookUp_plane hsource]
  refine .of_answers ((answers_metadataValue? key source _).adapt _)
    ((quiet_metadataValue? key source _).map _) ?_
  by_cases hshow : (Value.plane p).Showable
  · rw [metadataOf_of_showable hshow]
    exact .inl rfl
  · cases hvalue : metadataOf key source (.plane p) with
    | ok text? =>
      rw [eq_of_metadataOf hvalue]
      exact .inl rfl
    | error why => exact .inr ⟨hshow, rfl⟩

/-- What a composite hands to its children is looked up without a name. -/
theorem Composite.notes_derive? {c : Composite} {v : Value} (hv : v.isA c.input = true)
    (hsource : ∀ key source, c = .metadata key source → source.ReadsPlanes) :
    Notes (¬v.Showable) (c.derive? v) (c.value? v) [] := by
  cases c with
  | connective c domain => exact .pure _
  | feature f => exact (Feature.notes_textOf? hv).map _
  | metadata key source =>
    obtain ⟨p, rfl⟩ := Value.eq_plane_of_isA hv
    exact (notes_lookUp (hsource key source rfl)).map _
  | quorum least most => exact .pure _

/-- What a composite hands to its children can be shown if its own value can. -/
theorem Composite.showable_of_value? {c : Composite} {v w : Value} (h : c.value? v = some w)
    (hv : v.Showable) : w.Showable := by
  cases c with
  | connective c domain =>
    obtain rfl := Option.some.inj h
    exact hv
  | feature f =>
    obtain ⟨s, -, rfl⟩ := Option.map_eq_some_iff.1 h
    exact Value.showable_text s
  | metadata key source =>
    obtain ⟨s, -, rfl⟩ := Option.map_eq_some_iff.1 h
    exact Value.showable_text s
  | quorum least most =>
    obtain rfl := Option.some.inj h
    exact hv

/-- It is a value of the type that the composite supplies. -/
theorem Composite.isA_of_value? {c : Composite} {v w : Value} (h : c.value? v = some w)
    (hv : v.isA c.input = true) : w.isA c.output = true := by
  cases c with
  | connective c domain =>
    obtain rfl := Option.some.inj h
    exact hv
  | feature f =>
    obtain ⟨s, -, rfl⟩ := Option.map_eq_some_iff.1 h
    rfl
  | metadata key source =>
    obtain ⟨s, -, rfl⟩ := Option.map_eq_some_iff.1 h
    rfl
  | quorum least most =>
    obtain rfl := Option.some.inj h
    exact hv

/-- Children that are asked one after the other leave their names in that order. -/
theorem notes_askFrom {stuck : Prop} {c : Composite} {children : List Tree} {v : Value}
    (h : ∀ t ∈ children, ∀ watch label, Watch.Labels watch label →
      Notes stuck (t.evalAt watch v) (t.meaning v) (namesOf label (t.visits v)))
    {watch : List Nat → Watch} {label : Label} (hwatch : Watch.Labels watch label) :
    ∀ i, Notes stuck (askFrom watch c i children v) (c.asked (meaningsOf children v))
      (namesOf label (visitsFrom c i children v)) := by
  induction children with
  | nil =>
    intro i
    rw [askFrom, visitsFrom]
    exact .pure []
  | cons t ts ih =>
    intro i
    obtain ⟨ht, hts⟩ := List.forall_mem_cons.1 h
    rw [askFrom, visitsFrom, meaningsOf, Composite.asked, namesOf_append, namesOf_map_under]
    -- The child leaves its labels under its number; what follows depends on its answer only.
    refine (ht _ _ (hwatch.under i)).bind ?_
    cases c.settles (t.meaning v) with
    | true => exact .pure _
    | false => exact (ih hts (i + 1)).map _

/-- A sealed tree whose look-ups read planes answers about every value that its root consumes
with what it means, and is stuck only at a value that cannot be shown.  The labels that it leaves
are those of its visits, in their order. -/
theorem Tree.Sealed.notes_evalAt {t : Tree} (h : t.Sealed)
    (hsource : ∀ key source, (key, source) ∈ t.lookUps → source.ReadsPlanes) {v : Value}
    (hv : v.isA t.shape.input = true) :
    ∀ watch label, Watch.Labels watch label →
      Notes (¬v.Showable) (t.evalAt watch v) (t.meaning v) (namesOf label (t.visits v)) := by
  induction t using Tree.induct generalizing v with
  | leaf l =>
    intro watch label hwatch
    obtain ⟨s, rfl⟩ := Value.eq_text_of_isA hv
    have hnames : namesOf label ((Tree.leaf l).visits (.text s)) =
        label [] l (.text s) ++ l.probes := by
      rw [visits, namesOf, List.flatMap_singleton]
    rw [hnames, evalAt, meaning]
    exact ((hwatch.leaf [] l _).mono False.elim).bind (l.notes_eval s)
  | branch c children ih =>
    intro watch label hwatch
    obtain ⟨-, hfeeds, hbelow⟩ := Tree.sealed_branch_iff.1 h
    have hderive := Composite.notes_derive? hv fun key source hc =>
      hsource key source (mem_lookUps_branch_iff.2 (.inl hc))
    unfold Tree.evalAt
    refine ((hwatch.branch [] c children v).mono False.elim).bind (hderive.bind ?_)
    cases hvalue : c.value? v with
    | none =>
      rw [meaning_branch_of_none hvalue, visits, hvalue]
      exact .pure false
    | some w =>
      rw [meaning_branch_of_some hvalue, visits, hvalue, ← Composite.conclude_asked]
      refine (notes_askFrom (fun t ht watch label hlabels => ?_) hwatch 0).map _
      exact (ih t ht (hbelow t ht) (fun key source hmem =>
        hsource key source (mem_lookUps_of_mem ht hmem))
        (hfeeds.isA (Composite.isA_of_value? hvalue hv) ht) watch label hlabels).mono
          (mt (Composite.showable_of_value? hvalue))

/-! ## Sealed trees -/

/-- From every sound session a tree gives an answer about a value, and the tests that it asks
are those of some visits, in their order.  Evaluation leaves the names of the probes among them
in this order.  Evaluation with places, under a watch that leaves any labels for the places and
tests, leaves the labels of all of them.  About a value with a number that cannot be written both
may break off at that number, after the first of these tests. -/
def Tree.Evaluates (t : Tree) (v : Value) (answer : Bool) (visits : List Visit) : Prop :=
  Notes (¬v.Showable) (t.eval v) answer (visits.flatMap fun visit => visit.test.probes) ∧
    ∀ label : List Nat → LiteralTest → Value → String,
      Notes (¬v.Showable) (t.evalAt (.labelling label) v) answer (visits.flatMap fun visit =>
        label visit.path visit.test visit.value :: visit.test.probes)

section
variable {t : Tree} {v : Value}

theorem Tree.Sealed.evaluates (h : t.Sealed)
    (hsource : ∀ key source, (key, source) ∈ t.lookUps → source.ReadsPlanes)
    (hv : v.isA t.shape.input = true) : t.Evaluates v (t.meaning v) (t.visits v) := by
  constructor
  · have hsilent := h.notes_evalAt hsource hv _ _ Watch.labels_silent
    rwa [h.evalAt_eq] at hsilent
  · intro label
    exact h.notes_evalAt hsource hv _ _ (Watch.labels_labelling label)

end

end

/-! ## Features and look-ups -/

/-- The composites that derive a text from what they get. -/
def Composite.DerivesText (c : Composite) : Prop :=
  (∃ f, c = .feature f) ∨ ∃ key source, c = .metadata key source

/-- A connective between such a composite and a tree for texts. -/
def Composite.through (c : Composite) (k : Connective) (t : Tree) : Tree :=
  .branch c [.branch (.connective k .text) [t]]

/-- The negation of such a composite and a tree for texts, for values of a type. -/
def Composite.negated (c : Composite) (domain : ValueType) (t : Tree) : Tree :=
  .branch (.connective .not domain) [.branch c [t]]

section
variable {c : Composite} {t : Tree} {v w : Value}

theorem Composite.DerivesText.conclude_one (hc : c.DerivesText) (passes : Bool) :
    c.conclude [passes] = passes := by
  rcases hc with ⟨f, rfl⟩ | ⟨key, source, rfl⟩ <;> rfl

theorem Composite.DerivesText.sealed_one (hc : c.DerivesText) (ht : t.Sealed)
    (haccepts : t.shape.accepts (some .text) = true) : (Tree.branch c [t]).Sealed := by
  refine Tree.sealed_branch_iff.2 ⟨?_, ?_, List.forall_mem_singleton.2 ht⟩
  · rcases hc with ⟨f, rfl⟩ | ⟨key, source, rfl⟩ <;> rfl
  · refine List.forall_mem_singleton.2 ?_
    rcases hc with ⟨f, rfl⟩ | ⟨key, source, rfl⟩ <;> exact haccepts

theorem Tree.sealed_connective_one {k : Connective} {domain : ValueType} (ht : t.Sealed)
    (haccepts : t.shape.accepts (some domain) = true) :
    (branch (.connective k domain) [t]).Sealed := by
  refine sealed_branch_iff.2 ⟨?_, List.forall_mem_singleton.2 haccepts,
    List.forall_mem_singleton.2 ht⟩
  cases k <;> rfl

theorem Composite.sealed_through (hc : c.DerivesText) (k : Connective) (ht : t.Sealed)
    (haccepts : t.shape.accepts (some .text) = true) : (c.through k t).Sealed :=
  hc.sealed_one (Tree.sealed_connective_one ht haccepts) (ValueType.isSubtype_refl .text)

theorem Composite.sealed_negated (hc : c.DerivesText) {domain : ValueType} (ht : t.Sealed)
    (haccepts : t.shape.accepts (some .text) = true)
    (hdomain : domain.isSubtype c.input = true) : (c.negated domain t).Sealed :=
  Tree.sealed_connective_one (hc.sealed_one ht haccepts) hdomain

/-- The look-ups of these trees. -/
theorem Composite.lookUps_through (k : Connective) :
    (c.through k t).lookUps = (Tree.branch c [t]).lookUps := by
  cases c <;> simp [through, Tree.lookUps, lookUpsAll]

theorem Composite.lookUps_negated (domain : ValueType) :
    (c.negated domain t).lookUps = (Tree.branch c [t]).lookUps := by
  cases c <;> simp [negated, Tree.lookUps, lookUpsAll]

variable [CurrentDirectory]

/-- With the text, such a composite means what its child means of it. -/
theorem Composite.DerivesText.meaning_of_some (hc : c.DerivesText) (h : c.value? v = some w) :
    (Tree.branch c [t]).meaning v = t.meaning w := by
  rw [Tree.meaning_branch_of_some h, meaningsOf, meaningsOf, hc.conclude_one]

/-- Without the text no test is asked, whatever connective there is. -/
theorem Composite.through_of_none (h : c.value? v = none) (k : Connective) :
    (c.through k t).meaning v = false ∧ (c.through k t).visits v = [] := by
  constructor
  · exact Tree.meaning_branch_of_none h
  · exact Tree.visits_branch_of_none h

theorem Composite.negated_of_none (h : c.value? v = none) (domain : ValueType) :
    (c.negated domain t).meaning v = true ∧ (c.negated domain t).visits v = [] := by
  have hmeaning : (Tree.branch c [t]).meaning v = false := Tree.meaning_branch_of_none h
  have hvisits : (Tree.branch c [t]).visits v = [] := Tree.visits_branch_of_none h
  constructor
  · rw [negated, Tree.meaning_branch_of_some rfl, meaningsOf, hmeaning]
    rfl
  · rw [negated, Tree.visits_branch_of_some rfl, visitsFrom_one, hvisits]
    rfl

/-- With the text, the child is asked about it, whatever connective there is. -/
theorem Composite.visits_through (h : c.value? v = some w) (k : Connective) :
    (c.through k t).visits v = ((t.visits w).map (Visit.under 0)).map (Visit.under 0) := by
  rw [through, Tree.visits_branch_of_some h, visitsFrom_one, Tree.visits_branch_of_some rfl,
    visitsFrom_one]

/-- With the text, `does` and `doesnot` ask the same tests and mean the opposite. -/
theorem Composite.through_of_some (hc : c.DerivesText) (h : c.value? v = some w) :
    (c.through .does t).meaning v = t.meaning w ∧
      (c.through .doesNot t).meaning v = !t.meaning w ∧
      (c.through .doesNot t).visits v = (c.through .does t).visits v := by
  refine ⟨?_, ?_, ?_⟩
  · rw [through, hc.meaning_of_some h, Tree.meaning_branch_of_some rfl]
    rfl
  · rw [through, hc.meaning_of_some h, Tree.meaning_branch_of_some rfl]
    rfl
  · rw [visits_through h, visits_through h]

end

section
variable [CurrentDirectory]

/-- A series that cannot be written is no text to ask about. -/
theorem Tree.eval_series_of_not_writable {p : Plane} (h : ¬Text.Writable p.series)
    (children : List Tree) (s : Session) :
    ((branch (.feature .series) children).eval (.plane p)).run.run s =
      (.error (.number .tooLong), s) := by
  have htext : Feature.series.textOf? (.plane p) = throw (.number .tooLong) := by
    rw [Feature.textOf?_of_location? (l := .plane p) rfl rfl, Feature.value?, Location.series?,
      Option.mapM_some, Text.writeNumber_of_not_writable h]
    rfl
  unfold Tree.eval Tree.evalWith
  dsimp only
  rw [htext]
  rfl

/-- A sealed tree whose look-ups read planes has an answer about each value of the type that its
root consumes: what it means.  Exactly the tests that are reached are asked, in the order in
which they are read and none of them twice; the watch that is told the places sees it in the
evaluation that there is.  Only about a value with a number that cannot be written may it break
off, at that number and after the first of these tests.  So, for a feature or a look-up and a tree
for texts: without the text `does` and `doesnot` are both false and the negation is true, and no
test is asked; with it, one of `does` and `doesnot` is true and the other one is not. -/
theorem sealed_tree_evaluation :
    (∀ (t : Tree) (v : Value), t.Sealed →
      (∀ key source, (key, source) ∈ t.lookUps → source.ReadsPlanes) →
      v.isA t.shape.input = true →
        t.Evaluates v (t.meaning v) (t.visits v) ∧
        (∀ watch : Watch, t.evalAt (fun _ => watch) v = t.evalWith watch v) ∧
        (t.visits v).Pairwise Visit.Before ∧
        ∀ visit, visit ∈ t.visits v ↔ t.Reached v visit) ∧
    (∀ (c : Composite) (t : Tree) (v : Value) (domain : ValueType), c.DerivesText → t.Sealed →
      t.shape.accepts (some .text) = true →
      (∀ key source, (key, source) ∈ (Tree.branch c [t]).lookUps → source.ReadsPlanes) →
      domain.isSubtype c.input = true → v.isA domain = true →
        (c.value? v = none →
          (c.through .does t).Evaluates v false [] ∧ (c.through .doesNot t).Evaluates v false [] ∧
            (c.negated domain t).Evaluates v true []) ∧
        (∀ w, c.value? v = some w →
          ∃ passes visits, (c.through .does t).Evaluates v passes visits ∧
            (c.through .doesNot t).Evaluates v (!passes) visits)) := by
  constructor
  · intro t v hsealed hsource hv
    exact ⟨hsealed.evaluates hsource hv, fun watch => hsealed.evalAt_eq watch v,
      t.pairwise_visits v, fun visit => Tree.mem_visits_iff⟩
  · intro c t v domain hc ht haccepts hsource hdomain hv
    have hthrough : ∀ k,
        (c.through k t).Evaluates v ((c.through k t).meaning v) ((c.through k t).visits v) := by
      intro k
      refine (Composite.sealed_through hc k ht haccepts).evaluates ?_ (Value.isA_trans hv hdomain)
      rwa [Composite.lookUps_through]
    have hnegated := (Composite.sealed_negated hc ht haccepts hdomain).evaluates (v := v)
    rw [Composite.lookUps_negated] at hnegated
    constructor
    · intro hnone
      obtain ⟨hmeaning, hvisits⟩ := Composite.negated_of_none (t := t) hnone domain
      have hdoes := hthrough .does
      have hdoesNot := hthrough .doesNot
      have hnot := hnegated hsource hv
      rw [(Composite.through_of_none hnone _).1, (Composite.through_of_none hnone _).2]
        at hdoes hdoesNot
      rw [hmeaning, hvisits] at hnot
      exact ⟨hdoes, hdoesNot, hnot⟩
    · intro w hsome
      obtain ⟨hmeans, hnot, hsame⟩ := Composite.through_of_some (t := t) hc hsome
      have hdoes := hthrough .does
      have hdoesNot := hthrough .doesNot
      rw [hmeans] at hdoes
      rw [hnot, hsame] at hdoesNot
      exact ⟨t.meaning w, _, hdoes, hdoesNot⟩

end

/-- About a plane whose series has a digit too many, a tree that looks at the series breaks off
in every session. -/
theorem long_series_breaks_off :
    letI : CurrentDirectory := .root
    let v : Value := .plane ⟨{ url := "file:///a.tif" }, 10 ^ Text.digitLimit, 0⟩
    let t : Tree := .branch (.feature .series) [.leaf ⟨.eq, "1", none, rfl⟩]
    compileText none .plane "series eq \"1\"" = .ok t ∧ t.Sealed ∧ v.isA t.shape.input = true ∧
      ∀ s : Session, (t.eval v).run.run s = (.error (.number .tooLong), s) := by
  let _ : CurrentDirectory := .root
  intro v t
  have hcompile : compileText none .plane "series eq \"1\"" = .ok t :=
    compileText_eq_ok_iff.2 ⟨[⟨.symbol "series" none, 0⟩, ⟨.symbol "eq" none, 7⟩,
      ⟨.literal "1", 10⟩], by decide +kernel, by with_unfolding_all rfl⟩
  refine ⟨hcompile, Tree.sealed_branch_iff.2 ⟨rfl, ?_, ?_⟩, rfl, fun s => ?_⟩
  · exact List.forall_mem_singleton.2 rfl
  · exact List.forall_mem_singleton.2 (Tree.sealed_leaf _)
  · exact Tree.eval_series_of_not_writable (p := ⟨_, 10 ^ Text.digitLimit, 0⟩)
      Text.not_writable_pow _ s

/-- The statement for a plane of a file that has a name and no path name.  The first alternative
is false, the second one has no text to ask about, the third one settles the disjunction, and
the last one is not asked. -/
theorem sealed_tree_evaluation_alternatives :
    letI : CurrentDirectory := .root
    let v : Value := .plane ⟨{ url := "omero:iid=123" }, 1, 0⟩
    let probe := fun name literal => Tree.leaf ⟨.probe name, literal, none, rfl⟩
    let file : Composite := .feature .fileName
    let path : Composite := .metadata "PathName" (.plane .own)
    let series : Composite := .metadata "Series" (.plane .own)
    let t : Tree := .branch (.connective .or .plane)
      [file.through .does (probe "a" "fail"), path.through .doesNot (probe "b" "fail"),
        series.through .doesNot (probe "c" "fail"), file.through .does (probe "d" "pass")]
    t.Sealed ∧ v.isA t.shape.input = true ∧ Notes False (t.eval v) true ["a", "c"] ∧
    path.value? v = none ∧
    (path.through .does (probe "b" "fail")).Evaluates v false [] ∧
    (path.through .doesNot (probe "b" "fail")).Evaluates v false [] ∧
    (path.negated .plane (probe "b" "fail")).Evaluates v true [] ∧
    ∃ passes visits, (series.through .does (probe "c" "fail")).Evaluates v passes visits ∧
      (series.through .doesNot (probe "c" "fail")).Evaluates v (!passes) visits := by
  let _ : CurrentDirectory := .root
  intro v probe file path series t
  have hfile : file.DerivesText := .inl ⟨_, rfl⟩
  have hpath : path.DerivesText := .inr ⟨_, _, rfl⟩
  have hseries : series.DerivesText := .inr ⟨_, _, rfl⟩
  have hprobe : ∀ name literal, (probe name literal).Sealed := fun _ _ => Tree.sealed_leaf _
  have hsealed : t.Sealed := by
    refine Tree.sealed_branch_iff.2 ⟨rfl, fun child hchild => ?_, fun child hchild => ?_⟩
    · simp only [List.mem_cons, List.not_mem_nil, or_false] at hchild
      rcases hchild with rfl | rfl | rfl | rfl <;> rfl
    · simp only [List.mem_cons, List.not_mem_nil, or_false] at hchild
      rcases hchild with rfl | rfl | rfl | rfl
      · exact Composite.sealed_through hfile _ (hprobe _ _) rfl
      · exact Composite.sealed_through hpath _ (hprobe _ _) rfl
      · exact Composite.sealed_through hseries _ (hprobe _ _) rfl
      · exact Composite.sealed_through hfile _ (hprobe _ _) rfl
  have hreads : ∀ key source, (key, source) ∈ t.lookUps → source.ReadsPlanes := by
    intro key source hmem
    have hsource : source = .plane .own := by
      simp [t, file, path, series, probe, Composite.through, Tree.lookUps, lookUpsAll] at hmem
      rcases hmem with ⟨-, rfl⟩ | ⟨-, rfl⟩ <;> rfl
    rw [hsource]
    exact Extractor.readsPlanes_plane .own
  have hshow : v.Showable := (Value.showable_plane_iff _).2 ⟨by decide, by decide⟩
  have hname : (Location.fileName "omero:iid=123").toOption = some "iid=123" := by
    decide +kernel
  have hcells : (Extractor.plane .own).rowOf v =
      ⟨[("FileLocation", "omero:iid=123"), ("Series", "1"), ("Frame", "0"),
        ("FileName", "iid=123"), ("PathName", "")]⟩ := by
    rw [Extractor.rowOf_plane_eq hshow]
    decide +kernel
  have hfileText : file.value? v = some (.text "iid=123") := congrArg (Option.map Value.text) hname
  have hpathText : path.value? v = none := by
    show Option.map Value.text _ = none
    rw [hcells]
    rfl
  have hseriesText : series.value? v = some (.text "1") := by
    show Option.map Value.text _ = some (.text "1")
    rw [hcells]
    rfl
  obtain ⟨⟨heval, -⟩, -⟩ := sealed_tree_evaluation.1 t v hsealed hreads rfl
  have hmeaning : t.meaning v = true := by
    rw [Tree.meaning_branch_of_some rfl]
    simp only [meaningsOf, (Composite.through_of_some hfile hfileText).1,
      (Composite.through_of_none hpathText _).1,
      (Composite.through_of_some hseries hseriesText).2.1]
    rfl
  have hnames : ((t.visits v).flatMap fun visit => visit.test.probes) = ["a", "c"] := by
    rw [Tree.visits_branch_of_some rfl]
    simp only [visitsFrom, (Composite.through_of_some hfile hfileText).1,
      (Composite.through_of_none hpathText _).1, (Composite.through_of_none hpathText _).2,
      (Composite.through_of_some hseries hseriesText).2.1,
      Composite.visits_through hfileText, Composite.visits_through hseriesText]
    rfl
  rw [hmeaning, hnames] at heval
  obtain ⟨hlacks, -⟩ := sealed_tree_evaluation.2 path (probe "b" "fail") v .plane hpath
    (hprobe _ _) rfl (by
      simp only [path, probe, Tree.lookUps, lookUpsAll, List.append_nil, List.mem_singleton,
        Prod.mk.injEq]
      rintro key source ⟨-, rfl⟩
      exact Extractor.readsPlanes_plane .own) rfl rfl
  obtain ⟨-, hhas⟩ := sealed_tree_evaluation.2 series (probe "c" "fail") v .plane hseries
    (hprobe _ _) rfl (by
      simp only [series, probe, Tree.lookUps, lookUpsAll, List.append_nil, List.mem_singleton,
        Prod.mk.injEq]
      rintro key source ⟨-, rfl⟩
      exact Extractor.readsPlanes_plane .own) rfl rfl
  obtain ⟨hdoes, hdoesNot, hnegated⟩ := hlacks hpathText
  exact ⟨hsealed, rfl, heval.mono fun h => h hshow, hpathText, hdoes, hdoesNot, hnegated,
    hhas _ hseriesText⟩

end ImageSelect.Filter
