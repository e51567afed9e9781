import ImageSelect.Filter.Compiled
import ImageSelect.Proofs.Filter.Builder
import ImageSelect.Proofs.Filter.Congruence
import ImageSelect.Proofs.Filter.Verdict

/-!
# Evaluating well-formed trees

A well-formed tree answers about every value of the type that its root
consumes, if the numbers of the value can be written.  No predicate on the way
gets a value that it cannot look at, and none is without the child that it asks.

`Watch.typed` is the watch that breaks off where a predicate is asked about a
value outside the type that it consumes.  The statement is that evaluating
under this watch and without it agree and never break off, from every
session.

* `Agrees` relates two inquiries that answer alike, and evaluation respects it.
* `Tree.WellFormed.agrees` is the induction over well-formed trees.
-/

namespace ImageSelect

/-! ## Types of values -/

/-- A value of a type is one of every wider type. -/
theorem Value.isA_trans {v : Value} {t u : ValueType} (hv : v.isA t = true)
    (htu : t.isSubtype u = true) : v.isA u = true :=
  ValueType.isSubtype_trans hv htu

theorem Value.eq_text_of_isA {v : Value} (h : v.isA .text = true) : ∃ s, v = .text s := by
  cases v with
  | text s => exact ⟨s, rfl⟩
  | _ => simp [Value.isA, Value.type, ValueType.isSubtype] at h

theorem Value.eq_plane_of_isA {v : Value} (h : v.isA .plane = true) : ∃ p, v = .plane p := by
  cases v with
  | plane p => exact ⟨p, rfl⟩
  | _ => simp [Value.isA, Value.type, ValueType.isSubtype] at h

/-- A value of a type of locations is a location. -/
theorem Value.location?_of_isA {v : Value} {f : Filter.Feature} (h : v.isA f.input = true) :
    ∃ l, v.location? = some l := by
  have hl : v.isA .location = true := Value.isA_trans h (by cases f <;> rfl)
  cases v with
  | plane p => exact ⟨_, rfl⟩
  | file f => exact ⟨_, rfl⟩
  | _ => simp [Value.isA, Value.type, ValueType.isSubtype] at hl

/-- An extractor has a row for every plane. -/
def Extractor.ReadsPlanes (e : Extractor) : Prop :=
  ∀ p, e.reads (.plane p) = true

theorem Extractor.readsPlanes_plane (sharing : Sharing) : (plane sharing).ReadsPlanes := by
  intro p
  rfl

namespace Filter

/-- The extractor of look-ups reads planes if a given one does. -/
theorem readsPlanes_lookUpSource {extractor : Option Extractor}
    (h : ∀ e, extractor = some e → e.ReadsPlanes) : (lookUpSource extractor).ReadsPlanes := by
  cases extractor with
  | none => exact Extractor.readsPlanes_plane .own
  | some e => exact h e rfl

/-! ## Inquiries that answer alike -/

/-- Two inquiries give the same answer from every session, leave the same
session behind, and do not break off. -/
def Agrees {α : Type} (m m' : Inquiry α) : Prop :=
  ∀ s : Session, ∃ a s', m.run.run s = (.ok a, s') ∧ m'.run.run s = (.ok a, s')

namespace Agrees

variable {α β : Type}

theorem pure (a : α) : Agrees (Pure.pure a) (Pure.pure a) :=
  fun s => ⟨a, s, rfl, rfl⟩

/-- What breaks off in no session agrees with itself. -/
theorem of_succeeds {m : Inquiry α} (h : Succeeds m) : Agrees m m := by
  intro s
  obtain ⟨a, s', hm⟩ := h s
  exact ⟨a, s', hm, hm⟩

theorem bind {m m' : Inquiry α} {f f' : α → Inquiry β} (h : Agrees m m')
    (hf : ∀ a, Agrees (f a) (f' a)) : Agrees (m >>= f) (m' >>= f') := by
  intro s
  obtain ⟨a, s', hm, hm'⟩ := h s
  obtain ⟨b, s'', hb, hb'⟩ := hf a s'
  refine ⟨b, s'', ?_, ?_⟩
  · rw [ExceptT.run_bind, StateT.run_bind, hm]
    exact hb
  · rw [ExceptT.run_bind, StateT.run_bind, hm']
    exact hb'

/-- Evaluation respects agreement. -/
theorem congruence : Congruence fun _ => Agrees :=
  ⟨Agrees.pure, Agrees.bind⟩

end Agrees

/-! ## Predicates -/

/-- The watch that breaks off where a tree is asked about a value outside the
type that its root consumes. -/
def Watch.typed : Watch := fun t v =>
  if v.isA t.shape.input then pure () else throw (.unsupported t.shape.symbol v.type)

theorem Watch.typed_eq_silent {t : Tree} {v : Value} (h : v.isA t.shape.input = true) :
    Watch.typed t v = Watch.silent t v := by
  rw [Watch.typed, if_pos h]
  rfl

/-- What a composite supplies is what its children can look at. -/
theorem Composite.Feeds.isA {c : Composite} {children : List Tree} {v : Value} {t : Tree}
    (h : c.Feeds children) (hv : v.isA c.output = true) (ht : t ∈ children) :
    v.isA t.shape.input = true :=
  Value.isA_trans hv (h t ht)

/-- A test answers about every text. -/
theorem LiteralTest.agrees_eval (l : LiteralTest) (s : String) :
    Agrees (l.eval (.text s)) (l.eval (.text s)) := by
  unfold LiteralTest.eval
  exact (Agrees.of_succeeds (.lift l.test.note)).bind fun _ => .pure _

section
variable [CurrentDirectory]

/-- The text of a feature of a location of the type that it needs. -/
theorem Feature.textOf?_of_location? {f : Feature} {v : Value} {l : Location}
    (hl : v.location? = some l) (h : v.isA f.input = true) :
    f.textOf? v = (f.value? l).adapt .number := by
  rw [Feature.textOf?, hl]
  exact if_pos h

theorem Feature.succeeds_value? (f : Feature) {v : Value} (h : v.Showable) {l : Location}
    (hl : v.location? = some l) : Succeeds (f.value? l) := by
  cases f with
  | url => exact .pure _
  | series => exact .ofExcept (mapM_writeNumber (h.series hl))
  | frame => exact .ofExcept (mapM_writeNumber (h.frame hl))
  | fileName => exact .lift _
  | directory => exact .lift _
  | extension => exact (Succeeds.lift _).map _

/-- A feature is looked up in every value of the type that it needs. -/
theorem Feature.agrees_textOf? {f : Feature} {v : Value} (h : v.isA f.input = true)
    (hshow : v.Showable) : Agrees (f.textOf? v) (f.textOf? v) := by
  obtain ⟨l, hl⟩ := Value.location?_of_isA h
  rw [Feature.textOf?_of_location? hl h]
  exact .of_succeeds ((f.succeeds_value? hshow hl).adapt _)

/-- A look-up in a plane. -/
theorem lookUp_plane {key : String} {source : Extractor} (hsource : source.ReadsPlanes)
    (p : Plane) :
    lookUp key source (.plane p) = (metadataValue? key source (.plane p)).adapt .number := by
  rw [lookUp, if_pos (hsource p)]

theorem succeeds_metadataValue? (key : String) (source : Extractor) {v : Value}
    (h : v.Showable) : Succeeds (metadataValue? key source v) := by
  obtain ⟨description, hdescribe⟩ := h.describe
  have hnone : Succeeds (do noteMissing key v; return (none : Option String)) :=
    ((Succeeds.ofExcept hdescribe).bind fun _ => .lift _).bind fun _ => .pure _
  unfold metadataValue?
  refine (source.succeeds_extract h).bind fun row => ?_
  split
  · split
    · exact hnone
    · exact .pure _
  · exact hnone

/-- Metadata is looked up in every plane if the extractor reads planes. -/
theorem agrees_lookUp {key : String} {source : Extractor} {v : Value}
    (hsource : source.ReadsPlanes) (h : v.isA .plane = true) (hshow : v.Showable) :
    Agrees (lookUp key source v) (lookUp key source v) := by
  obtain ⟨p, rfl⟩ := Value.eq_plane_of_isA h
  rw [lookUp_plane hsource]
  exact .of_succeeds ((succeeds_metadataValue? key source hshow).adapt _)

/-! ## Trees -/

/-- Trees answer about a value under the typed watch as they do without. -/
def ChildrenAgree (children : List Tree) (v : Value) : Prop :=
  ∀ t ∈ children, Agrees (t.evalWith .typed v) (t.evalWith .silent v)

/-- A composite answers if its children do about all that it supplies. -/
theorem Composite.agrees {c : Composite} {children : List Tree} {v : Value}
    (known : (Shape.composite c).IsKnown) (hne : children ≠ []) (hv : v.isA c.input = true)
    (hshow : v.Showable)
    (hsource : ∀ key source, c = .metadata key source → source.ReadsPlanes)
    (h : ∀ w : Value, w.isA c.output = true → w.Showable → ChildrenAgree children w) :
    Agrees ((Tree.branch c children).evalWith .typed v)
      ((Tree.branch c children).evalWith .silent v) := by
  have hwatch : Agrees (Watch.typed (.branch c children) v)
      (Watch.silent (.branch c children) v) := by
    rw [Watch.typed_eq_silent hv]
    exact .pure ()
  have hnone : ∀ symbol, children = [] → Agrees (throw (.childless symbol) : Inquiry Bool)
      (throw (.childless symbol)) := fun _ hnil => absurd hnil hne
  have halike : ∀ w : Value, w.isA c.output = true → w.Showable →
      AnswerAlike (fun _ => Agrees) .typed .silent w w children children :=
    fun w hw hshow => List.forall₂_same.2 (h w hw hshow)
  cases c with
  | connective c domain =>
    exact Agrees.congruence.connective c domain domain hwatch (hnone _) (halike v hv hshow)
  | feature f =>
    exact Agrees.congruence.feature f hwatch (Feature.agrees_textOf? hv hshow) (hnone _) fun s =>
      halike (.text s) rfl (Value.showable_text s)
  | metadata key source =>
    exact Agrees.congruence.metadata key source hwatch
      (agrees_lookUp (hsource key source rfl) hv hshow) (hnone _) fun s =>
        halike (.text s) rfl (Value.showable_text s)
  | quorum least most => exact known.elim

/-- A well-formed tree whose extractors read planes answers about every value
of the type that its root consumes whose numbers can be written, and no predicate
on the way gets a value of another type than it consumes. -/
theorem Tree.WellFormed.agrees {t : Tree} (h : t.WellFormed)
    (hsource : ∀ key source, (key, source) ∈ t.lookUps → source.ReadsPlanes) {v : Value}
    (hv : v.isA t.shape.input = true) (hshow : v.Showable) :
    Agrees (t.evalWith .typed v) (t.evalWith .silent v) := by
  induction h generalizing v with
  | @leaf l known =>
    obtain ⟨s, rfl⟩ := Value.eq_text_of_isA hv
    rw [Tree.evalWith, Tree.evalWith, Watch.typed_eq_silent hv]
    exact (Agrees.pure ()).bind fun _ => l.agrees_eval s
  | @branch c children known admitted fed below ih =>
    have hne : children ≠ [] := List.length_pos_iff.1 (Composite.pos_of_admits known admitted)
    refine Composite.agrees known hne hv hshow ?_ ?_
    · rintro key source rfl
      exact hsource key source (Tree.mem_lookUps_branch_iff.2 (.inl rfl))
    · intro w hw hshow t ht
      exact ih t ht (fun key source hmem => hsource key source (Tree.mem_lookUps_of_mem ht hmem))
        (fed.isA hw ht) hshow

/-- The answer of a well-formed tree about a value, from a session. -/
theorem Tree.WellFormed.exists_answer {t : Tree} (h : t.WellFormed)
    (hsource : ∀ key source, (key, source) ∈ t.lookUps → source.ReadsPlanes) {v : Value}
    (hv : v.isA t.shape.input = true) (hshow : v.Showable) (s : Session) :
    ∃ passes s', (t.eval v).run.run s = (.ok passes, s') ∧
      (t.evalWith .typed v).run.run s = (.ok passes, s') := by
  obtain ⟨passes, s', htyped, hsilent⟩ := h.agrees hsource hv hshow s
  exact ⟨passes, s', hsilent, htyped⟩

/-! ## What can be asked -/

/-- Evaluation is type-sound.  Whatever is done with a builder, a complete node
leads through complete nodes to the tree that it holds, and it answers about
every value of the type that it consumes whose numbers can be written.  So does
the tree of a text that compiles, about every such candidate.  Both answers stay
what they are under the watch that breaks off where a predicate gets a value
outside its type. -/
theorem evaluation_type_sound :
    (∀ actions : List Builder.Action,
      (∀ action ∈ actions, ∀ e, action.extractor? = some e → e.ReadsPlanes) →
      ∀ id n t, (Builder.run actions).node? id = some n → n.tree? = some t →
        (Builder.run actions).Spells id t ∧
          ∀ v : Value, v.isA n.shape.input = true → v.Showable → ∀ s : Session, ∃ passes s',
            (n.eval v).run s = (.ok passes, s') ∧
              (t.evalWith .typed v).run.run s = (.ok passes, s')) ∧
    (∀ (extractor : Option Extractor) (type : ValueType) (text : String) (t : Tree),
      (∀ e, extractor = some e → e.ReadsPlanes) → compileText extractor type text = .ok t →
        ∀ v : Value, v.isA type = true → v.Showable → ∀ s : Session, ∃ passes s',
          (t.eval v).run.run s = (.ok passes, s') ∧
            (t.evalWith .typed v).run.run s = (.ok passes, s')) := by
  constructor
  · intro actions hgiven id n t hn ht
    have hsound : (Builder.run actions).Sound Extractor.ReadsPlanes :=
      Builder.sound_run fun action haction => readsPlanes_lookUpSource (hgiven action haction)
    have hspells := hsound.spells id n t hn ht
    refine ⟨hspells, fun v hv hshow s => ?_⟩
    have hshape : n.shape = t.shape := Node.shape_eq_of_tree? ht
    rw [hshape] at hv
    have heval : n.eval v = (t.eval v).run := by
      rw [Node.eval, ht]
    rw [heval]
    exact (hsound.wellFormed id n t hn ht).exists_answer
      (fun key source hmem => hspells.supplied hsound hmem) hv hshow s
  · intro extractor type text t hgiven hcompile v hv hshow s
    obtain ⟨hwf, haccepts⟩ := wellFormed_of_compileText hcompile
    refine hwf.exists_answer (fun key source hmem => ?_) (Value.isA_trans hv haccepts) hshow s
    rw [source_eq_of_compileText hcompile hmem]
    exact readsPlanes_lookUpSource hgiven

end

/-- The statement for a conjunction of one test with itself, and for the text
of that test. -/
theorem evaluation_type_sound_conjunction :
    letI : CurrentDirectory := .root
    (∃ n t, (Builder.run [.create "contain" .text none none, .setLiteral 0 (.text "a"),
        .construct "and" .text "" none, .setChildren 1 [.node 0, .node 0]]).node? 1 = some n ∧
      n.tree? = some t ∧ (Value.text "ab").isA n.shape.input = true ∧
        ∃ passes s', (n.eval (.text "ab")).run {} = (.ok passes, s')) ∧
    (∃ t, compileText none .text "contain \"a\"" = .ok t ∧
      ∃ passes s', (t.eval (.text "ab")).run.run {} = (.ok passes, s')) := by
  let _ : CurrentDirectory := .root
  let l : LiteralTest := ⟨.contain, "a", none, rfl⟩
  constructor
  · let n : Node := .parent (.connective .and .text) [0, 0] [.leaf l, .leaf l]
    refine ⟨n, .branch (.connective .and .text) [.leaf l, .leaf l], rfl, rfl, rfl, ?_⟩
    obtain ⟨-, h⟩ := evaluation_type_sound.1 [.create "contain" .text none none,
      .setLiteral 0 (.text "a"), .construct "and" .text "" none,
      .setChildren 1 [.node 0, .node 0]] (by simp [Builder.Action.extractor?]) 1 n _ rfl rfl
    obtain ⟨passes, s', heval, -⟩ := h (.text "ab") rfl (Value.showable_text _) {}
    exact ⟨passes, s', heval⟩
  · have hcompile : compileText none .text "contain \"a\"" = .ok (.leaf l) :=
      compileText_eq_ok_iff.2 ⟨[⟨.symbol "contain" none, 0⟩, ⟨.literal "a", 8⟩], by decide +kernel,
        by with_unfolding_all rfl⟩
    obtain ⟨passes, s', heval, -⟩ := evaluation_type_sound.2 none .text _ _ (by simp) hcompile
      (.text "ab") rfl (Value.showable_text _) {}
    exact ⟨.leaf l, hcompile, passes, s', heval⟩

end Filter

end ImageSelect
