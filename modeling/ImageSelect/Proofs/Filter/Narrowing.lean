import ImageSelect.Proofs.Filter.Evaluation
import ImageSelect.Proofs.Filter.RoundTrip

/-!
# Other types of candidates

An expression that compiles for candidates of a type is also an expression over values that
can stand in their place.  Nothing depends on the type of the candidates but the types of
the connectives, which follow their context, and whether the other predicates consume what
they get.

* `ValueType.ServesFor`: a type that can stand in the place of another one.  A subtype
  can.  Locations can stand in the place of files too, because no predicate needs a file.
* `compileText_retype`: what compiles for a type compiles for all that serve for it.
* `Tree.eval_retype`: the types of connectives have no part in what a tree answers.
* `Tree.WellFormed.eval_eq_of_url`: a tree that consumes files looks at URLs only.
-/

namespace ImageSelect

/-! ## Types that serve for others -/

/-- The first type can stand in the place of the second one: it is a subtype of all that the
second one is a subtype of, among the types that predicates need whatever their context. -/
def ValueType.ServesFor (sub type : ValueType) : Prop :=
  ∀ need ∈ [ValueType.text, .location, .plane],
    type.isSubtype need = true → sub.isSubtype need = true

theorem ValueType.ServesFor.of_isSubtype {sub type : ValueType}
    (h : sub.isSubtype type = true) : sub.ServesFor type :=
  fun _ _ hneed => isSubtype_trans h hneed

/-- No predicate needs a file. -/
theorem ValueType.location_servesFor_file : location.ServesFor file := by
  intro need hmem hneed
  simp only [List.mem_cons, List.not_mem_nil, or_false] at hmem
  rcases hmem with rfl | rfl | rfl
  · exact absurd hneed (by decide)
  · rfl
  · exact absurd hneed (by decide)

namespace Filter

theorem Feature.input_mem (f : Feature) : f.input ∈ [ValueType.text, .location, .plane] := by
  cases f <;> decide

/-! ## Compiling for other candidates -/

section
variable {extractor : Option Extractor}

section
variable {type sub : ValueType} {name : String} {param : Option String}

/-- A test is made alike in all contexts. -/
theorem Makes.test_retype {t : TextTest} (h : Makes extractor type name param (.test t)) :
    Makes extractor sub name param (.test t) := by
  obtain ⟨m, hm, hmake⟩ := h
  cases m with
  | test t' =>
    obtain ⟨rfl, heq⟩ := Meaning.make_test_eq_ok_iff.1 hmake
    exact ⟨.test t', hm, Meaning.make_test_eq_ok_iff.2 ⟨rfl, heq⟩⟩
  | connective c => simp [Meaning.make_connective_eq_ok_iff] at hmake
  | feature f => simp [Meaning.make_feature_eq_ok_iff] at hmake
  | metadata => simp [Meaning.make_metadata_eq_ok_iff] at hmake

/-- A composite is made in another context with the type of that context. -/
theorem Makes.retype {c : Composite} (h : Makes extractor type name param (.composite c)) :
    Makes extractor sub name param (.composite (c.retype sub)) := by
  obtain ⟨m, hm, hmake⟩ := h
  cases m with
  | test t => simp [Meaning.make_test_eq_ok_iff] at hmake
  | connective c' =>
    obtain ⟨rfl, heq⟩ := Meaning.make_connective_eq_ok_iff.1 hmake
    obtain rfl := Shape.composite.inj heq
    exact ⟨.connective c', hm, rfl⟩
  | feature f =>
    obtain ⟨rfl, heq⟩ := Meaning.make_feature_eq_ok_iff.1 hmake
    obtain rfl := Shape.composite.inj heq
    exact ⟨.feature f, hm, rfl⟩
  | metadata =>
    obtain ⟨key, rfl, hne, hkey, heq⟩ := Meaning.make_metadata_eq_ok_iff.1 hmake
    obtain rfl := Shape.composite.inj heq
    exact ⟨.metadata, hm, Meaning.make_metadata_eq_ok_iff.2 ⟨key, rfl, hne, hkey, rfl⟩⟩

/-- A composite that consumes what a context supplies consumes what serves for it. -/
theorem Composite.accepts_retype {c : Composite} (hserves : sub.ServesFor type)
    (known : (Shape.composite c).IsKnown)
    (h : (Shape.composite c).accepts (some type) = true) :
    (Shape.composite (c.retype sub)).accepts (some sub) = true := by
  cases c with
  | connective c domain => exact ValueType.isSubtype_refl sub
  | feature f => exact hserves f.input f.input_mem h
  | metadata key source => exact hserves .plane (by decide) h
  | quorum least most => exact known.elim

end

mutual

/-- What an expression stands for in a context, if it consumes what the context supplies,
it stands for where something else serves for that. -/
theorem Denotes.retype {type sub : ValueType} {e : Expr} {t : Tree}
    (h : Denotes extractor type e t) (ha : t.shape.accepts (some type) = true)
    (hserves : sub.ServesFor type) :
    Denotes extractor sub e (t.retype sub) ∧
      (t.retype sub).shape.accepts (some sub) = true := by
  cases h with
  | literal l made => exact ⟨.literal l made.test_retype, hserves .text (by decide) ha⟩
  | @composite _ _ _ c operands children made inner admitted fed =>
    have haccepts := Composite.accepts_retype hserves made.isKnown ha
    suffices hinner : DenotesAll extractor (c.retype sub).output operands
        (retypeAll (c.retype sub).output children) ∧
          (c.retype sub).Feeds (retypeAll (c.retype sub).output children) by
      refine ⟨.composite made.retype hinner.1 ?_ hinner.2, haccepts⟩
      rw [Composite.admits_retype, retypeAll_eq_map, List.length_map]
      exact admitted
    -- A connective supplies what it gets; all other composites supply texts as before.
    cases c with
    | connective c domain =>
      have hdomain : type = domain := (Composite.connective.inj made.retype_eq).2
      rw [← hdomain] at inner fed
      exact inner.retype fed hserves
    | feature f =>
      have hchildren : retypeAll .text children = children := inner.retype_eq
      simp only [Composite.retype, Composite.output, hchildren]
      exact ⟨inner, fed⟩
    | metadata key source =>
      have hchildren : retypeAll .text children = children := inner.retype_eq
      simp only [Composite.retype, Composite.output, hchildren]
      exact ⟨inner, fed⟩
    | quorum least most => exact made.isKnown.elim

theorem DenotesAll.retype {type sub : ValueType} {es : List Expr} {ts : List Tree}
    (h : DenotesAll extractor type es ts)
    (ha : ∀ t ∈ ts, t.shape.accepts (some type) = true) (hserves : sub.ServesFor type) :
    DenotesAll extractor sub es (retypeAll sub ts) ∧
      ∀ t ∈ retypeAll sub ts, t.shape.accepts (some sub) = true := by
  cases h with
  | nil => exact ⟨.nil, by simp [retypeAll]⟩
  | cons head tail =>
    obtain ⟨hfirst, hrest⟩ := List.forall_mem_cons.1 ha
    obtain ⟨hhead, haccepts⟩ := head.retype hfirst hserves
    obtain ⟨htail, hall⟩ := tail.retype hrest hserves
    exact ⟨.cons hhead htail, List.forall_mem_cons.2 ⟨haccepts, hall⟩⟩

end

/-- What compiles for candidates of a type compiles for what serves for them, with each
connective typed by its new context. -/
theorem compileText_retype {type sub : ValueType} (hserves : sub.ServesFor type)
    {text : String} {t : Tree} (h : compileText extractor type text = .ok t) :
    compileText extractor sub text = .ok (t.retype sub) := by
  obtain ⟨tokens, htokenize, htokens⟩ := compileText_eq_ok_iff.1 h
  obtain ⟨e, hder, hd, haccepts⟩ := compileTokens_eq_ok_iff.1 htokens
  obtain ⟨hretyped, haccepts'⟩ := hd.retype haccepts hserves
  exact compileText_eq_ok_iff.2
    ⟨tokens, htokenize, compileTokens_eq_ok_iff.2 ⟨e, hder, hretyped, haccepts'⟩⟩

end

/-! ## Trees that answer alike -/

/-- Evaluation respects equality. -/
theorem congruence_eq : Congruence fun _ => Eq where
  pure _ := rfl
  bind h hf := by
    subst h
    exact bind_congr hf

variable [CurrentDirectory]

/-- The types of connectives have no part in what a tree answers, nor in what its evaluation
leaves behind. -/
theorem Tree.eval_retype (t : Tree) (context : ValueType) (v : Value) :
    (t.retype context).eval v = t.eval v := by
  induction t using Tree.induct generalizing context v with
  | leaf l => rfl
  | branch c children ih =>
    have hbelow : ∀ (context : ValueType) (w : Value),
        AnswerAlike (fun _ => Eq) .silent .silent w w (children.map (Tree.retype context))
          children := by
      intro context w
      rw [AnswerAlike, List.forall₂_map_left_iff, List.forall₂_same]
      exact fun t ht => ih t ht context w
    rw [Tree.retype, retypeAll_eq_map]
    cases c with
    | connective c domain =>
      exact congruence_eq.connective c context domain rfl (fun _ => rfl) (hbelow context v)
    | feature f =>
      exact congruence_eq.feature f rfl rfl (fun _ => rfl) fun s => hbelow .text (.text s)
    | metadata key source =>
      exact congruence_eq.metadata key source rfl rfl (fun _ => rfl) fun s =>
        hbelow .text (.text s)
    | quorum least most => exact congruence_eq.quorum least most rfl (hbelow .text v)

/-! ## Trees that consume files -/

/-- A feature of files is a feature of their URL. -/
theorem Feature.value?_eq_of_url {f : Feature} (hf : f.input = .location) {l l' : Location}
    (hurl : l.url = l'.url) : f.value? l = f.value? l' := by
  cases f with
  | fileName => simp only [Feature.value?, hurl]
  | directory => simp only [Feature.value?, hurl]
  | extension => simp only [Feature.value?, hurl]
  | url => simp only [Feature.value?, hurl]
  | series => exact absurd hf (by decide)
  | frame => exact absurd hf (by decide)

omit [CurrentDirectory] in
theorem Value.location?_ofLocation (l : Location) : (Value.ofLocation l).location? = some l := by
  cases l <;> rfl

omit [CurrentDirectory] in
theorem Value.isA_ofLocation (l : Location) : (Value.ofLocation l).isA .location = true := by
  cases l <;> rfl

theorem Feature.textOf?_ofLocation {f : Feature} (hf : f.input = .location) (l : Location) :
    f.textOf? (.ofLocation l) = (f.value? l).adapt .number := by
  refine Feature.textOf?_of_location? (Value.location?_ofLocation l) ?_
  rw [hf]
  exact Value.isA_ofLocation l

/-- A tree that consumes files looks at URLs only: it answers alike about a file and about
every plane over a file with the same URL. -/
theorem Tree.WellFormed.eval_eq_of_url {t : Tree} (h : t.WellFormed)
    (ha : t.shape.accepts (some .file) = true) {l l' : Location} (hurl : l.url = l'.url) :
    t.eval (.ofLocation l) = t.eval (.ofLocation l') := by
  induction h with
  | leaf known => simp [Tree.shape, Shape.accepts, Shape.input, ValueType.isSubtype] at ha
  | @branch c children known admitted fed below ih =>
    cases c with
    | connective c domain =>
      have hchildren : AnswerAlike (fun _ => Eq) .silent .silent (.ofLocation l) (.ofLocation l')
          children children := List.forall₂_same.2 fun t ht =>
        ih t ht (ValueType.isSubtype_trans ha (fed t ht))
      exact congruence_eq.connective c domain domain rfl (fun _ => rfl) hchildren
    | feature f =>
      have hinput : f.input = .location := by
        cases f <;> first
          | rfl
          | exact absurd (show (ValueType.file.isSubtype .plane) = true from ha) (by decide)
      have htext : f.textOf? (.ofLocation l) = f.textOf? (.ofLocation l') := by
        rw [Feature.textOf?_ofLocation hinput, Feature.textOf?_ofLocation hinput,
          Feature.value?_eq_of_url hinput hurl]
      exact congruence_eq.feature f rfl htext (fun _ => rfl) fun s =>
        List.forall₂_same.2 fun _ _ => rfl
    | metadata key source =>
      exact absurd (show (ValueType.file.isSubtype .plane) = true from ha) (by decide)
    | quorum least most => exact known.elim

end Filter

end ImageSelect
