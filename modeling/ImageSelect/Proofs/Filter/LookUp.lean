import ImageSelect.Proofs.Filter.Extractor
import ImageSelect.Proofs.Filter.Order
import ImageSelect.Proofs.Location.Name

/-!
# Looking up what a feature is

The extractor of planes reports what the features of a plane are, each under a key.  The way there
is another one: what a plane lacks is reported as the empty text, and the empty text counts as
missing.  So looking up and asking the feature may differ only about the empty text.

* `Feature.key?`: the key of a feature.  An extension has none.
* `Feature.value?_lookUp`: a look-up hands on what the feature does, unless that is empty.
* `Feature.eq_of_of?_eq_empty`: only a URL and a file name can be empty.
* `lookUp_agrees_with_feature`: both as predicates over the same tree.
-/

namespace ImageSelect.Filter

/-! ## Features under their keys -/

/-- The key under which the extractor of planes reports a feature. -/
def Feature.key? : Feature → Option String
  | .url => some Extractor.urlKey
  | .series => some Extractor.seriesKey
  | .frame => some Extractor.frameKey
  | .fileName => some Extractor.fileNameKey
  | .directory => some Extractor.pathNameKey
  | .extension => none

/-- A text that is empty where it is missing is missing where it is empty. -/
theorem filter_getD_empty (text? : Option String) :
    (some (text?.getD "")).filter (· ≠ "") = text?.filter (· ≠ "") := by
  cases text? <;> simp

section
variable [CurrentDirectory] {f : Feature} {key : String} (hkey : f.key? = some key) (p : Plane)
include hkey

/-- A look-up in a plane hands on what the feature does, unless that is empty. -/
theorem Feature.value?_lookUp (hshow : (Value.plane p).Showable) (sharing : Sharing) :
    (Composite.metadata key (.plane sharing)).value? (.plane p) =
      ((f.of? (.plane p)).filter (· ≠ "")).map .text := by
  rw [Composite.value?, Extractor.rowOf_plane_eq hshow]
  cases f with
  | extension => cases hkey
  | fileName | directory =>
    obtain rfl := Option.some.inj hkey
    exact congrArg (Option.map Value.text) (filter_getD_empty _)
  | url | series | frame =>
    obtain rfl := Option.some.inj hkey
    rfl

/-- Of what is looked up only a URL and a file name can be empty. -/
theorem Feature.eq_of_of?_eq_empty (h : f.of? (.plane p) = some "") :
    f = .url ∧ p.file.url = "" ∨ f = .fileName ∧ Location.fileName p.file.url = .ok "" := by
  cases f with
  | url => exact .inl ⟨rfl, Option.some.inj h⟩
  | fileName => exact .inr ⟨rfl, Except.toOption_eq_some_iff.1 h⟩
  | directory =>
    exact absurd rfl (Location.pathName_ne_empty (Except.toOption_eq_some_iff.1 h))
  | series | frame => exact absurd (Option.some.inj h) Nat.repr_ne_empty
  | extension => cases hkey

end

/-! ## Look-ups and features over a tree -/

/-- The default extractors of planes, wherever they intern. -/
theorem exists_eq_plane {source : Extractor}
    (h : source = lookUpSource none ∨ ∃ sharing, source = .forType .plane sharing) :
    ∃ sharing, source = .plane sharing := by
  rcases h with rfl | ⟨sharing, rfl⟩
  · exact ⟨.own, rfl⟩
  · exact ⟨sharing, rfl⟩

section
variable [CurrentDirectory]

/-- A sealed tree for texts answers about every text with what it means. -/
theorem Tree.Sealed.answers_text {t : Tree} (ht : t.Sealed)
    (haccepts : t.shape.accepts (some .text) = true) (text : String) :
    Answers (t.eval (.text text)) (.ok (t.meaning (.text text))) := by
  have hv : (Value.text text).isA t.shape.input = true := haccepts
  refine (ht.evaluates (fun key source hmem => ?_) hv).1.answers (not_not.2 (Value.showable_text _))
  exact absurd hmem (ht.not_mem_lookUps haccepts rfl key source)

section
variable {c : Composite} {t : Tree} {v : Value} (hc : c.DerivesText)
include hc

/-- A feature or a look-up over a sealed tree for texts answers with what it means. -/
theorem Composite.DerivesText.answers_one (ht : t.Sealed)
    (haccepts : t.shape.accepts (some .text) = true) (hv : v.isA c.input = true)
    (hshow : v.Showable)
    (hsource : ∀ key source, c = .metadata key source → source.ReadsPlanes) :
    Answers ((Tree.branch c [t]).eval v) (.ok ((Tree.branch c [t]).meaning v)) := by
  refine ((hc.sealed_one ht haccepts).evaluates (fun key source hmem => ?_) hv).1.answers
    (not_not.2 hshow)
  rcases Tree.mem_lookUps_branch_iff.1 hmem with heq | hmem
  · exact hsource key source heq
  · -- Below the composite there are texts, and nothing is looked up in them.
    rw [lookUpsAll, lookUpsAll, List.append_nil] at hmem
    exact absurd hmem (ht.not_mem_lookUps haccepts rfl key source)

theorem Composite.DerivesText.meaning_one_iff :
    (Tree.branch c [t]).meaning v = true ↔ ∃ w, c.value? v = some w ∧ t.meaning w = true := by
  cases hvalue : c.value? v with
  | none => simp [Tree.meaning_branch_of_none hvalue]
  | some w => simp [hc.meaning_of_some hvalue]

end

section
variable {f : Feature} {t : Tree} {p : Plane}

theorem Feature.meaning_iff : (Tree.branch (.feature f) [t]).meaning (.plane p) = true ↔
    ∃ text, f.of? (.plane p) = some text ∧ t.meaning (.text text) = true := by
  have hvalue : (Composite.feature f).value? (.plane p) = (f.of? (.plane p)).map .text := rfl
  rw [Composite.DerivesText.meaning_one_iff (.inl ⟨_, rfl⟩), hvalue]
  simp

/-- A look-up means what the feature means, unless the text is empty. -/
theorem Feature.meaning_lookUp_iff {key : String} (hkey : f.key? = some key)
    (hshow : (Value.plane p).Showable) (sharing : Sharing) :
    (Tree.branch (.metadata key (.plane sharing)) [t]).meaning (.plane p) = true ↔
      (Tree.branch (.feature f) [t]).meaning (.plane p) = true ∧ f.of? (.plane p) ≠ some "" := by
  rw [Composite.DerivesText.meaning_one_iff (.inr ⟨_, _, rfl⟩), f.value?_lookUp hkey p hshow,
    Feature.meaning_iff]
  cases f.of? (.plane p) with
  | none => simp
  | some text => by_cases hempty : text = "" <;> simp [hempty]

/-- A feature means that there is the text and that the tree passes on it. -/
theorem Feature.meaning_iff_answers (ht : t.Sealed)
    (haccepts : t.shape.accepts (some .text) = true) :
    (Tree.branch (.feature f) [t]).meaning (.plane p) = true ↔
      ∃ text, f.of? (.plane p) = some text ∧ Answers (t.eval (.text text)) (.ok true) := by
  rw [Feature.meaning_iff]
  refine exists_congr fun text => and_congr_right fun _ => ?_
  have hanswers := ht.answers_text haccepts text
  constructor
  · intro hmeans
    rwa [hmeans] at hanswers
  · intro hpasses
    exact Except.ok.inj (hanswers.alone_eq.symm.trans hpasses.alone_eq)

end

/-- A look-up with a default extractor breaks off at any number of a plane that cannot be
written, whatever the key. -/
theorem answers_metadata_of_not_showable {p : Plane} (h : ¬(Value.plane p).Showable)
    (key : String) (sharing : Sharing) (children : List Tree) :
    Answers ((Tree.branch (.metadata key (.plane sharing)) children).eval (.plane p))
      (.error (.number .tooLong)) := by
  have hlookUp : lookedUp key (.plane sharing) (.plane p) = .error (.number .tooLong) := by
    rw [lookedUp, if_pos (Extractor.readsPlanes_plane sharing p), metadataOf,
      Extractor.row?_plane_of_not_showable h]
    rfl
  have hverdict := (Tree.branch (.metadata key (.plane sharing)) children).answers (.plane p)
  rwa [Tree.verdict_branch, Composite.verdict, hlookUp] at hverdict

/-- With a default extractor, looking up a key agrees with asking the feature that is reported under
it.  Over a sealed tree for texts both answer about every plane whose numbers can be written, from
every sound session, whatever was interned before.  The feature passes exactly if there is such a
text and the tree passes on it; the look-up passes exactly if the feature does and its text is not
empty.  So they differ only where the URL or the file name is empty, and there the look-up fails; on
series, frame and path name they agree.  About any other plane the look-up breaks off, whatever the
key, and so does the feature if it is the number that cannot be written. -/
theorem lookUp_agrees_with_feature {f : Feature} {key : String} (hkey : f.key? = some key)
    {source : Extractor}
    (hsource : source = lookUpSource none ∨ ∃ sharing, source = .forType .plane sharing)
    {t : Tree} (ht : t.Sealed) (haccepts : t.shape.accepts (some .text) = true) (p : Plane) :
    ((Value.plane p).Showable → ∃ value found direct, Answers (f.value? (.plane p)) (.ok value) ∧
      Answers ((Tree.branch (.metadata key source) [t]).eval (.plane p)) (.ok found) ∧
      Answers ((Tree.branch (.feature f) [t]).eval (.plane p)) (.ok direct) ∧
      (direct = true ↔ ∃ text, value = some text ∧ Answers (t.eval (.text text)) (.ok true)) ∧
      (found = true ↔ direct = true ∧ value ≠ some "") ∧
      (found ≠ direct → found = false ∧
        (f = .url ∧ p.file.url = "" ∨ f = .fileName ∧ Location.fileName p.file.url = .ok "")) ∧
      (f = .series ∨ f = .frame ∨ f = .directory → found = direct)) ∧
    (¬(Value.plane p).Showable →
      Answers ((Tree.branch (.metadata key source) [t]).eval (.plane p))
        (.error (.number .tooLong))) := by
  obtain ⟨sharing, rfl⟩ := exists_eq_plane hsource
  refine ⟨fun hshow => ?_, fun hshow => answers_metadata_of_not_showable hshow key sharing [t]⟩
  have hreads : ∀ key' source, Composite.metadata key (.plane sharing) = .metadata key' source →
      source.ReadsPlanes := by
    rintro key' source heq
    obtain ⟨-, rfl⟩ := Composite.metadata.inj heq
    exact Extractor.readsPlanes_plane sharing
  have hfound := Composite.DerivesText.answers_one (v := .plane p) (.inr ⟨_, _, rfl⟩) ht haccepts
    rfl hshow hreads
  have hdirect := Composite.DerivesText.answers_one (c := .feature f) (v := .plane p)
    (.inl ⟨_, rfl⟩) ht haccepts (by cases f <;> rfl) hshow fun _ _ heq => by cases heq
  have hpasses := Feature.meaning_iff_answers (f := f) (p := p) ht haccepts
  have hiff := Feature.meaning_lookUp_iff (t := t) (p := p) hkey hshow sharing
  have hvalue : Answers (f.value? (.plane p)) (.ok (f.of? (.plane p))) :=
    f.written?_of_showable hshow rfl ▸ f.answers_value? (.plane p)
  generalize (Tree.branch (.metadata key (.plane sharing)) [t]).meaning _ = found at hiff hfound
  generalize (Tree.branch (.feature f) [t]).meaning _ = direct at hpasses hiff hdirect
  have hdiffer : found ≠ direct → found = false ∧
      (f = .url ∧ p.file.url = "" ∨ f = .fileName ∧ Location.fileName p.file.url = .ok "") := by
    intro hne
    by_cases hempty : f.of? (.plane p) = some ""
    · exact ⟨by simpa [hempty] using hiff, f.eq_of_of?_eq_empty hkey p hempty⟩
    · exact absurd (Bool.eq_iff_iff.2 (hiff.trans (and_iff_left hempty))) hne
  refine ⟨f.of? (.plane p), found, direct, hvalue, hfound, hdirect, hpasses, hiff, hdiffer, ?_⟩
  intro hf
  by_contra hne
  obtain ⟨-, ⟨rfl, -⟩ | ⟨rfl, -⟩⟩ := hdiffer hne
  all_goals simp at hf

end

/-- The statement for a plane of a file without a name and a test of the empty text. -/
theorem lookUp_agrees_with_feature_empty :
    letI : CurrentDirectory := .root
    let v : Value := .plane ⟨{ url := "http://h/" }, 0, 0⟩
    let t := Tree.leaf ⟨.eq, "", none, rfl⟩
    t.Sealed ∧ v.Showable ∧ Location.fileName "http://h/" = .ok "" ∧
      Answers ((Tree.branch (.metadata "FileName" (lookUpSource none)) [t]).eval v) (.ok false) ∧
      Answers ((Tree.branch (.feature .fileName) [t]).eval v) (.ok true) := by
  let _ : CurrentDirectory := .root
  intro v t
  have ht : t.Sealed := Tree.sealed_leaf _
  have hshow : v.Showable := (Value.showable_plane_iff _).2 ⟨by decide, by decide⟩
  have hname : Location.fileName "http://h/" = .ok "" := by decide +kernel
  obtain ⟨value, found, direct, hvalue, hfound, hdirect, hpasses, hiff, -⟩ :=
    (lookUp_agrees_with_feature (f := .fileName) rfl (.inl rfl) ht rfl
      ⟨{ url := "http://h/" }, 0, 0⟩).1 hshow
  have hempty : value = some "" := by
    have hsame := hvalue.alone_eq.symm.trans (Feature.answers_value? .fileName _).alone_eq
    exact (Except.ok.inj hsame).trans (Except.toOption_eq_some_iff.2 hname)
  obtain rfl : direct = true := hpasses.2 ⟨"", hempty, ht.answers_text rfl ""⟩
  obtain rfl : found = false := by simpa [hempty] using hiff
  exact ⟨ht, hshow, hname, hfound, hdirect⟩

/-- About a plane whose series has a digit too many, its URL is looked up in vain: the look-up
breaks off, where the URL itself passes. -/
theorem lookUp_of_long_series_breaks_off :
    letI : CurrentDirectory := .root
    let v : Value := .plane ⟨{ url := "file:///a.tif" }, 10 ^ Text.digitLimit, 0⟩
    let t := Tree.leaf ⟨.contain, "a", none, rfl⟩
    t.Sealed ∧
      Answers ((Tree.branch (.metadata "FileLocation" (lookUpSource none)) [t]).eval v)
        (.error (.number .tooLong)) ∧
      Answers ((Tree.branch (.feature .url) [t]).eval v) (.ok true) := by
  let _ : CurrentDirectory := .root
  intro v t
  have ht : t.Sealed := Tree.sealed_leaf _
  have hshow : ¬v.Showable := fun h => Text.not_writable_pow ((Value.showable_plane_iff _).1 h).1
  refine ⟨ht, answers_metadata_of_not_showable hshow _ .own [t], ?_⟩
  have htext := ht.answers_text rfl "file:///a.tif"
  have hmeans : t.meaning (.text "file:///a.tif") = true := by decide
  rw [hmeans] at htext
  have hverdict := (Tree.branch (.feature .url) [t]).answers v
  have hurl : (Tree.branch (.feature .url) [t]).verdict v = t.verdict (.text "file:///a.tif") := by
    rw [Tree.verdict_branch]
    have htextIn : Feature.url.textIn? v = .ok (some "file:///a.tif") := rfl
    rw [Composite.verdict, htextIn]
    rfl
  rw [hurl] at hverdict
  exact (htext.alone_eq : t.verdict _ = _) ▸ hverdict

end ImageSelect.Filter
