import Std.Data.String.ToNat
import ImageSelect.Proofs.Filter.Evaluation
import ImageSelect.Proofs.Metadata.Extractor
import ImageSelect.Proofs.Metadata.Row
import ImageSelect.Proofs.StringCache

/-!
# Rows whose texts are shared

Extractors that share a cache hand out the instances that it keeps.  A row shows the texts only, so
extraction is described here once more with the instances, and shown to be the same.

* `Extractor.hand` is extraction with the instances that are handed out, and
  `Extractor.extract_run_eq_hand` says that nothing else is different.
* `Extractor.passes` are the texts that go through the shared cache for a value.
* `Hands` says of a computation which texts it sends through the cache, and that it hands out the
  instances of these.  It is put together along the computation (`Extractor.hands_hand`).
* `CacheCall.runAll` are calls one after the other.
-/

namespace ImageSelect

/-! ## Texts and instances -/

/-- A text of a row: one that is apart from the shared cache, or one that is for the cache or
comes from it. -/
inductive Handed (α : Type) where
  | apart (text : String)
  | shared (x : α)

namespace Handed

/-- What goes through the cache, or comes from it. -/
def shared? {α : Type} : Handed α → Option α
  | .apart _ => none
  | .shared x => some x

/-- The text of an instance, or a text without one. -/
def text : Handed Interned → String
  | .apart text => text
  | .shared interned => interned.text

/-- Keys with the texts of what is handed out for them. -/
def pairs (cells : List (String × Handed Interned)) : List (String × String) :=
  cells.map fun cell => (cell.1, cell.2.text)

/-- The instances that are handed out, in order. -/
def instances (cells : List (String × Handed Interned)) : List Interned :=
  cells.filterMap (·.2.shared?)

end Handed

/-- Interns a string in the session's cache and gives its instance. -/
def Run.hand (text : String) : Run Interned :=
  modifyGet fun s =>
    let (interned, cache) := s.cache.intern text
    (interned, { s with cache })

/-- The instance of a text that is for the cache, or the text itself. -/
def Handed.hand : Handed String → Run (Handed Interned)
  | .apart text => pure (.apart text)
  | .shared text => .shared <$> Run.hand text

/-- The cells that are made for keys, one after the other. -/
def Handed.handAll :
    List (String × Writing (Handed Interned)) → Writing (List (String × Handed Interned))
  | [] => pure []
  | (key, x) :: more => do
    let value ← x
    let cells ← handAll more
    return (key, value) :: cells

namespace Extractor

/-- A text for the cache, unless the extractor has its own. -/
def Sharing.offer (sharing : Sharing) (text : String) : Handed String :=
  match sharing with
  | .shared => .shared text
  | .own => .apart text

/-- The text of a number with its instance.  Zero is not for the cache. -/
def handNumber (sharing : Sharing) : Option Nat → Writing (Handed Interned)
  | none => return .apart ""
  | some 0 => return .apart "0"
  | some n => do
    let text ← liftExcept (Text.writeNumber n)
    (Sharing.offer sharing text).hand

/-- URL, series and frame with their instances. -/
def handNumbers (sharing : Sharing) (l : Location) : Writing (List (String × Handed Interned)) :=
  Handed.handAll
    [(urlKey, (Sharing.offer sharing l.url).hand), (seriesKey, handNumber sharing l.series?),
      (frameKey, handNumber sharing l.frame?)]

variable [CurrentDirectory]

/-- File and path name with their instances. -/
def handNames (sharing : Sharing) (l : Location) : Writing (List (String × Handed Interned)) := do
  let file ← Run.fileName? l.url
  let path ← Run.pathName? l.url
  if file.isNone || path.isNone then
    Run.log .debug nameLogger ("Incomplete file/path metadata for " ++ l.url)
  Handed.handAll
    [(fileNameKey, (Sharing.offer sharing (file.getD "")).hand),
      (pathNameKey, (Sharing.offer sharing (path.getD "")).hand)]

mutual

/-- The cells that an extractor makes for a value, in the order in which it makes them.  In the
row a later cell with the same key counts. -/
def hand : Extractor → Value → Writing (List (String × Handed Interned))
  | .planeNumbers sharing, v => (v.location?.map (handNumbers sharing)).getD (pure [])
  | .names sharing, v => (v.location?.map (handNames sharing)).getD (pure [])
  | .fixed _ row, _ => pure (row.cells.map fun cell => (cell.1, .apart cell.2))
  | .custom _ row?, v => pure (((row? v).getD {}).cells.map fun cell => (cell.1, .apart cell.2))
  | .combined members, v => handMembers members v

def handMembers : List Extractor → Value → Writing (List (String × Handed Interned))
  | [], _ => pure []
  | e :: es, v => do
    let cells ← hand e v
    let more ← handMembers es v
    return cells ++ more

end

/-! ## Rows with and without instances -/

open Handed (pairs instances)

omit [CurrentDirectory] in
theorem pairs_apart (cells : List (String × String)) :
    pairs (cells.map fun cell => (cell.1, .apart cell.2)) = cells := by
  rw [pairs, List.map_map]
  exact List.map_id _

omit [CurrentDirectory] in
theorem pairs_append (cells more : List (String × Handed Interned)) :
    pairs (cells ++ more) = pairs cells ++ pairs more :=
  List.map_append

omit [CurrentDirectory] in
theorem sharingIntern_eq (sharing : Sharing) (text : String) :
    Sharing.intern sharing text = Handed.text <$> (Sharing.offer sharing text).hand := by
  cases sharing <;> rfl

omit [CurrentDirectory] in
theorem numberText_eq (sharing : Sharing) (n : Option Nat) :
    numberText sharing n = Handed.text <$> handNumber sharing n := by
  rcases n with _ | _ | n
  · rfl
  · rfl
  · simp only [numberText, handNumber, sharingIntern_eq, monadLift_map, map_bind]

omit [CurrentDirectory] in
theorem extractNumbers_eq (sharing : Sharing) (l : Location) :
    extractNumbers sharing l = (fun cells => ⟨pairs cells⟩) <$> handNumbers sharing l := by
  simp only [extractNumbers, handNumbers, sharingIntern_eq, numberText_eq, Handed.handAll,
    monadLift_map, bind_map_left, map_bind, map_pure, bind_assoc, pure_bind]
  rfl

theorem extractNames_eq (sharing : Sharing) (l : Location) :
    (extractNames sharing l : Writing Row) =
      (fun cells => ⟨pairs cells⟩) <$> handNames sharing l := by
  simp only [extractNames, handNames, sharingIntern_eq, Handed.handAll, monadLift_bind,
    bind_map_left, map_bind, bind_assoc, pure_bind]
  refine bind_congr fun file => bind_congr fun path => ?_
  split <;> simp only [monadLift_bind, monadLift_pure, map_bind, map_pure] <;> rfl

mutual

/-- What an extractor adds to a row are the cells that it makes. -/
theorem merge_extract_eq : ∀ (e : Extractor) (row : Row) (v : Value),
    (row.merge ·) <$> e.extract v = (fun cells => row.merge ⟨pairs cells⟩) <$> e.hand v
  | .planeNumbers sharing, row, v => by
    rw [extract, hand]
    cases v.location? with
    | none => rfl
    | some l =>
      simp only [Option.map_some, Option.getD_some, extractNumbers_eq, Functor.map_map]
  | .names sharing, row, v => by
    rw [extract, hand]
    cases v.location? with
    | none => rfl
    | some l =>
      simp only [Option.map_some, Option.getD_some, extractNames_eq, Functor.map_map]
  | .fixed keys cells, row, v => by
    rw [extract, hand, map_pure, map_pure, pairs_apart]
  | .custom keys row?, row, v => by
    rw [extract, hand, map_pure, map_pure, pairs_apart]
  | .combined members, row, v => by
    rw [extract, hand, extractMembers_eq members {} v, Functor.map_map]
    -- The combination starts from an empty row, which makes no difference to the one in front.
    refine congrArg (· <$> _) (funext fun cells => ?_)
    exact Row.merge_merge Row.nodup_keys_empty row ⟨pairs cells⟩

theorem extractMembers_eq : ∀ (es : List Extractor) (row : Row) (v : Value),
    extractMembers es row v = (fun cells => row.merge ⟨pairs cells⟩) <$> handMembers es v
  | [], row, v => by
    rw [extractMembers, handMembers, map_pure]
    rfl
  | e :: es, row, v => by
    have hfirst : extractMembers (e :: es) row v =
        ((row.merge ·) <$> e.extract v) >>= fun row => extractMembers es row v := by
      rw [extractMembers, bind_map_left]
    rw [hfirst, merge_extract_eq e row v, handMembers, bind_map_left, map_bind]
    refine bind_congr fun cells => ?_
    rw [extractMembers_eq es _ v, map_bind, ← bind_pure_comp]
    refine bind_congr fun more => ?_
    rw [map_pure, pairs_append, Row.merge_append]

end

/-- From a sound session an extractor comes to the row of the cells that it makes, or breaks off
as they do. -/
theorem extract_run_eq_hand {e : Extractor} {v : Value} (hrow : (e.rowOf v).keys.Nodup)
    {s : Session} (hs : s.Sound) :
    (e.extract v).run.run s =
      ((fun cells => Row.ofPairs (pairs cells)) <$> e.hand v).run.run s := by
  obtain ⟨s', hrun, -⟩ := e.answers_row? v s hs
  have hmerge : (({} : Row).merge ·) <$> e.extract v =
      (fun cells => Row.ofPairs (pairs cells)) <$> e.hand v := merge_extract_eq e {} v
  rw [← hmerge, ExceptT.run_map, StateT.run_map, hrun]
  refine Prod.ext ?_ rfl
  cases hrow? : e.row? v with
  | error why => rfl
  | ok row =>
    rw [rowOf_of_row? hrow?] at hrow
    exact congrArg Except.ok (Row.empty_merge hrow).symm

/-! ## What goes through the cache -/

/-- What goes through the cache for the numbers of a plane: its URL, and the series and the frame
that are not zero. -/
def numbersPass : Sharing → Value → List String
  | .shared, .plane p => p.file.url :: ([p.series, p.frame].filter (· ≠ 0)).map toString
  | _, _ => []

/-- What goes through the cache for the names of a location.  The empty text stands for a name that
it does not have. -/
def namesPass : Sharing → Value → List String
  | .shared, v =>
    (v.location?.map fun l =>
      [(Location.fileName l.url).toOption.getD "",
        (Location.pathName l.url).toOption.getD ""]).getD []
  | .own, _ => []

mutual

/-- What goes through the shared cache for the row of a value, in order. -/
def passes : Extractor → Value → List String
  | .planeNumbers sharing, v => numbersPass sharing v
  | .names sharing, v => namesPass sharing v
  | .fixed _ _, _ => []
  | .custom _ _, _ => []
  | .combined members, v => membersPass members v

def membersPass : List Extractor → Value → List String
  | [], _ => []
  | e :: es, v => passes e v ++ membersPass es v

end

end Extractor

/-! ## Computations that hand out instances -/

section

variable [CurrentDirectory]

/-- A computation has left a sound session and a cache through which certain texts have passed
after others, and has handed out their instances.  These stay what they are, whatever passes after
them. -/
structure Handing {α : Type} (instances : α → List Interned) (passed texts : List String)
    (a : α) (s : Session) : Prop where
  sound : s.Sound
  after : s.cache.After (passed ++ texts)
  instances : ∀ total, passed ++ texts <+: total →
    instances a = texts.map (StringCache.instanceOf total)

/-- Unless it breaks off, a computation sends certain texts through the cache from every sound
session, and hands out their instances in the same order. -/
def Hands {α : Type} (instances : α → List Interned) (x : Writing α) (texts : List String) :
    Prop :=
  ∀ (s : Session) (passed : List String), s.Sound → s.cache.After passed →
    ∀ a s', x.run.run s = (.ok a, s') → Handing instances passed texts a s'

omit [CurrentDirectory] in
/-- A computation leaves the cache alone. -/
def KeepsCache {α : Type} (x : Run α) : Prop :=
  ∀ s : Session, (x.run s).2.cache = s.cache

namespace Hands

variable {α β γ : Type} {x : Writing α} {y : Writing β} {texts texts' : List String}
  {ofα : α → List Interned} {ofβ : β → List Interned} {ofγ : γ → List Interned}

theorem pure {a : α} (h : ofα a = []) : Hands ofα (Pure.pure a) [] := by
  intro s passed hs hafter a' s' hrun
  obtain ⟨hvalue, rfl⟩ := Prod.mk.inj hrun
  obtain rfl := Except.ok.inj hvalue
  exact ⟨hs, by rwa [List.append_nil], fun _ _ => h⟩

/-- What breaks off hands out nothing. -/
theorem throw (why : Text.WriteError) : Hands ofα (MonadExcept.throw why) texts :=
  fun _ _ _ _ _ _ hrun => nomatch congrArg Prod.fst hrun

theorem map {f : α → β} (h : Hands ofα x texts) (hf : ∀ a, ofβ (f a) = ofα a) :
    Hands ofβ (f <$> x) texts := by
  intro s passed hs hafter b s' hrun
  rw [← bind_pure_comp, run_bind_eq_ok_iff] at hrun
  obtain ⟨a, s₁, hx, hpure⟩ := hrun
  obtain ⟨hvalue, rfl⟩ := Prod.mk.inj hpure
  obtain rfl := Except.ok.inj hvalue
  have hx := h s passed hs hafter a s₁ hx
  exact ⟨hx.sound, hx.after, fun total htotal => (hf a).trans (hx.instances total htotal)⟩

/-- What two computations hand out, one after the other. -/
theorem pair (hx : Hands ofα x texts) (hy : Hands ofβ y texts') (g : α → β → γ)
    (hg : ∀ a b, ofγ (g a b) = ofα a ++ ofβ b) :
    Hands ofγ (do let a ← x; let b ← y; return g a b) (texts ++ texts') := by
  intro s passed hs hafter c s' hrun
  obtain ⟨a, s₁, hx', hrun⟩ := run_bind_eq_ok_iff.1 hrun
  obtain ⟨b, s₂, hy', hpure⟩ := run_bind_eq_ok_iff.1 hrun
  obtain ⟨hvalue, rfl⟩ := Prod.mk.inj hpure
  obtain rfl := Except.ok.inj hvalue
  have hx := hx s passed hs hafter a s₁ hx'
  have hy := hy s₁ (passed ++ texts) hx.sound hx.after b s₂ hy'
  refine ⟨hy.sound, by rw [← List.append_assoc]; exact hy.after, fun total htotal => ?_⟩
  rw [← List.append_assoc] at htotal
  -- What the first hands out stays what it is while the texts of the second pass.
  have hfirst := hx.instances total ((List.prefix_append _ _).trans htotal)
  rw [List.map_append, ← hfirst, ← hy.instances total htotal]
  exact hg _ _

/-- What is given without the cache comes before what is handed out. -/
theorem after {x : Run α} {a : α} {f : α → Writing β} (h : Gives x a) (hkeeps : KeepsCache x)
    (hf : Hands ofβ (f a) texts) : Hands ofβ ((x : Writing α) >>= f) texts := by
  intro s passed hs hafter b s' hrun
  obtain ⟨s₁, hx, hs₁⟩ := h s hs
  have hcache : s₁.cache = s.cache := by
    rw [← hkeeps s, hx]
  obtain ⟨a', s₁', hx', hrun⟩ := run_bind_eq_ok_iff.1 hrun
  have hlift : (x : Writing α).run.run s = (.ok (x.run s).1, (x.run s).2) := rfl
  rw [hlift, hx] at hx'
  obtain ⟨hvalue, rfl⟩ := Prod.mk.inj hx'
  obtain rfl := Except.ok.inj hvalue
  exact hf s₁ passed hs₁ (hcache ▸ hafter) b s' hrun

end Hands

omit [CurrentDirectory] in
theorem keepsCache_fileName? (url : String) : KeepsCache (Run.fileName? url) := by
  intro s
  simp only [Run.fileName?, StateT.run_modifyGet]
  split <;> rfl

theorem keepsCache_pathName? (url : String) : KeepsCache (Run.pathName? url) := by
  intro s
  simp only [Run.pathName?, StateT.run_modifyGet]
  split <;> rfl

omit [CurrentDirectory] in
theorem keepsCache_log (level : Logging.Level) (logger message : String) :
    KeepsCache (Run.log level logger message) :=
  fun _ => rfl

theorem hands_runHand (text : String) :
    Hands (fun i => [i]) (Run.hand text : Writing Interned) [text] := by
  intro s passed hs hafter a s' hrun
  obtain ⟨hinstance, hcache⟩ := hafter.intern text
  have hhand : (Run.hand text : Writing Interned).run.run s =
      (.ok (s.cache.intern text).1, { s with cache := (s.cache.intern text).2 }) := rfl
  obtain ⟨hvalue, rfl⟩ := Prod.mk.inj (hhand.symm.trans hrun)
  obtain rfl := Except.ok.inj hvalue
  refine ⟨hs.of_names rfl, hcache, fun total htotal => ?_⟩
  have hmem : text ∈ passed ++ [text] := by simp
  rw [List.map_singleton, ← StringCache.instanceOf_stable htotal hmem, ← hinstance]

namespace Handed

theorem hands_hand (offer : Handed String) :
    Hands (fun value => value.shared?.toList) (offer.hand : Writing (Handed Interned))
      offer.shared?.toList := by
  cases offer with
  | apart text => exact .pure rfl
  | shared text =>
    have hlift : ((Handed.shared text).hand : Writing (Handed Interned)) =
        Handed.shared <$> (Run.hand text : Writing Interned) := monadLift_map _ _
    rw [hlift]
    exact (hands_runHand text).map fun _ => rfl

/-- Cells that are made one after the other hand out the instances of all. -/
theorem hands_handAll {cells : List (String × Writing (Handed Interned))}
    {texts : List (List String)}
    (h : List.Forall₂ (fun cell texts => Hands (fun value => value.shared?.toList) cell.2 texts)
      cells texts) : Hands instances (handAll cells) texts.flatten := by
  induction h with
  | nil => exact .pure rfl
  | cons hcell _ ih =>
    rw [List.flatten_cons]
    refine hcell.pair ih (fun value cells => (_, value) :: cells) fun value cells => ?_
    cases value <;> rfl

end Handed

namespace Extractor

open Handed (instances)

/-- What goes through the cache for a number, if it can be written. -/
def numberPass : Sharing → Nat → List String
  | _, 0 => []
  | sharing, n => (Sharing.offer sharing (toString n)).shared?.toList

theorem hands_handNumber (sharing : Sharing) (n : Nat) :
    Hands (fun value => value.shared?.toList) (handNumber sharing (some n))
      (numberPass sharing n) := by
  cases n with
  | zero => exact .pure rfl
  | succ n =>
    show Hands _ (liftExcept (Text.writeNumber (n + 1)) >>= fun text =>
      ((Sharing.offer sharing text).hand : Writing (Handed Interned))) _
    by_cases hn : Text.Writable (n + 1)
    · rw [Text.writeNumber_of_writable hn]
      exact Handed.hands_hand _
    · rw [Text.writeNumber_of_not_writable hn]
      exact .throw _

theorem hands_handNumbers (sharing : Sharing) (p : Plane) :
    Hands instances (handNumbers sharing (.plane p)) (numbersPass sharing (.plane p)) := by
  have htexts : numbersPass sharing (.plane p) =
      [(Sharing.offer sharing p.file.url).shared?.toList, numberPass sharing p.series,
        numberPass sharing p.frame].flatten := by
    -- Zero is left out on both sides, so the cases are those of `handNumber`.
    obtain ⟨file, series, frame⟩ := p
    cases sharing <;> cases series <;> cases frame <;> rfl
  rw [htexts]
  exact Handed.hands_handAll (.cons (Handed.hands_hand _) (.cons (hands_handNumber sharing _)
    (.cons (hands_handNumber sharing _) .nil)))

theorem hands_handNames (sharing : Sharing) {v : Value} {l : Location} (h : v.location? = some l) :
    Hands instances (handNames sharing l) (namesPass sharing v) := by
  have htexts : namesPass sharing v =
      [(Sharing.offer sharing ((Location.fileName l.url).toOption.getD "")).shared?.toList,
        (Sharing.offer sharing ((Location.pathName l.url).toOption.getD "")).shared?.toList].flatten
      := by
    cases sharing with
    | own => rfl
    | shared =>
      rw [namesPass, h]
      rfl
  have hnames : Hands instances (Handed.handAll
      [(fileNameKey, (Sharing.offer sharing ((Location.fileName l.url).toOption.getD "")).hand),
        (pathNameKey, (Sharing.offer sharing ((Location.pathName l.url).toOption.getD "")).hand)])
      (namesPass sharing v) := by
    rw [htexts]
    exact Handed.hands_handAll
      (.cons (Handed.hands_hand _) (.cons (Handed.hands_hand _) .nil))
  unfold handNames
  refine .after (gives_fileName? l.url) (keepsCache_fileName? l.url)
    (.after (gives_pathName? l.url) (keepsCache_pathName? l.url) ?_)
  -- The record of a missing name does not touch the cache.
  dsimp only
  split
  · exact .after (gives_log _ _ _) (keepsCache_log _ _ _) hnames
  · exact hnames

mutual

/-- An extractor hands out the instances of what it sends through the cache. -/
theorem hands_hand : ∀ {e : Extractor} {v : Value}, e.reads v = true →
    Hands instances (e.hand v) (e.passes v)
  | .planeNumbers sharing, v, h => by
    obtain ⟨p, rfl⟩ := Value.eq_plane_of_isA h
    exact hands_handNumbers sharing p
  | .names sharing, v, h => by
    rw [hand, passes]
    cases hl : v.location? with
    | none =>
      have hnone : namesPass sharing v = [] := by
        cases sharing with
        | own => rfl
        | shared =>
          rw [namesPass, hl]
          rfl
      rw [hnone]
      exact .pure rfl
    | some l => exact hands_handNames sharing hl
  | .fixed keys row, v, _ => .pure (by simp [instances, Handed.shared?])
  | .custom keys row?, v, _ => .pure (by simp [instances, Handed.shared?])
  | .combined members, v, h => by
    rw [hand, passes]
    exact hands_handMembers h

theorem hands_handMembers : ∀ {es : List Extractor} {v : Value}, membersRead es v = true →
    Hands instances (handMembers es v) (membersPass es v)
  | [], v, _ => .pure rfl
  | e :: es, v, h => by
    rw [membersRead, Bool.and_eq_true] at h
    rw [handMembers, membersPass]
    exact (hands_hand h.1).pair (hands_handMembers h.2) (· ++ ·) fun _ _ => List.filterMap_append

end

end Extractor

/-! ## Calls -/

/-- A use of a shared cache: a text is interned, or an extractor gives its row of a value that it
reads, which has no key twice. -/
inductive CacheCall where
  | intern (text : String)
  | extract (e : Extractor) (v : Value) (reads : e.reads v = true)
      (gives : ∃ row, e.row? v = .ok row) (distinct : (e.rowOf v).keys.Nodup)

/-- What comes of a call. -/
inductive CacheAnswer where
  | text (interned : Interned)
  | row (cells : List (String × Handed Interned))

namespace CacheAnswer

/-- The instances that were handed out, in order. -/
def instances : CacheAnswer → List Interned
  | .text i => [i]
  | .row cells => Handed.instances cells

/-- The text or the row that was given. -/
def content : CacheAnswer → String ⊕ Row
  | .text i => .inl i.text
  | .row cells => .inr (Row.ofPairs (Handed.pairs cells))

end CacheAnswer

namespace CacheCall

/-- A call with the instances that it hands out. -/
def run : CacheCall → Writing CacheAnswer
  | .intern text => .text <$> (Run.hand text : Writing Interned)
  | .extract e v _ _ _ => .row <$> e.hand v

/-- Calls one after the other. -/
def runAll : List CacheCall → Writing (List CacheAnswer)
  | [] => pure []
  | call :: calls => do
    let answer ← call.run
    let answers ← runAll calls
    return answer :: answers

/-- What a call gives in a new session. -/
def content : CacheCall → String ⊕ Row
  | .intern text => .inl text
  | .extract e v _ _ _ => .inr (e.rowOf v)

/-- What goes through the cache in a call. -/
def passes : CacheCall → List String
  | .intern text => [text]
  | .extract e v _ _ _ => e.passes v

theorem hands_run (call : CacheCall) : Hands CacheAnswer.instances call.run call.passes := by
  cases call with
  | intern text => exact (hands_runHand text).map fun _ => rfl
  | extract e v reads gives distinct => exact (Extractor.hands_hand reads).map fun _ => rfl

theorem hands_runAll (calls : List CacheCall) :
    Hands (List.flatMap CacheAnswer.instances) (runAll calls) (calls.flatMap passes) := by
  induction calls with
  | nil => exact .pure rfl
  | cons call calls ih =>
    rw [List.flatMap_cons, runAll]
    exact (hands_run call).pair ih (· :: ·) fun _ _ => List.flatMap_cons

/-- A call gives from every sound session what it gives in a new one. -/
theorem exists_run (call : CacheCall) {s : Session} (hs : s.Sound) :
    ∃ answer s', call.run.run.run s = (.ok answer, s') ∧ answer.content = call.content := by
  cases call with
  | intern text =>
    exact ⟨_, _, rfl, congrArg Sum.inl (StringCache.intern_text s.cache text)⟩
  | extract e v reads gives distinct =>
    obtain ⟨row, hrow⟩ := gives
    obtain ⟨s', hrun, -⟩ := e.answers_row? v s hs
    rw [Extractor.extract_run_eq_hand distinct hs, hrow, ← bind_pure_comp,
      run_bind_eq_ok_iff] at hrun
    obtain ⟨cells, s₁, hhand, hpure⟩ := hrun
    obtain ⟨hvalue, rfl⟩ := Prod.mk.inj hpure
    refine ⟨.row cells, s₁, ?_, congrArg Sum.inr ?_⟩
    · rw [run, ← bind_pure_comp, run_bind_eq_ok_iff]
      exact ⟨cells, s₁, hhand, rfl⟩
    · rw [Extractor.rowOf_of_row? hrow]
      exact Except.ok.inj hvalue

theorem exists_runAll (calls : List CacheCall) : ∀ {s : Session} {passed : List String},
    s.Sound → s.cache.After passed →
    ∃ answers s', (runAll calls).run.run s = (.ok answers, s') ∧
      answers.map CacheAnswer.content = calls.map content := by
  induction calls with
  | nil => exact fun _ _ => ⟨[], _, rfl, rfl⟩
  | cons call calls ih =>
    intro s passed hs hafter
    obtain ⟨answer, s₁, hrun, hcontent⟩ := call.exists_run hs
    have hcall := call.hands_run s passed hs hafter answer s₁ hrun
    obtain ⟨answers, s', hrunAll, hcontents⟩ := ih hcall.sound hcall.after
    refine ⟨answer :: answers, s', ?_, congrArg₂ List.cons hcontent hcontents⟩
    exact run_bind_eq_ok_iff.2
      ⟨answer, s₁, hrun, run_bind_eq_ok_iff.2 ⟨answers, s', hrunAll, rfl⟩⟩

/-- Any calls on a new cache come to answers, which show what the calls give, and hand out
instances of what passed through the cache. -/
theorem exists_handing (calls : List CacheCall) {s : Session} (hs : s.Sound)
    (hafter : s.cache.After []) :
    ∃ answers s', (runAll calls).run.run s = (.ok answers, s') ∧
      answers.map CacheAnswer.content = calls.map content ∧
      Handing (List.flatMap CacheAnswer.instances) [] (calls.flatMap passes) answers s' := by
  obtain ⟨answers, s', hrun, hcontent⟩ := exists_runAll calls hs hafter
  exact ⟨answers, s', hrun, hcontent, hands_runAll calls s [] hs hafter answers s' hrun⟩

end CacheCall

/-! ## Shared caches -/

open Extractor (seriesKey frameKey)

omit [CurrentDirectory] in
/-- Zero has the text of zero. -/
theorem Extractor.eq_of_numberCell_of_zero {n : Nat} {cell : String} (hn : n = 0)
    (h : numberCell (some n) = .ok cell) : cell = "0" := by
  subst hn
  exact (Except.ok.inj h).symm

/-- The decimal text of a number that is not zero is not that of zero. -/
theorem Extractor.zero_mem_passes {p : Plane} {sharing : Sharing}
    (h : "0" ∈ (planeNumbers sharing).passes (.plane p)) : p.file.url = "0" := by
  cases sharing with
  | own => simp [passes, numbersPass] at h
  | shared =>
    rcases List.mem_cons.1 h with hurl | hnumber
    · exact hurl.symm
    · obtain ⟨n, hmem, htext⟩ := List.mem_map.1 hnumber
      have hzero : n = 0 := Nat.repr_inj.1 htext
      simp [hzero] at hmem

/-- A series that cannot be written breaks the row of a plane off.  Only the URL has gone through
the cache before. -/
theorem Extractor.extract_plane_of_not_writable {p : Plane}
    (h : ¬Text.Writable p.series) (s : Session) :
    ((plane .shared).extract (.plane p)).run.run s =
      (.error .tooLong, { s with cache := (s.cache.intern p.file.url).2 }) := by
  have hnumber : numberText .shared (some p.series) = throw .tooLong := by
    cases hseries : p.series with
    | zero => exact absurd (hseries ▸ h) (by decide)
    | succ n =>
      have htext : Text.writeNumber (n + 1) = .error .tooLong :=
        Text.writeNumber_of_not_writable (hseries ▸ h)
      show (liftExcept (Text.writeNumber (n + 1)) >>= _ : Writing String) = _
      rw [htext]
      rfl
  have hseries : numberText .shared (Location.plane p).series? = throw .tooLong := hnumber
  unfold plane
  simp only [extract, extractMembers, Value.location?, Option.map_some, Option.getD_some,
    extractNumbers, hseries]
  rfl

/-- A shared cache does not show, and holds exactly what went through it.  Interning and extraction
hand out instances, of which a text and a row show the texts.  Take a new cache and any calls, one
after the other: extractors that share the cache give rows, alone or joined with others, and texts
are interned.  An extractor has a row for every value that can be shown.  Then every call gives
what it gives in a new session.  What is handed out by the cache, over all calls and in their order,
are the instances of the texts that went through it, each with the number of other texts that came
in before it; so two that are equal are one, and it is the one that the cache has for this text.
What the cache has at some time it has for ever.  In the end it holds the texts that went through
it and nothing else.  The index zero is shown, but never goes through the cache. -/
theorem shared_cache_transparent :
    (∀ text, Run.intern text = Interned.text <$> Run.hand text) ∧
    (∀ (e : Extractor) (v : Value) (s : Session), (e.rowOf v).keys.Nodup → s.Sound →
      (e.extract v).run.run s =
        ((fun cells => Row.ofPairs (Handed.pairs cells)) <$> e.hand v).run.run s) ∧
    (∀ (e : Extractor) (v : Value), v.Showable → ∃ row, e.row? v = .ok row) ∧
    (∀ (calls : List CacheCall) (s : Session), s.Sound → s.cache = {} →
      let passed := calls.flatMap CacheCall.passes
      ∃ answers s', (CacheCall.runAll calls).run.run s = (.ok answers, s') ∧
      let handed := answers.flatMap CacheAnswer.instances
      answers.map CacheAnswer.content = calls.map CacheCall.content ∧
      handed = passed.map (StringCache.instanceOf passed) ∧
      (∀ i ∈ handed, s'.cache.tickets[i.text]? = some i.ticket ∧
        ∀ j ∈ handed, i.text = j.text → i = j) ∧
      (∀ (n : Nat) (text : String) (ticket : Nat),
        ((CacheCall.runAll (calls.take n)).run.run s).2.cache.tickets[text]? = some ticket →
          s'.cache.tickets[text]? = some ticket) ∧
      (∀ text, s'.cache.contains text = true ↔ text ∈ passed) ∧
      s'.cache.size = passed.eraseDups.length) ∧
    ∀ (p : Plane) (sharing : Sharing),
      let e := Extractor.planeNumbers sharing
      (∀ row, e.row? (.plane p) = .ok row →
        (p.series = 0 → row.get? seriesKey = some "0") ∧
        (p.frame = 0 → row.get? frameKey = some "0")) ∧
      ("0" ∈ e.passes (.plane p) → p.file.url = "0") := by
  refine ⟨fun _ => rfl, fun e v s hrow hs => Extractor.extract_run_eq_hand hrow hs,
    fun e v h => ⟨_, Extractor.row?_of_showable h e⟩, ?calls, ?zero⟩
  case calls =>
    intro calls s hs hcache passed
    have hafter : s.cache.After [] := hcache ▸ StringCache.after_empty
    obtain ⟨answers, s', hrun, hcontent, hhands⟩ := CacheCall.exists_handing calls hs hafter
    refine ⟨answers, s', hrun, ?_⟩
    intro handed
    have hhanded : handed = passed.map (StringCache.instanceOf passed) :=
      hhands.instances passed (List.prefix_refl _)
    have hfinal : s'.cache.After passed := hhands.after
    have hinstance : ∀ i ∈ handed, i.text ∈ passed ∧ i = StringCache.instanceOf passed i.text := by
      intro i hi
      rw [hhanded] at hi
      obtain ⟨text, htext, rfl⟩ := List.mem_map.1 hi
      exact ⟨htext, rfl⟩
    refine ⟨hcontent, hhanded, fun i hi => ⟨?held, ?one⟩, ?kept,
      fun text => hfinal.contains_iff, hfinal.size⟩
    case held =>
      obtain ⟨hmem, heq⟩ := hinstance i hi
      rw [hfinal.ticket, if_pos hmem, ← heq]
    case one =>
      intro j hj htext
      rw [(hinstance i hi).2, (hinstance j hj).2, htext]
    case kept =>
      intro n text ticket hheld
      obtain ⟨answers₁, s₁, hrun₁, -, hhands₁⟩ :=
        CacheCall.exists_handing (calls.take n) hs hafter
      rw [hrun₁] at hheld
      have hfront : (calls.take n).flatMap CacheCall.passes <+: passed := by
        refine ⟨(calls.drop n).flatMap CacheCall.passes, ?_⟩
        rw [← List.flatMap_append, List.take_append_drop]
      exact hhands₁.after.getElem?_kept hfinal hfront hheld
  case zero =>
    intro p sharing e
    refine ⟨fun row hrow => ?_, Extractor.zero_mem_passes⟩
    have hanswers : Answers (e.extract (.plane p)) (Extractor.numbersRow (.plane p)) :=
      Extractor.answers_extractNumbers sharing (.plane p)
    rw [Extractor.row?_of_answers hanswers] at hrow
    obtain ⟨series, hseries, hnumbers⟩ := Except.bind_eq_ok_iff.1 hrow
    obtain ⟨frame, hframe, hnumbers⟩ := Except.bind_eq_ok_iff.1 hnumbers
    obtain rfl := Except.ok.inj hnumbers
    refine ⟨fun hzero => ?_, fun hzero => ?_⟩
    · exact congrArg some (Extractor.eq_of_numberCell_of_zero hzero hseries)
    · exact congrArg some (Extractor.eq_of_numberCell_of_zero hzero hframe)

end

/-- Of a plane with such a series neither the series nor the names go through the cache. -/
theorem long_series_not_interned :
    letI : CurrentDirectory := .root
    let v : Value := .plane ⟨⟨"file:///a.tif", none⟩, 10 ^ Text.digitLimit, 0⟩
    let e := Extractor.plane .shared
    e.reads v = true ∧ "a.tif" ∈ e.passes v ∧
      ∃ s, (e.extract v).run.run {} = (.error .tooLong, s) ∧
        s.cache.size = 1 ∧ s.cache.contains "a.tif" = false := by
  let _ : CurrentDirectory := .root
  -- The number is not to be computed, so it is any that cannot be written.
  suffices h : ∀ n, ¬Text.Writable n →
      let v : Value := .plane ⟨⟨"file:///a.tif", none⟩, n, 0⟩
      let e := Extractor.plane .shared
      e.reads v = true ∧ "a.tif" ∈ e.passes v ∧
        ∃ s, (e.extract v).run.run {} = (.error .tooLong, s) ∧
          s.cache.size = 1 ∧ s.cache.contains "a.tif" = false from h _ Text.not_writable_pow
  intro n hn v e
  have hafter := (StringCache.after_empty.intern "file:///a.tif").2
  have hname : Location.fileName "file:///a.tif" = .ok "a.tif" := by decide +kernel
  refine ⟨rfl, ?_, _, Extractor.extract_plane_of_not_writable (p := ⟨_, n, 0⟩) hn {},
    hafter.size, ?_⟩
  · have hnames : "a.tif" ∈ Extractor.namesPass .shared v := by
      show "a.tif" ∈ [(Location.fileName "file:///a.tif").toOption.getD "", _]
      rw [hname]
      exact List.mem_cons_self
    exact List.mem_append_right _ (List.mem_append_left _ hnames)
  · rw [← Bool.not_eq_true, hafter.contains_iff]
    decide

/-- The statement for a plane, for a file without names, and for texts that both have. -/
theorem shared_cache_transparent_mixed :
    letI : CurrentDirectory := .root
    let p : Value := .plane ⟨⟨"file:///a/b.tif", none⟩, 0, 5⟩
    let f : Value := .file ⟨"x y", none⟩
    ∃ gives distinct gives' distinct',
      let calls : List CacheCall :=
        [.intern "5", .extract (Extractor.plane .shared) p rfl gives distinct,
          .extract (Extractor.names .shared) f rfl gives' distinct', .intern ""]
      ∃ answers s', (CacheCall.runAll calls).run.run {} = (.ok answers, s') ∧
        answers.flatMap CacheAnswer.instances =
          [⟨"5", 0⟩, ⟨"file:///a/b.tif", 1⟩, ⟨"5", 0⟩, ⟨"b.tif", 2⟩, ⟨"/a", 3⟩, ⟨"", 4⟩, ⟨"", 4⟩,
            ⟨"", 4⟩] ∧
        s'.cache.contains "0" = false ∧ s'.cache.size = 5 := by
  let _ : CurrentDirectory := .root
  intro p f
  have hshow : p.Showable := (Value.showable_plane_iff _).2 ⟨by decide, by decide⟩
  have hplane : ((Extractor.plane .shared).rowOf p).keys.Nodup := by
    rw [Extractor.rowOf_plane_eq hshow]
    decide
  have hfile : ((Extractor.names .shared).rowOf f).keys.Nodup := by
    rw [Extractor.rowOf_file_eq]
    decide
  refine ⟨⟨_, Extractor.row?_of_showable hshow _⟩, hplane,
    ⟨_, Extractor.row?_file_eq .shared _⟩, hfile, ?_⟩
  intro calls
  have hplanePasses : (Extractor.plane .shared).passes (.plane ⟨⟨"file:///a/b.tif", none⟩, 0, 5⟩) =
      ["file:///a/b.tif", "5", "b.tif", "/a"] := by decide +kernel
  have hfilePasses : (Extractor.names .shared).passes (.file ⟨"x y", none⟩) = ["", ""] := by
    decide +kernel
  have hpassed : calls.flatMap CacheCall.passes =
      ["5", "file:///a/b.tif", "5", "b.tif", "/a", "", "", ""] := by
    simp only [calls, List.flatMap_cons, List.flatMap_nil, CacheCall.passes, p, f, hplanePasses,
      hfilePasses]
    rfl
  obtain ⟨-, -, -, hcalls, -⟩ := shared_cache_transparent
  obtain ⟨answers, s', hrun, -, hhanded, -, -, hcontains, hsize⟩ :=
    hcalls calls {} Session.sound_empty rfl
  rw [hpassed] at hhanded hcontains hsize
  refine ⟨answers, s', hrun, hhanded.trans (by decide +kernel), ?_,
    hsize.trans (by decide +kernel)⟩
  rw [← Bool.not_eq_true, hcontains]
  decide

end ImageSelect
