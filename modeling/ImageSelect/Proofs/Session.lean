import ImageSelect.Proofs.Except
import ImageSelect.Session

/-!
# What sessions have no part in

A session is sound if every name that it keeps is the one that its URL has.
Only derived names come to be kept, so what runs from a sound session leaves a
sound one behind.

* `Gives` says that a computation gives a value from every sound session.
  Neither the names that are kept, nor the strings that are interned, nor the
  records play a part in such a value.
* `Answers` says the same of a computation that may break off: it ends in the
  same way from every sound session.
* `Succeeds` says that such a computation breaks off in no session.
* One lemma for each step that computations on sessions are made of.
* `Quiet` says that a computation runs no probe.
-/

namespace ImageSelect

/-! ## Cells -/

/-- A cell that holds the result of a computation, or nothing, answers as the
computation does, and holds its result afterwards. -/
theorem Memo.get_of_filled {α ε : Type} {cell : Memo α} (compute : Unit → Except ε α)
    (h : ∀ a, cell = .filled a → compute () = .ok a) :
    (cell.get compute).result = compute () ∧
      ∀ a, (cell.get compute).cell = .filled a → compute () = .ok a := by
  cases cell with
  | filled a =>
    have ha := h a rfl
    rw [Memo.get_filled, ha]
    refine ⟨rfl, fun a' ha' => ?_⟩
    obtain rfl := Memo.filled.inj ha'
    rfl
  | empty =>
    refine ⟨Memo.result_get_empty compute, fun a ha => ?_⟩
    cases hc : compute () with
    | ok b =>
      simp only [Memo.get, hc] at ha
      obtain rfl := Memo.filled.inj ha
      rfl
    | error e => simp [Memo.get, hc] at ha

theorem Session.cells_setCells (s : Session) (url : String) (cells : NameCells) (url' : String) :
    (s.setCells url cells).cells url' = if url = url' then cells else s.cells url' := by
  unfold setCells Session.cells
  rw [Std.HashMap.getD_insert]
  simp

section
variable [CurrentDirectory]

/-! ## Sound sessions -/

/-- Every name that a session keeps is the one that its URL has. -/
structure Session.Sound (s : Session) : Prop where
  file : ∀ url name, (s.cells url).file = .filled name → Location.fileName url = .ok name
  path : ∀ url name, (s.cells url).path = .filled name → Location.pathName url = .ok name

namespace Session

theorem sound_empty : Sound {} := by
  constructor
  · intro url name h
    simp [cells] at h
  · intro url name h
    simp [cells] at h

/-- A session stays sound when the cells of a URL are filled with its names. -/
theorem Sound.setCells {s : Session} (h : s.Sound) {url : String} {cells : NameCells}
    (hfile : ∀ name, cells.file = .filled name → Location.fileName url = .ok name)
    (hpath : ∀ name, cells.path = .filled name → Location.pathName url = .ok name) :
    (s.setCells url cells).Sound := by
  constructor
  · intro url' name hname
    rw [cells_setCells] at hname
    split at hname
    · rename_i heq
      subst heq
      exact hfile name hname
    · exact h.file url' name hname
  · intro url' name hname
    rw [cells_setCells] at hname
    split at hname
    · rename_i heq
      subst heq
      exact hpath name hname
    · exact h.path url' name hname

/-- Sessions that keep the same names are sound alike. -/
theorem Sound.of_names {s s' : Session} (h : s.Sound) (hnames : s'.names = s.names) :
    s'.Sound := by
  have hcells : ∀ url, s'.cells url = s.cells url := by
    intro url
    rw [cells, cells, hnames]
  exact ⟨fun url name hname => h.file url name (hcells url ▸ hname),
    fun url name hname => h.path url name (hcells url ▸ hname)⟩

end Session

/-! ## What is given from every sound session -/

/-- What a computation gives in a new session. -/
def Run.alone {α : Type} (x : Run α) : α :=
  (x.run {}).1

/-- From every sound session a computation gives a value, and leaves a sound
session behind. -/
def Gives {α : Type} (x : Run α) (a : α) : Prop :=
  ∀ s : Session, s.Sound → ∃ s', x.run s = (a, s') ∧ s'.Sound

namespace Gives

variable {α β : Type} {x : Run α} {a b : α}

theorem alone_eq (h : Gives x a) : x.alone = a := by
  obtain ⟨s', hrun, -⟩ := h {} Session.sound_empty
  rw [Run.alone, hrun]

theorem result_eq (h : Gives x a) {s : Session} (hs : s.Sound) : (x.run s).1 = a := by
  obtain ⟨s', hrun, -⟩ := h s hs
  rw [hrun]

theorem pure (a : α) : Gives (Pure.pure a) a :=
  fun s hs => ⟨s, rfl, hs⟩

theorem bind {f : α → Run β} {b : β} (h : Gives x a) (hf : Gives (f a) b) :
    Gives (x >>= f) b := by
  intro s hs
  obtain ⟨s', hrun, hs'⟩ := h s hs
  obtain ⟨s'', hrun', hs''⟩ := hf s' hs'
  refine ⟨s'', ?_, hs''⟩
  rw [StateT.run_bind, hrun]
  exact hrun'

theorem map (h : Gives x a) (f : α → β) : Gives (f <$> x) (f a) := by
  rw [← bind_pure_comp]
  exact h.bind (.pure (f a))

/-- A step that leaves the names alone keeps sessions sound. -/
theorem modify {f : Session → Session} (hf : ∀ s, (f s).names = s.names) :
    Gives (modify f : Run Unit) () :=
  fun s hs => ⟨f s, rfl, hs.of_names (hf s)⟩

end Gives

/-- A value that is given from every sound session is given in a new one. -/
theorem exists_gives_iff {α : Type} {x : Run α} : (∃ a, Gives x a) ↔ Gives x x.alone := by
  constructor
  · intro h
    obtain ⟨a, ha⟩ := h
    rwa [ha.alone_eq]
  · exact fun h => ⟨_, h⟩

/-! ## Computations that may break off -/

/-- From every sound session a computation comes to the same answer, or breaks
off in the same way. -/
def Answers {ε α : Type} (m : ExceptT ε Run α) (r : Except ε α) : Prop :=
  Gives m.run r

namespace Answers

variable {ε ε' α β : Type} {m : ExceptT ε Run α} {r : Except ε α}

theorem pure (a : α) : Answers (Pure.pure a : ExceptT ε Run α) (.ok a) :=
  Gives.pure _

theorem throw (e : ε) : Answers (MonadExcept.throw e : ExceptT ε Run α) (.error e) :=
  Gives.pure _

/-- What does not look at the session answers with its own result. -/
theorem ofExcept (r : Except ε α) : Answers (liftExcept r : ExceptT ε Run α) r := by
  cases r with
  | ok a => exact .pure a
  | error e => exact .throw e

/-- What only adds to the session answers with what it gives. -/
theorem lift {x : Run α} {a : α} (h : Gives x a) : Answers (x : ExceptT ε Run α) (.ok a) :=
  h.map Except.ok

/-- Computations follow one another as their answers do. -/
theorem bind {f : α → ExceptT ε Run β} {g : α → Except ε β} (h : Answers m r)
    (hf : ∀ a, r = .ok a → Answers (f a) (g a)) : Answers (m >>= f) (r >>= g) := by
  unfold Answers
  rw [ExceptT.run_bind]
  refine Gives.bind h ?_
  cases r with
  | ok a => exact hf a rfl
  | error e => exact .pure _

/-- What follows an answer goes on with it. -/
theorem bind_ok {f : α → ExceptT ε Run β} {a : α} {r' : Except ε β} (h : Answers m (.ok a))
    (hf : Answers (f a) r') : Answers (m >>= f) r' := by
  refine h.bind (g := fun _ => r') fun a' ha' => ?_
  obtain rfl := Except.ok.inj ha'
  exact hf

/-- Where a computation breaks off nothing follows. -/
theorem bind_error {f : α → ExceptT ε Run β} {e : ε} (h : Answers m (.error e)) :
    Answers (m >>= f) (.error e) :=
  h.bind (g := fun _ => .error e) fun _ ha => nomatch ha

theorem map (h : Answers m r) (f : α → β) : Answers (f <$> m) (r.map f) := by
  unfold Answers
  rw [ExceptT.run_map]
  exact Gives.map h (Except.map f)

theorem adapt (h : Answers m r) (f : ε → ε') : Answers (m.adapt f) (r.mapError f) :=
  Gives.map h (Except.mapError f)

end Answers

end

/-- Computations that follow one another come to a value if each of them does. -/
theorem run_bind_eq_ok_iff {ε α β : Type} {m : ExceptT ε Run α} {f : α → ExceptT ε Run β}
    {b : β} {s s' : Session} :
    (m >>= f).run.run s = (.ok b, s') ↔
      ∃ a s₁, m.run.run s = (.ok a, s₁) ∧ (f a).run.run s₁ = (.ok b, s') := by
  rw [ExceptT.run_bind, StateT.run_bind]
  rcases m.run.run s with ⟨e | a, s₁⟩
  · constructor
    · exact fun h => nomatch congrArg Prod.fst h
    · rintro ⟨a, s₁', h, -⟩
      exact nomatch congrArg Prod.fst h
  · constructor
    · exact fun h => ⟨a, s₁, rfl, h⟩
    · rintro ⟨a', s₁', hfirst, h⟩
      obtain ⟨hvalue, rfl⟩ := Prod.mk.inj hfirst
      obtain rfl := Except.ok.inj hvalue
      exact h

/-! ## Computations that do not break off -/

/-- From every session, sound or not, a computation gives a value. -/
def Succeeds {ε α : Type} (m : ExceptT ε Run α) : Prop :=
  ∀ s : Session, ∃ a s', m.run.run s = (.ok a, s')

namespace Succeeds

variable {ε ε' α β : Type} {m : ExceptT ε Run α}

theorem pure (a : α) : Succeeds (Pure.pure a : ExceptT ε Run α) :=
  fun s => ⟨a, s, rfl⟩

theorem lift (x : Run α) : Succeeds (x : ExceptT ε Run α) :=
  fun s => ⟨(x.run s).1, (x.run s).2, rfl⟩

theorem ofExcept {r : Except ε α} {a : α} (h : r = .ok a) :
    Succeeds (liftExcept r : ExceptT ε Run α) := by
  rw [h]
  exact pure a

theorem bind {f : α → ExceptT ε Run β} (h : Succeeds m) (hf : ∀ a, Succeeds (f a)) :
    Succeeds (m >>= f) := by
  intro s
  obtain ⟨a, s', hm⟩ := h s
  obtain ⟨b, s'', hb⟩ := hf a s'
  refine ⟨b, s'', ?_⟩
  rw [ExceptT.run_bind, StateT.run_bind, hm]
  exact hb

theorem map (h : Succeeds m) (f : α → β) : Succeeds (f <$> m) := by
  rw [← bind_pure_comp]
  exact h.bind fun a => pure (f a)

theorem adapt (h : Succeeds m) (f : ε → ε') : Succeeds (m.adapt f) := by
  intro s
  obtain ⟨a, s', hm⟩ := h s
  refine ⟨a, s', ?_⟩
  show ((Except.mapError f) <$> m.run).run s = _
  rw [StateT.run_map, hm]
  rfl

/-- What does not break off in a new session has a value there. -/
theorem exists_alone (h : Succeeds m) : ∃ a, m.run.alone = .ok a := by
  obtain ⟨a, s', hm⟩ := h {}
  exact ⟨a, by rw [Run.alone, hm]⟩

end Succeeds

section
variable [CurrentDirectory]

/-! ## The steps -/

theorem gives_log (level : Logging.Level) (logger message : String) :
    Gives (Run.log level logger message) () :=
  .modify fun _ => rfl

theorem gives_visit (name : String) : Gives (Run.visit name) () :=
  .modify fun _ => rfl

/-- Interning gives back the string, whatever has been interned before. -/
theorem gives_intern (text : String) : Gives (Run.intern text) text := by
  intro s hs
  have hrun : (Run.intern text).run s =
      ((s.cache.intern text).1.text, { s with cache := (s.cache.intern text).2 }) := rfl
  rw [hrun, StringCache.intern_text]
  exact ⟨_, rfl, hs.of_names rfl⟩

/-- The file name of a URL does not depend on what was derived before. -/
theorem gives_fileName? (url : String) :
    Gives (Run.fileName? url) (Location.fileName url).toOption := by
  intro s hs
  obtain ⟨hresult, hcell⟩ := Memo.get_of_filled (fun _ => Location.fileName url) (hs.file url)
  simp only [Run.fileName?, StateT.run_modifyGet, hresult]
  cases hname : Location.fileName url with
  | ok name =>
    rw [hname] at hcell
    exact ⟨_, rfl, hs.setCells (fun name' h => hname.trans (hcell name' h)) (hs.path url)⟩
  | error e => exact ⟨_, rfl, hs.of_names rfl⟩

/-- The path name of a URL does not depend on what was derived before. -/
theorem gives_pathName? (url : String) :
    Gives (Run.pathName? url) (Location.pathName url).toOption := by
  intro s hs
  obtain ⟨hresult, hcell⟩ := Memo.get_of_filled (fun _ => Location.pathName url) (hs.path url)
  simp only [Run.pathName?, StateT.run_modifyGet, hresult]
  cases hname : Location.pathName url with
  | ok name =>
    rw [hname] at hcell
    exact ⟨_, rfl, hs.setCells (hs.file url) fun name' h => hname.trans (hcell name' h)⟩
  | error e => exact ⟨_, rfl, hs.of_names rfl⟩

end

/-! ## What runs no probe -/

/-- A computation leaves the probes alone. -/
def Quiet {α : Type} (x : Run α) : Prop :=
  ∀ s : Session, (x.run s).2.probes = s.probes

namespace Quiet

variable {α β : Type} {x : Run α}

theorem pure (a : α) : Quiet (Pure.pure a) :=
  fun _ => rfl

theorem bind {f : α → Run β} (h : Quiet x) (hf : ∀ a, Quiet (f a)) : Quiet (x >>= f) := by
  intro s
  rw [StateT.run_bind]
  exact (hf _ _).trans (h s)

theorem map (h : Quiet x) (f : α → β) : Quiet (f <$> x) := by
  rw [← bind_pure_comp]
  exact h.bind fun a => pure (f a)

/-! Computations that may break off. -/

variable {ε : Type} {m : ExceptT ε Run α}

theorem run_ofExcept (r : Except ε α) : Quiet (liftExcept r : ExceptT ε Run α).run := by
  cases r <;> exact pure _

theorem run_lift (h : Quiet x) : Quiet (x : ExceptT ε Run α).run :=
  h.map Except.ok

theorem run_bind {f : α → ExceptT ε Run β} (h : Quiet m.run) (hf : ∀ a, Quiet (f a).run) :
    Quiet (m >>= f).run := by
  rw [ExceptT.run_bind]
  refine h.bind fun r => ?_
  cases r with
  | ok a => exact hf a
  | error e => exact pure _

end Quiet

theorem quiet_log (level : Logging.Level) (logger message : String) :
    Quiet (Run.log level logger message) :=
  fun _ => rfl

theorem quiet_intern (text : String) : Quiet (Run.intern text) :=
  fun _ => rfl

theorem quiet_fileName? (url : String) : Quiet (Run.fileName? url) := by
  intro s
  simp only [Run.fileName?, StateT.run_modifyGet]
  split <;> rfl

theorem quiet_pathName? [CurrentDirectory] (url : String) : Quiet (Run.pathName? url) := by
  intro s
  simp only [Run.pathName?, StateT.run_modifyGet]
  split <;> rfl

end ImageSelect
