import Mathlib.Data.List.Forall2
import ImageSelect.Location.Document
import ImageSelect.Proofs.Session

/-!
# Asking for names again and again

The names of a file are derived when they are asked for, and a name that was derived is kept.
This cannot be told from the answers: through whole runs of actions on a file and its planes,
every request gives what a new file with the URL gives.

* `Naming` treats the two names of a URL alike.
* `Session.Keeps`: for a URL there are no names but its own.
* `Naming.request_of_ok`, `Naming.request_of_error`: what a request comes to, if there is such a
  name and if there is none.
* `Session.Follows`: what actions leave behind for a URL, kept by `Session.Follows.step` for one
  action and by `FileAction.runAll_follows` for a run.
-/

namespace ImageSelect

/-! ## The two names -/

/-- The names of a URL. -/
inductive Naming where
  | file
  | path
  deriving DecidableEq

namespace Naming

/-- The cell that the name is kept in. -/
def cell : Naming → NameCells → Memo String
  | .file => NameCells.file
  | .path => NameCells.path

/-- The cells with another one for the name. -/
def setCell : Naming → NameCells → Memo String → NameCells
  | .file, cells, cell => { cells with file := cell }
  | .path, cells, cell => { cells with path := cell }

/-- The record of a URL that has no such name. -/
def record : Naming → String → NameError → Logging.Record
  | .file => Run.fileNameRecord
  | .path => Run.pathNameRecord

/-- Asks a file for its name. -/
def action : Naming → FileAction
  | .file => .fileName
  | .path => .pathName

section

variable (n m : Naming) (cells : NameCells) (cell : Memo String)

@[simp] theorem cell_setCell : n.cell (n.setCell cells cell) = cell := by
  cases n <;> rfl

theorem cell_setCell_of_ne {n m : Naming} (h : m ≠ n) :
    m.cell (n.setCell cells cell) = m.cell cells := by
  cases n with
  | file =>
    cases m with
    | file => exact absurd rfl h
    | path => rfl
  | path =>
    cases m with
    | file => rfl
    | path => exact absurd rfl h

/-- The cells of a URL that nothing was asked of are empty. -/
@[simp] theorem cell_default : n.cell {} = .empty := by
  cases n <;> rfl

@[simp] theorem logger_record (url : String) (e : NameError) :
    (n.record url e).logger = Run.nameLogger := by
  cases n with
  | file => rfl
  | path => cases e <;> rfl

end

variable [CurrentDirectory]

/-- The name of a URL, or why it has none. -/
def derive : Naming → String → Except NameError String
  | .file => Location.fileName
  | .path => Location.pathName

/-- Asks for the name of a URL. -/
def request : Naming → String → Run (Option String)
  | .file => Run.fileName?
  | .path => Run.pathName?

end Naming

/-- The level of the record of a URL without a name: a warning if the URL is well formed, but
there is nothing to rebuild another one from. -/
def NameError.level : NameError → Logging.Level
  | .noAuthority _ => .warning
  | _ => .info

/-- No URL lacks a file name for want of an authority. -/
theorem Location.fileName_ne_noAuthority (url : String) (scheme : List Char) :
    fileName url ≠ .error (.noAuthority scheme) := by
  unfold fileName parseUrl
  cases Url.parse url.toList with
  | error why => simp [Except.mapError, bind, Except.bind]
  | ok u =>
    unfold fileNameOf localPath
    simp only [Except.mapError, bind, Except.bind]
    split
    · rename_i e he
      intro h
      rw [Except.error.inj h] at he
      split at he
      · split at he <;> simp [Except.map] at he
      · cases he
    · simp [pure, Except.pure]

section

variable [CurrentDirectory]

theorem Naming.level_record {n : Naming} {url : String} {e : NameError}
    (h : n.derive url = .error e) : (n.record url e).level = e.level := by
  cases n with
  | file =>
    cases e with
    | noAuthority scheme => exact absurd h (Location.fileName_ne_noAuthority url scheme)
    | _ => rfl
  | path => cases e <;> rfl

/-! ## Requests -/

/-- For a URL there are no names but its own. -/
def Session.Keeps (s : Session) (url : String) : Prop :=
  ∀ (n : Naming) (name : String), n.cell (s.cells url) = .filled name → n.derive url = .ok name

namespace Naming

variable {n : Naming} {url : String} {s : Session}

/-- A request is one to the cell of the name. -/
theorem request_run (n : Naming) (url : String) (s : Session) :
    (n.request url).run s =
      let reply := (n.cell (s.cells url)).get fun _ => n.derive url
      match reply.result with
      | .ok name => (some name, s.setCells url (n.setCell (s.cells url) reply.cell))
      | .error e => (none, s.log (n.record url e)) := by
  cases n <;> rfl

/-- Every sound session gives the name of a URL, if there is one. -/
theorem gives_request (n : Naming) (url : String) :
    Gives (n.request url) (n.derive url).toOption := by
  cases n with
  | file => exact gives_fileName? url
  | path => exact gives_pathName? url

/-- A name that there is is given without a record, and its cell is filled afterwards. -/
theorem request_of_ok (h : s.Keeps url) {name : String} (hname : n.derive url = .ok name) :
    ∃ s', (n.request url).run s = (some name, s') ∧ s'.records = s.records ∧
      n.cell (s'.cells url) = .filled name ∧
      ∀ m, m ≠ n → m.cell (s'.cells url) = m.cell (s.cells url) := by
  have hget : (n.cell (s.cells url)).get (fun _ => n.derive url) =
      ⟨.ok name, .filled name, !(n.cell (s.cells url)).isFilled⟩ := by
    cases hcell : n.cell (s.cells url) with
    | empty => simp [Memo.get, hname, Memo.isFilled]
    | filled kept =>
      obtain rfl := Except.ok.inj (hname.symm.trans (h n kept hcell))
      rfl
  rw [request_run, hget]
  refine ⟨_, rfl, rfl, ?_, fun m hm => ?_⟩
  · rw [Session.cells_setCells, if_pos rfl, cell_setCell]
  · rw [Session.cells_setCells, if_pos rfl, cell_setCell_of_ne _ _ hm]

/-- A name that there is not is asked for in vain: the request leaves one record and nothing
else. -/
theorem request_of_error (h : s.Keeps url) {e : NameError} (he : n.derive url = .error e) :
    (n.request url).run s = (none, s.log (n.record url e)) ∧ n.cell (s.cells url) = .empty := by
  have hempty : n.cell (s.cells url) = .empty := by
    cases hcell : n.cell (s.cells url) with
    | empty => rfl
    | filled name => exact absurd (he.symm.trans (h n name hcell)) (by simp)
  refine ⟨?_, hempty⟩
  rw [request_run, hempty]
  simp only [Memo.get, he]

end Naming

/-! ## Actions -/

namespace FileAction

/-- The name that an action asks for. -/
def naming? : FileAction → Option Naming
  | .fileName | .planeFileName _ _ => some .file
  | .pathName | .planePathName _ _ => some .path
  | .attach _ | .attachDocument _ | .detach => none

/-- The record that an action leaves for a URL. -/
def record? (url : String) (a : FileAction) : Option Logging.Record :=
  a.naming?.bind fun n =>
    match n.derive url with
    | .ok _ => none
    | .error e => some (n.record url e)

/-- A name is asked for by the URL, be it through the file or one of its planes. -/
theorem run_of_naming {a : FileAction} {n : Naming} (h : a.naming? = some n)
    (file : ImageFile) :
    a.run file = (do return (file, .ok (← n.request file.url))) := by
  cases a <;> cases h <;> rfl

omit [CurrentDirectory] in
theorem url_settle (file : ImageFile) (a : Attachment) :
    (settle file (file.attach a)).1.url = file.url := by
  cases a with
  | value v => rfl
  | element e =>
    by_cases hroot : isDocumentRoot e = true
    · rw [ImageFile.attach, if_pos hroot]
      rfl
    · rw [ImageFile.attach, if_neg hroot]
      rfl

omit [CurrentDirectory] in
theorem url_settle_document (file : ImageFile) (input : Xml.Input) :
    (settle file (file.attachDocument input)).1.url = file.url := by
  unfold ImageFile.attachDocument
  cases input.read with
  | error why => rfl
  | ok root => exact url_settle file (.element root)

/-- All other actions are about the document only. -/
theorem run_of_naming?_eq_none {a : FileAction} (h : a.naming? = none) (file : ImageFile) :
    ∃ file' answer, (∀ s, (a.run file).run s = ((file', answer), s)) ∧ file'.url = file.url := by
  cases a with
  | attach a => exact ⟨_, _, fun _ => rfl, url_settle file a⟩
  | attachDocument input => exact ⟨_, _, fun _ => rfl, url_settle_document file input⟩
  | detach => exact ⟨_, _, fun _ => rfl, rfl⟩
  | _ => cases h

/-- What an action on a file comes to, in a session that keeps no names for its URL but its
own: the action asks for no name, for one that there is, or for one that there is not. -/
inductive Step (url : String) (a : FileAction) (s : Session) : FileAnswer → Session → Prop
  | other (answer : FileAnswer) (asks : a.naming? = none) : Step url a s answer s
  | given {n : Naming} {name : String} {s' : Session} (asks : a.naming? = some n)
      (derives : n.derive url = .ok name) (records : s'.records = s.records)
      (fills : n.cell (s'.cells url) = .filled name)
      (others : ∀ m, m ≠ n → m.cell (s'.cells url) = m.cell (s.cells url)) :
      Step url a s (.ok (some name)) s'
  | vain {n : Naming} {e : NameError} (asks : a.naming? = some n)
      (fails : n.derive url = .error e) (empty : n.cell (s.cells url) = .empty) :
      Step url a s (.ok none) (s.log (n.record url e))

theorem run_step {s : Session} {file : ImageFile} (h : s.Keeps file.url) (a : FileAction) :
    ∃ file' answer s', (a.run file).run s = ((file', answer), s') ∧ file'.url = file.url ∧
      a.Step file.url s answer s' := by
  cases hnaming : a.naming? with
  | none =>
    obtain ⟨file', answer, hrun, hurl⟩ := run_of_naming?_eq_none hnaming file
    exact ⟨file', answer, s, hrun s, hurl, .other answer hnaming⟩
  | some n =>
    cases hderive : n.derive file.url with
    | ok name =>
      obtain ⟨s', hrun, hrecords, hcell, hothers⟩ := Naming.request_of_ok h hderive
      refine ⟨file, .ok (some name), s', ?_, rfl, .given hnaming hderive hrecords hcell hothers⟩
      rw [run_of_naming hnaming, StateT.run_bind, hrun]
      rfl
    | error e =>
      obtain ⟨hrun, hempty⟩ := Naming.request_of_error h hderive
      refine ⟨file, .ok none, _, ?_, rfl, .vain hnaming hderive hempty⟩
      rw [run_of_naming hnaming, StateT.run_bind, hrun]
      rfl

namespace Step

variable {url : String} {a : FileAction} {s s' : Session} {answer : FileAnswer} {n : Naming}

/-- A request gives the name that the URL has, if any. -/
theorem answer_eq (h : a.Step url s answer s') (hn : a.naming? = some n) :
    answer = .ok (n.derive url).toOption := by
  cases h with
  | other _ asks => cases asks.symm.trans hn
  | given asks derives =>
    obtain rfl := Option.some.inj (asks.symm.trans hn)
    rw [derives]
    rfl
  | vain asks fails =>
    obtain rfl := Option.some.inj (asks.symm.trans hn)
    rw [fails]
    rfl

/-- An action adds the name that it asks for, if the URL has it. -/
theorem filled_iff (h : a.Step url s answer s') (hs : s.Keeps url) {name : String} :
    n.cell (s'.cells url) = .filled name ↔
      n.cell (s.cells url) = .filled name ∨ n.derive url = .ok name ∧ a.naming? = some n := by
  cases h with
  | other _ asks => simp [asks]
  | @given m name' _ asks derives _ fills others =>
    by_cases hm : n = m
    · subst hm
      have hkept : n.cell (s.cells url) = .filled name → n.derive url = .ok name := hs n name
      simp only [fills, asks, derives, Memo.filled.injEq, Except.ok.injEq, and_true]
      rw [derives, Except.ok.injEq] at hkept
      exact (or_iff_right_of_imp hkept).symm
    · have hother : m ≠ n := fun heq => hm heq.symm
      simp [others n hm, asks, hother]
  | @vain m e asks fails =>
    have hvain : ¬(n.derive url = .ok name ∧ a.naming? = some n) := by
      rintro ⟨hname, hn⟩
      obtain rfl := Option.some.inj (asks.symm.trans hn)
      cases fails.symm.trans hname
    show n.cell (s.cells url) = .filled name ↔ _
    rw [or_iff_left hvain]

/-- What is in a cell stays there. -/
theorem cell_eq (h : a.Step url s answer s') (hs : s.Keeps url)
    (hfilled : (n.cell (s.cells url)).isFilled = true) :
    n.cell (s'.cells url) = n.cell (s.cells url) := by
  cases hcell : n.cell (s.cells url) with
  | empty => simp [hcell, Memo.isFilled] at hfilled
  | filled name => exact (h.filled_iff hs).2 (.inl hcell)

/-- An action adds its record. -/
theorem records_eq (h : a.Step url s answer s') :
    s'.records.toList = s.records.toList ++ (a.record? url).toList := by
  cases h with
  | other _ asks => simp [record?, asks]
  | given asks derives records => simp [record?, asks, derives, records]
  | vain asks fails => simp [record?, asks, fails, Session.log]

end Step

end FileAction

/-! ## Runs -/

/-- What actions on a file leave behind for its URL in a session that knew no name of it: the
names that were asked for, where there are such, and the records. -/
structure Session.Follows (before : Session) (url : String) (actions : List FileAction)
    (s : Session) : Prop where
  filled_iff : ∀ n name, n.cell (s.cells url) = .filled name ↔
    n.derive url = .ok name ∧ ∃ a ∈ actions, a.naming? = some n
  records : s.records.toList = before.records.toList ++ actions.filterMap (FileAction.record? url)

/-- An action that asks for a name gives the one that the URL has, if any. -/
def FileAction.Answered (url : String) (a : FileAction) (answer : FileAnswer) : Prop :=
  ∀ n, a.naming? = some n → answer = .ok (n.derive url).toOption

section
variable {before s s' : Session} {url : String} {done : List FileAction}

theorem Session.follows_nil (hnew : s.cells url = {}) : s.Follows url [] s := by
  constructor
  · intro n name
    simp [hnew]
  · simp

theorem Session.Follows.keeps (h : before.Follows url done s) : s.Keeps url :=
  fun n name hcell => ((h.filled_iff n name).1 hcell).1

/-- One more action. -/
theorem Session.Follows.step (h : before.Follows url done s) {a : FileAction}
    {answer : FileAnswer} (hstep : a.Step url s answer s') :
    before.Follows url (done ++ [a]) s' := by
  constructor
  · intro n name
    have hasked : (∃ a' ∈ done ++ [a], a'.naming? = some n) ↔
        (∃ a' ∈ done, a'.naming? = some n) ∨ a.naming? = some n := by
      simp [or_and_right, exists_or]
    rw [hstep.filled_iff h.keeps, h.filled_iff, hasked, and_or_left]
  · have hlast : [a].filterMap (FileAction.record? url) = (a.record? url).toList := by
      cases hrecord : a.record? url <;> simp [hrecord]
    rw [hstep.records_eq, h.records, List.filterMap_append, hlast, List.append_assoc]

/-- All actions of a run, one after the other. -/
theorem FileAction.runAll_follows (actions : List FileAction) :
    ∀ {done : List FileAction} {s : Session} {file : ImageFile},
      before.Follows file.url done s →
      ∃ file' answers s', (runAll file actions).run s = ((file', answers), s') ∧
        file'.url = file.url ∧ List.Forall₂ (Answered file.url) actions answers ∧
        before.Follows file.url (done ++ actions) s' := by
  induction actions with
  | nil =>
    intro done s file h
    rw [List.append_nil]
    exact ⟨file, [], s, rfl, rfl, .nil, h⟩
  | cons a actions ih =>
    intro done s file h
    obtain ⟨file₁, answer, s₁, hrun₁, hurl₁, hstep⟩ := run_step h.keeps a
    have h₁ := h.step hstep
    rw [← hurl₁] at h₁
    obtain ⟨file', answers, s', hrun, hurl, hanswers, h'⟩ := ih h₁
    rw [hurl₁] at hurl hanswers h'
    rw [List.append_assoc] at h'
    refine ⟨file', answer :: answers, s', ?_, hurl, .cons (fun n => hstep.answer_eq) hanswers, h'⟩
    rw [runAll, StateT.run_bind, hrun₁]
    show (do return (← runAll file₁ actions).map id (answer :: ·) : Run _).run s₁ = _
    rw [StateT.run_bind, hrun]
    rfl

end

/-- A new file with a URL gives the name that the URL has, if any. -/
theorem Naming.run_action_new (n : Naming) (url : String) :
    ((n.action.run { url }).run {}).1.2 = .ok (n.derive url).toOption := by
  have hnew : ({} : Session).Keeps url := by
    intro n name hcell
    simp [Session.cells] at hcell
  have hnaming : n.action.naming? = some n := by cases n <;> rfl
  obtain ⟨file', answer, s', hrun, -, hstep⟩ := @FileAction.run_step _ {} { url } hnew n.action
  rw [hrun]
  exact hstep.answer_eq hnaming

/-- The cells that are filled after a run are those of the names that a request gave. -/
theorem Session.Follows.isFilled_iff {before s : Session} {url : String}
    {actions : List FileAction} (h : before.Follows url actions s) {answers : List FileAnswer}
    (hanswers : List.Forall₂ (FileAction.Answered url) actions answers) (n : Naming) :
    (n.cell (s.cells url)).isFilled = true ↔
      ∃ a name, (a, .ok (some name)) ∈ actions.zip answers ∧ a.naming? = some n := by
  obtain ⟨hlength, hanswered⟩ := List.forall₂_iff_zip.1 hanswers
  constructor
  · intro hfilled
    cases hcell : n.cell (s.cells url) with
    | empty => simp [hcell, Memo.isFilled] at hfilled
    | filled name =>
      obtain ⟨hname, a, ha, hn⟩ := (h.filled_iff n name).1 hcell
      rw [← List.map_fst_zip (Nat.le_of_eq hlength)] at ha
      obtain ⟨⟨a, answer⟩, hmem, rfl⟩ := List.mem_map.1 ha
      have hanswer := hanswered hmem n hn
      rw [hname] at hanswer
      exact ⟨a, name, hanswer ▸ hmem, hn⟩
  · rintro ⟨a, name, hmem, hn⟩
    have hanswer := Except.ok.inj (hanswered hmem n hn)
    have hname : n.derive url = .ok name := by
      cases hderive : n.derive url with
      | ok name' =>
        rw [hderive] at hanswer
        rw [Option.some.inj hanswer]
      | error e =>
        rw [hderive] at hanswer
        cases hanswer
    rw [(h.filled_iff n name).2 ⟨hname, a, (List.of_mem_zip hmem).1, hn⟩, Memo.isFilled]

/-- That names are kept cannot be told from the answers.  Take a file that was not asked for its
names before, and any run of requests for its names, through the file or its planes, and of
attempts to attach documents or to take them off.  The URL stays as it is, and every request
gives what a new file with the URL gives.  The cell of a name is filled exactly if a request for
it was successful.  The run leaves the records of the requests that were made in vain, and
nothing else.  After the run, whatever is done next: what is in a cell stays there; a
successful request leaves no record; and one that is made in vain leaves exactly one in the log
of the module, as a warning if the URL has nothing to be rebuilt from, and an empty cell, so
that the next request computes again. -/
theorem kept_names_transparent {file : ImageFile} {s : Session} (hnew : s.cells file.url = {})
    (actions : List FileAction) :
    ∃ file' answers s', (FileAction.runAll file actions).run s = ((file', answers), s') ∧
      file'.url = file.url ∧
      answers.length = actions.length ∧
      (∀ a answer n, (a, answer) ∈ actions.zip answers → a.naming? = some n →
        answer = ((n.action.run { url := file.url }).run {}).1.2) ∧
      (∀ n : Naming, (n.cell (s'.cells file.url)).isFilled = true ↔
        ∃ a name, (a, .ok (some name)) ∈ actions.zip answers ∧ a.naming? = some n) ∧
      s'.records.toList =
        s.records.toList ++ actions.filterMap (FileAction.record? file.url) ∧
      ∀ a : FileAction, ∃ file'' answer s'', (a.run file').run s' = ((file'', answer), s'') ∧
        file''.url = file.url ∧
        (∀ n : Naming, (n.cell (s'.cells file.url)).isFilled = true →
          n.cell (s''.cells file.url) = n.cell (s'.cells file.url)) ∧
        (a.naming? = none → s'' = s') ∧
        ∀ n, a.naming? = some n →
          answer = ((n.action.run { url := file.url }).run {}).1.2 ∧
          ((∃ name, answer = .ok (some name) ∧ s''.records = s'.records) ∨
            ∃ e, n.derive file.url = .error e ∧ answer = .ok none ∧
              s''.records = s'.records.push (n.record file.url e) ∧
              (n.record file.url e).logger = Run.nameLogger ∧
              (n.record file.url e).level = e.level ∧
              ∀ compute : Unit → Except NameError String,
                ((n.cell (s''.cells file.url)).get compute).computed = true) := by
  simp only [Naming.run_action_new]
  obtain ⟨file', answers, s', hrun, hurl, hanswers, hfollows⟩ :=
    FileAction.runAll_follows actions (Session.follows_nil hnew)
  rw [List.nil_append] at hfollows
  obtain ⟨hlength, hanswered⟩ := List.forall₂_iff_zip.1 hanswers
  refine ⟨file', answers, s', hrun, hurl, hlength.symm, fun a answer n hmem => hanswered hmem n,
    hfollows.isFilled_iff hanswers, hfollows.records, fun a => ?_⟩
  have hkeeps := hfollows.keeps
  rw [← hurl] at hkeeps
  obtain ⟨file'', answer, s'', hrun', hurl', hstep⟩ := FileAction.run_step hkeeps a
  rw [hurl] at hkeeps hurl' hstep
  refine ⟨file'', answer, s'', hrun', hurl', fun n => hstep.cell_eq hkeeps, ?_, fun n hn =>
    ⟨hstep.answer_eq hn, ?_⟩⟩
  · intro hnone
    cases hstep with
    | other => rfl
    | given asks => cases hnone.symm.trans asks
    | vain asks => cases hnone.symm.trans asks
  · cases hstep with
    | other _ asks => cases asks.symm.trans hn
    | given asks derives records => exact .inl ⟨_, rfl, records⟩
    | @vain m e asks fails empty =>
      obtain rfl := Option.some.inj (asks.symm.trans hn)
      refine .inr ⟨e, fails, rfl, rfl, m.logger_record file.url e, Naming.level_record fails,
        fun compute => ?_⟩
      show ((m.cell (s'.cells file.url)).get compute).computed = true
      rw [empty, Memo.get]
      cases compute () <;> rfl

end

/-- The statement for a URL that has a file name and no path name, which are asked for through
the file and through planes. -/
theorem kept_names_transparent_pathless :
    letI : CurrentDirectory := .root
    let file : ImageFile := { url := "omero:iid=123" }
    let actions : List FileAction := [.planePathName 0 1, .attach (.value .null), .fileName,
      .detach, .planeFileName 2 0]
    ({} : Session).cells file.url = {} ∧
    ∃ file' answers s', (FileAction.runAll file actions).run {} = ((file', answers), s') ∧
      (s'.cells file.url).file.isFilled = true ∧
      ∃ file'' s'', ((FileAction.planePathName 3 0).run file').run s' =
          ((file'', .ok none), s'') ∧
        (s''.cells file.url).file = (s'.cells file.url).file ∧
        ∃ r, s''.records = s'.records.push r ∧ r.level = .warning := by
  let _ : CurrentDirectory := .root
  intro file actions
  have hnew : ({} : Session).cells file.url = {} := by simp [Session.cells]
  have hname : Naming.file.derive "omero:iid=123" = .ok "iid=123" := by decide +kernel
  have hfails : Naming.path.derive "omero:iid=123" = .error (.noAuthority "omero".toList) := by
    decide +kernel
  obtain ⟨file', answers, s', hrun, -, hlength, hanswers, hfilled, -, hnext⟩ :=
    kept_names_transparent hnew actions
  have hasked : FileAction.fileName ∈ (actions.zip answers).map Prod.fst := by
    rw [List.map_fst_zip (Nat.le_of_eq hlength.symm)]
    simp [actions]
  obtain ⟨⟨_, answer⟩, hmem, rfl⟩ := List.mem_map.1 hasked
  have hanswer := hanswers _ _ .file hmem rfl
  rw [Naming.run_action_new, hname] at hanswer
  subst hanswer
  have hkept := (hfilled .file).2 ⟨_, _, hmem, rfl⟩
  obtain ⟨file'', answer, s'', hrun', -, hcells, -, hrequest⟩ := hnext (.planePathName 3 0)
  refine ⟨hnew, file', answers, s', hrun, hkept, file'', s'', ?_, hcells .file hkept, ?_⟩
  · obtain ⟨hanswer, -⟩ := hrequest .path rfl
    rw [Naming.run_action_new, hfails] at hanswer
    rw [hrun', hanswer]
    rfl
  · obtain ⟨hanswer, ⟨name, hgiven, -⟩ | ⟨e, he, -, hrecords, -, hlevel, -⟩⟩ := hrequest .path rfl
    · rw [Naming.run_action_new, hfails, hgiven] at hanswer
      cases hanswer
    · obtain rfl := Except.error.inj (hfails.symm.trans he)
      exact ⟨_, hrecords, hlevel⟩

end ImageSelect
