import ImageSelect.Location.Document
import ImageSelect.Proofs.History
import ImageSelect.Proofs.Location.Access
import ImageSelect.Proofs.Selection.FilterMap
import ImageSelect.Proofs.Text.Split

/-!
# What files carry

A file carries no document, or an element whose name ends in `OME` behind its namespace.  The
document comes and goes without a trace: neither the names of the file nor the verdicts of filters
on it depend on it.

* `isDocumentRoot_iff` says which elements are documents.
* `FileAction.Settles` says what one action does with the document of a file, and
  `FileAction.run_settles` that there is nothing else.
* `Attached` is the document that a run should leave, and `Carries.runAll` says that it does.
-/

namespace ImageSelect

/-! ## Roots of documents -/

/-- What stands behind the last closing brace of an element's name, or all of it if there is none,
is `OME`. -/
def IsDocument (e : Xml.Element) : Prop :=
  e.name = "OME" ∨ ∃ front : String, e.name = front ++ "\x7dOME"

/-- A name has a part that ends in a closing brace, or none, and behind it its local name, which
has no closing brace. -/
theorem localName_split (name : String) :
    '\x7d' ∉ (localName name).toList ∧
      (name = localName name ∨ ∃ front : String, name = front ++ ("\x7d" ++ localName name)) := by
  have hlocal : (localName name).toList = (Text.cutLast '\x7d' name.toList).2 := by
    rw [localName, String.toList_ofList]
  refine ⟨hlocal ▸ Text.not_mem_cutLast _ _, ?_⟩
  by_cases hmem : '\x7d' ∈ name.toList
  · refine .inr ⟨String.ofList ((Text.cutLast '\x7d' name.toList).1.getD []), ?_⟩
    apply String.ext
    rw [String.toList_append, String.toList_append, String.toList_ofList, hlocal]
    exact (Text.cutLast_join hmem).symm
  · refine .inl (String.ext ?_)
    rw [hlocal, Text.cutLast_of_not_mem hmem]

theorem isDocumentRoot_iff {e : Xml.Element} : isDocumentRoot e = true ↔ IsDocument e := by
  rw [isDocumentRoot, decide_eq_true_eq, documentRoot]
  constructor
  · intro hlocal
    obtain ⟨-, hname | ⟨front, hname⟩⟩ := localName_split e.name
    · exact .inl (hname.trans hlocal)
    · rw [hlocal] at hname
      exact .inr ⟨front, hname⟩
  · rintro (hname | ⟨front, hname⟩)
    · rw [hname]
      decide
    · have hchars : e.name.toList = front.toList ++ '\x7d' :: "OME".toList := by
        rw [hname, String.toList_append]
        rfl
      rw [localName, hchars, Text.cutLast_append (by decide)]
      rfl

/-! ## One action -/

namespace FileAction

/-- The element that an action offers as a document, if it offers one that can be read. -/
def offered? : FileAction → Option Xml.Element
  | .attach (.element e) => some e
  | .attachDocument input => input.read.toOption
  | _ => none

/-- An action tries to attach something. -/
def Attaches : FileAction → Prop
  | .attach _ | .attachDocument _ => True
  | _ => False

/-- What an action does with a file: it attaches a document, is refused, takes the document off, or
asks for a name. -/
inductive Settles (file : ImageFile) : FileAction → ImageFile → FileAnswer → Prop
  | attached {a : FileAction} {e : Xml.Element} (attaches : a.Attaches)
      (offers : a.offered? = some e) (root : IsDocument e) :
      Settles file a { file with document := some e } (.ok none)
  | refused {a : FileAction} (why : AttachmentError) (attaches : a.Attaches)
      (none_fits : ∀ e, a.offered? = some e → ¬IsDocument e) : Settles file a file (.error why)
  | detached : Settles file .detach { file with document := none } (.ok none)
  | named {a : FileAction} {n : Naming} (name? : Option String) (asks : a.naming? = some n) :
      Settles file a file (.ok name?)

variable {file file' : ImageFile} {a : FileAction} {answer : FileAnswer}

theorem settles_element (file : ImageFile) {e : Xml.Element} (hattaches : a.Attaches)
    (hoffers : a.offered? = some e) :
    Settles file a (settle file (file.attach (.element e))).1
      (settle file (file.attach (.element e))).2 := by
  rw [ImageFile.attach]
  by_cases hroot : isDocumentRoot e = true
  · rw [if_pos hroot]
    exact .attached hattaches hoffers (isDocumentRoot_iff.1 hroot)
  · rw [if_neg hroot]
    refine .refused _ hattaches fun e' he' => ?_
    obtain rfl := Option.some.inj (hoffers.symm.trans he')
    exact mt isDocumentRoot_iff.2 hroot

section

variable [CurrentDirectory]

/-- Only requests for names make use of the session. -/
theorem settles_of_naming?_eq_none (h : a.naming? = none) (file : ImageFile) :
    ∃ file' answer, (∀ s, (a.run file).run s = ((file', answer), s)) ∧
      Settles file a file' answer := by
  cases a with
  | attach offer =>
    cases offer with
    | value v => exact ⟨_, _, fun _ => rfl, .refused _ trivial fun e he => by cases he⟩
    | element e => exact ⟨_, _, fun _ => rfl, settles_element file trivial rfl⟩
  | attachDocument input =>
    refine ⟨_, _, fun _ => rfl, ?_⟩
    rw [ImageFile.attachDocument]
    cases hread : input.read with
    | error why =>
      refine .refused _ trivial fun e he => ?_
      rw [offered?, hread] at he
      cases he
    | ok e =>
      refine settles_element file trivial ?_
      rw [offered?, hread]
      rfl
  | detach => exact ⟨_, _, fun _ => rfl, .detached⟩
  | _ => cases h

theorem run_settles (a : FileAction) (file : ImageFile) {s : Session} (hs : s.Sound) :
    ∃ file' answer s', (a.run file).run s = ((file', answer), s') ∧ s'.Sound ∧
      (a.naming? = none → s' = s) ∧ Settles file a file' answer := by
  cases hnaming : a.naming? with
  | none =>
    obtain ⟨file', answer, hrun, hsettles⟩ := settles_of_naming?_eq_none hnaming file
    exact ⟨file', answer, s, hrun s, hs, fun _ => rfl, hsettles⟩
  | some n =>
    have hgives : Gives (a.run file) (file, .ok (n.derive file.url).toOption) := by
      rw [run_of_naming hnaming]
      exact (n.gives_request file.url).bind (.pure _)
    obtain ⟨s', hrun, hs'⟩ := hgives s hs
    refine ⟨file, _, s', hrun, hs', fun hnone => ?_, .named _ hnaming⟩
    cases hnone

end

theorem Attaches.naming? (h : a.Attaches) : a.naming? = none := by
  cases a with
  | attach | attachDocument => rfl
  | _ => exact h.elim

theorem offered?_of_naming {n : Naming} (h : a.naming? = some n) : a.offered? = none := by
  cases a with
  | attach | attachDocument | detach => cases h
  | _ => rfl

theorem Settles.url_eq (h : Settles file a file' answer) : file'.url = file.url := by
  cases h <;> rfl

/-- What is refused leaves the file as it is. -/
theorem Settles.of_error {why : AttachmentError} (h : Settles file a file' (.error why)) :
    file' = file := by
  cases h
  rfl

/-- An attempt to attach something is refused exactly if it offers no document. -/
theorem Settles.exists_error_iff (h : Settles file a file' answer) :
    (∃ why, answer = .error why) ↔ a.Attaches ∧ ∀ e, a.offered? = some e → ¬IsDocument e := by
  cases h with
  | attached attaches offers root =>
    exact iff_of_false (by simp) fun hnone => hnone.2 _ offers root
  | refused why attaches none_fits => exact iff_of_true ⟨why, rfl⟩ ⟨attaches, none_fits⟩
  | detached => exact iff_of_false (by simp) fun hnone => hnone.1
  | named name? asks =>
    refine iff_of_false (by simp) fun hnone => ?_
    cases hnone.1.naming?.symm.trans asks

end FileAction

/-! ## Runs -/

/-- An element is the root of the last successful attachment in a history, and the document was
not taken off since. -/
def Attached (history : List (FileAction × FileAnswer)) (e : Xml.Element) : Prop :=
  HasLast history (fun x => x.1.offered? = some e ∧ x.2 = .ok none) fun x =>
    x.1 ≠ .detach ∧ ∀ e', x.1.offered? = some e' → ∃ why, x.2 = .error why

/-- A file carries what its history has left, and it is a document. -/
structure Carries (history : List (FileAction × FileAnswer)) (file : ImageFile) : Prop where
  document_iff : ∀ e, file.document = some e ↔ Attached history e
  isDocument : ∀ e, file.document = some e → IsDocument e

section
variable {history : List (FileAction × FileAnswer)} {file file' : ImageFile} {a : FileAction}
  {answer : FileAnswer}

theorem carries_new (url : String) : Carries [] { url } where
  document_iff := fun _ => iff_of_false (by simp) HasLast.not_nil
  isDocument := fun _ h => by cases h

/-- One more action. -/
theorem Carries.step (h : Carries history file) (hstep : FileAction.Settles file a file' answer) :
    Carries (history ++ [(a, answer)]) file' := by
  refine ⟨fun e => ?document, fun e he => ?root⟩
  case document =>
    rw [Attached, HasLast.concat_iff, ← Attached, ← h.document_iff]
    cases hstep with
    | attached attaches offers root => simp [offers]
    | refused why attaches none_fits =>
      have hkept : a ≠ .detach := by
        rintro rfl
        exact attaches
      simp [hkept]
    | detached => simp [FileAction.offered?]
    | named name? asks =>
      have hkept : a ≠ .detach := by
        rintro rfl
        cases asks
      simp [hkept, FileAction.offered?_of_naming asks]
  case root =>
    cases hstep with
    | attached attaches offers root =>
      obtain rfl := Option.some.inj he
      exact root
    | refused | named => exact h.isDocument e he
    | detached => cases he

/-- All actions of a run, one after the other. -/
theorem Carries.runAll [CurrentDirectory] (actions : List FileAction) :
    ∀ {history : List (FileAction × FileAnswer)} {file : ImageFile} {s : Session},
      Carries history file → s.Sound →
      ∃ file' answers s', (FileAction.runAll file actions).run s = ((file', answers), s') ∧
        answers.length = actions.length ∧ file'.url = file.url ∧ s'.Sound ∧
        Carries (history ++ actions.zip answers) file' := by
  induction actions with
  | nil =>
    intro history file s h hs
    refine ⟨file, [], s, rfl, rfl, rfl, hs, ?_⟩
    rwa [List.zip_nil_left, List.append_nil]
  | cons a actions ih =>
    intro history file s h hs
    obtain ⟨file₁, answer, s₁, hrun₁, hs₁, -, hstep⟩ := a.run_settles file hs
    obtain ⟨file', answers, s', hrun, hlength, hurl, hs', h'⟩ := ih (h.step hstep) hs₁
    rw [List.append_assoc] at h'
    refine ⟨file', answer :: answers, s', ?_, congrArg Nat.succ hlength,
      hurl.trans hstep.url_eq, hs', h'⟩
    rw [FileAction.runAll, StateT.run_bind, hrun₁]
    show (do return (← FileAction.runAll file₁ actions).map id (answer :: ·) : Run _).run s₁ = _
    rw [StateT.run_bind, hrun]
    rfl

end

/-! ## Documents -/

/-- The document of a file is well guarded.  Take a new file, any sound session, and any run of
requests for names, of attempts to attach elements, other values or what is read from any input,
and of taking the document off.  Afterwards the file carries no document, or an element whose name
behind the last closing brace is `OME`; this is the root of the last successful attachment since
the document was last taken off.  Whatever is done next: an attempt is refused exactly if it offers
no such element, and what is refused leaves the file as it is, and the session too.  The URL of the
file is what it was, both names are those of a new file with the URL, and every filter that can be
asked about files says what it says of such a file in a new session. -/
theorem document_guarded [CurrentDirectory] (url : String) (actions : List FileAction)
    {s : Session} (hs : s.Sound) :
    ∃ file answers s', (FileAction.runAll { url } actions).run s = ((file, answers), s') ∧
      answers.length = actions.length ∧
      (∀ e, file.document = some e → IsDocument e) ∧
      (∀ e, file.document = some e ↔ Attached (actions.zip answers) e) ∧
      (∀ a : FileAction, ∃ file' answer s'', (a.run file).run s' = ((file', answer), s'') ∧
        ((∃ why, answer = .error why) ↔
          a.Attaches ∧ ∀ e, a.offered? = some e → ¬IsDocument e) ∧
        ∀ why, answer = .error why → file' = file ∧ s'' = s') ∧
      file.url = url ∧
      (∀ n : Naming,
        ((n.action.run file).run s').1.2 = ((n.action.run { url := url }).run {}).1.2) ∧
      ∀ f : Filter, f.tree.WellFormed → f.tree.shape.accepts (some .file) = true →
        ∃ passes, ((f.ask (.file file)).run.run s').1 = .ok passes ∧
          ((f.ask (.file { url := url })).run.run {}).1 = .ok passes := by
  obtain ⟨file, answers, s', hrun, hlength, hurl, hs', h⟩ :=
    Carries.runAll actions (carries_new url) hs
  rw [List.nil_append] at h
  refine ⟨file, answers, s', hrun, hlength, h.isDocument, h.document_iff, fun a => ?next, hurl,
    fun n => ?names, fun f hwf haccepts => ?verdicts⟩
  case next =>
    obtain ⟨file', answer, s'', hrun', -, hquiet, hstep⟩ := a.run_settles file hs'
    refine ⟨file', answer, s'', hrun', hstep.exists_error_iff, fun why hwhy => ?_⟩
    subst hwhy
    have hattaches := (hstep.exists_error_iff.1 ⟨why, rfl⟩).1
    exact ⟨hstep.of_error, hquiet hattaches.naming?⟩
  case names =>
    have hgives : ∀ file : ImageFile,
        Gives (n.action.run file) (file, .ok (n.derive file.url).toOption) := by
      intro file
      have hnaming : n.action.naming? = some n := by cases n <;> rfl
      rw [FileAction.run_of_naming hnaming]
      exact (n.gives_request file.url).bind (.pure _)
    rw [(hgives file).result_eq hs', (hgives _).result_eq Session.sound_empty, hurl]
  case verdicts =>
    obtain ⟨passes, hpasses⟩ := hwf.exists_verdict_url haccepts url
    exact ⟨passes,
      ((f.tree.answers (.file file)).result_eq hs').trans (hpasses (.file file) hurl),
      ((f.tree.answers (.file { url := url })).result_eq Session.sound_empty).trans
        (hpasses (.file _) rfl)⟩

/-- A root in a namespace stays attached when a value that is no element is offered, and when half
a tag is. -/
theorem document_guarded_namespace :
    letI : CurrentDirectory := .root
    ({} : Session).Sound ∧
      ∃ file s', (FileAction.runAll { url := "file:///data/a.tif" }
          [.attach (.element ⟨"\x7burn:a\x7dOME", [], []⟩), .attach (.value .null)]).run {} =
            ((file, [.ok none, .error (.notElement .null)]), s') ∧
        file.document = some ⟨"\x7burn:a\x7dOME", [], []⟩ ∧
        ∃ why s'', ((FileAction.attachDocument (.text ['<'] false)).run file).run s' =
          ((file, .error why), s'') := by
  let _ : CurrentDirectory := .root
  refine ⟨Session.sound_empty, ?_⟩
  obtain ⟨file, answers, s', hrun, -, -, hdocument, hnext, -⟩ :=
    document_guarded "file:///data/a.tif"
      [.attach (.element ⟨"\x7burn:a\x7dOME", [], []⟩), .attach (.value .null)]
      Session.sound_empty
  obtain rfl : [.ok none, .error (.notElement .null)] = answers :=
    congrArg (fun result => result.1.2) hrun
  obtain ⟨file', answer, s'', hrun', hrefused, hkept⟩ :=
    hnext (.attachDocument (.text ['<'] false))
  have hhalf : (Xml.Input.text ['<'] false).read.toOption = none :=
    Option.isNone_iff_eq_none.1 (by decide +kernel)
  have hoffered : (FileAction.attachDocument (.text ['<'] false)).offered? = none := hhalf
  obtain ⟨why, rfl⟩ := hrefused.2 ⟨trivial, fun e he => by rw [hoffered] at he; cases he⟩
  obtain ⟨rfl, -⟩ := hkept why rfl
  refine ⟨file', s', hrun, (hdocument _).2 ?_, why, s'', hrun'⟩
  exact ⟨[], _, _, rfl, ⟨rfl, rfl⟩, by simp [FileAction.offered?]⟩

end ImageSelect
