import ImageSelect.Proofs.Logging.Setup

/-!
# What a run of logging calls writes

Logging can be set up any number of times, with records in between.  The last setup alone is in
force: it decides where records go, whatever handlers there were before.

* `Regime` is what a setup puts in force, and `accepted` the lines that a run of calls should
  leave behind, each with the regime that let it pass.
* `Writes` says that the lines of a list were written, each to its places and to no other.
* `Call.run_writes` is about one call, and `Call.runAll_writes` about a run of them.
-/

namespace ImageSelect.Logging

section

variable [CurrentDirectory]

/-! ## What is in force -/

/-- What a setup puts in force: a level, and the path of a file if one is named. -/
structure Regime where
  level : Level
  path? : Option String

namespace Regime

/-- The setup of a regime: a handler for the console, and one for the file if there is one, at the
level in force. -/
def setup (g : Regime) : Setup :=
  .withLevel g.level g.path?

/-- The file of a regime is the file with a path. -/
def goesTo (g : Regime) (path : String) : Bool :=
  g.path?.any (sameFile · path)

/-- The line of a record, if it reaches the level in force. -/
def passed (g : Regime) (time : String) (r : Record) : List (Regime × String) :=
  if g.level ≤ r.level then [(g, r.line time)] else []

end Regime

namespace Call

/-- The regime that a call asks for, if it is a setup with a level that is known. -/
def regime? : Call → Option Regime
  | .setup choice file => choice.level?.map fun level => ⟨level, logPath? file⟩
  | .log _ => none

/-- The record that a call logs.  A setup logs that it is complete. -/
def record : Call → Record
  | .setup choice _ => configured choice
  | .log r => r

/-- A call asks for a positive level, or logs to the library's logger or one below it. -/
def Fits : Call → Prop
  | .setup choice _ => ∀ level, choice.level? = some level → 0 < level
  | .log r => isOwn r.logger = true

end Call

/-- The regime that calls leave in force: the last one that they ask for, or the one of before. -/
def inForce (g : Regime) (calls : List (Moment × Call)) : Regime :=
  (calls.filterMap (·.2.regime?)).getLast?.getD g

theorem inForce_cons (g : Regime) (now : Moment) (call : Call) (calls : List (Moment × Call)) :
    inForce g ((now, call) :: calls) = inForce (call.regime?.getD g) calls := by
  rw [inForce, inForce, List.filterMap_cons]
  cases call.regime? with
  | none => rfl
  | some g' => rw [List.getLast?_cons, Option.getD_some, Option.getD_some]

/-- The lines that calls should leave behind, in order, each with the regime in force. -/
def accepted (g : Regime) : List (Moment × Call) → List (Regime × String)
  | [] => []
  | (now, call) :: calls =>
    let g := call.regime?.getD g
    g.passed now.time call.record ++ accepted g calls

/-! ## What is written -/

/-- The characters of lines. -/
def charsOf (lines : List (Regime × String)) : List Char :=
  lines.flatMap (·.2.toList)

/-- The output has grown by some lines: each is on the standard error stream, and in the file that
was in force, once. -/
structure Writes (lines : List (Regime × String)) (out out' : Output) : Prop where
  stdout : out'.stdout = out.stdout
  stderr : out'.stderr.toList = out.stderr.toList ++ charsOf lines
  bytes : ∀ path before, out'.bytesOf path before =
    out.bytesOf path before ++ Text.Utf8.encode (charsOf (lines.filter (·.1.goesTo path)))

namespace Writes

variable {lines lines' : List (Regime × String)} {out out' out'' : Output}

theorem nil (out : Output) : Writes [] out out where
  stdout := rfl
  stderr := (List.append_nil _).symm
  bytes := fun _ _ => (List.append_nil _).symm

theorem append (h : Writes lines out out') (h' : Writes lines' out' out'') :
    Writes (lines ++ lines') out out'' where
  stdout := h'.stdout.trans h.stdout
  stderr := by
    rw [h'.stderr, h.stderr, charsOf, charsOf, charsOf, List.flatMap_append, List.append_assoc]
  bytes := fun path before => by
    rw [h'.bytes, h.bytes, List.filter_append, List.append_assoc, ← Text.Utf8.encode_append,
      charsOf, charsOf, charsOf, List.flatMap_append]

end Writes

/-! ## One call -/

section
variable {g : Regime} {time : String} {out : Output} {r : Record}

omit [CurrentDirectory] in
/-- At a positive level, the records of the library that pass are those that reach it. -/
theorem Regime.lets_iff (hpositive : 0 < g.level) (hown : isOwn r.logger = true) :
    g.setup.lets r = true ↔ g.level ≤ r.level := by
  constructor
  · exact le_of_lets hown
  · intro hlevel
    have hthreshold : g.setup.threshold = g.level := by
      rw [Setup.threshold, if_neg]
      · rfl
      · exact Ne.symm (Int.ne_of_lt hpositive)
    rw [Setup.lets, if_pos hown, hthreshold, Bool.and_eq_true, decide_eq_true_eq,
      decide_eq_true_eq]
    exact ⟨Int.lt_of_lt_of_le hpositive hlevel, hlevel⟩

/-- A record below the level in force is written nowhere. -/
theorem Regime.log_of_lt (hpositive : 0 < g.level) (hown : isOwn r.logger = true)
    (hbelow : r.level < g.level) : g.setup.log time out r = out := by
  have hlets : ¬g.setup.lets r = true := mt (lets_iff hpositive hown).1 (Int.not_le.2 hbelow)
  rw [Setup.log, if_neg hlets]

/-- A record that reaches the level in force is written to the standard error stream, and to the
file in force if there is one. -/
theorem Regime.writes_log (hpositive : 0 < g.level) (hown : isOwn r.logger = true)
    (hlevel : g.level ≤ r.level) :
    Writes [(g, r.line time)] out (g.setup.log time out r) := by
  have hlets : g.setup.lets r = true := (lets_iff hpositive hown).2 hlevel
  refine ⟨Setup.stdout_log time out r g.setup, ?_, fun path before => ?_⟩
  · rw [charsOf, List.flatMap_singleton, ← String.toList_append, setup,
      stderr_log time out hown, ← setup, if_pos hlets]
  · have hadded :
        added time g.level g.path? path r = if g.goesTo path then r.line time else "" := by
      rw [added, ← setup, hlets, ← goesTo]
      simp only [true_and]
    rw [setup, bytesOf_log time out hown, hadded, List.filter_cons, List.filter_nil]
    cases g.goesTo path with
    | false => rfl
    | true => rw [if_pos rfl, if_pos rfl, charsOf, List.flatMap_singleton]

theorem Regime.writes_passed (hpositive : 0 < g.level) (hown : isOwn r.logger = true) :
    Writes (g.passed time r) out (g.setup.log time out r) := by
  rcases Int.lt_or_le r.level g.level with hbelow | hlevel
  · rw [passed, if_neg (Int.not_le.2 hbelow), log_of_lt hpositive hown hbelow]
    exact .nil out
  · rw [passed, if_pos hlevel]
    exact writes_log hpositive hown hlevel

/-! ## Calls -/

variable {now : Moment} {s : Setup}

/-- A setup that succeeds puts its regime in force, whatever was in force, and writes no more than
the record that it logs. -/
theorem Call.setup_writes {choice : LevelChoice} {file : Option String}
    (hfits : (Call.setup choice file).Fits)
    (hok : ((Call.setup choice file).run now s out).1 = .ok ()) :
    ∃ g out', (Call.setup choice file).regime? = some g ∧ 0 < g.level ∧
      (Call.setup choice file).run now s out = (.ok (), g.setup, out') ∧
      Writes (g.passed now.time (configured choice)) out out' := by
  obtain ⟨⟨level, hlevel⟩, hopen⟩ := known_of_configure_ok hok
  obtain ⟨made, hconfigure, hstdout, hstderr, hbytes⟩ :=
    configure_eq_ok hlevel hopen now.time s out now.above
  have hmade : Writes [] out made := by
    refine ⟨hstdout, ?_, fun path before => ?_⟩
    · rw [hstderr]
      exact (List.append_nil _).symm
    · rw [hbytes]
      exact (List.append_nil _).symm
  have hpositive : 0 < level := hfits level hlevel
  refine ⟨⟨level, logPath? file⟩, _, ?_, hpositive, hconfigure, ?_⟩
  · rw [regime?, hlevel]
    rfl
  · exact hmade.append (Regime.writes_passed hpositive rfl)

/-- A call that succeeds leaves the regime in force that it asks for, or the one of before, and
writes the record that it logs. -/
theorem Call.run_writes {call : Call} (hfits : call.Fits) (hpositive : 0 < g.level)
    (hok : (call.run now g.setup out).1 = .ok ()) :
    ∃ g' out', call.regime?.getD g = g' ∧ 0 < g'.level ∧
      call.run now g.setup out = (.ok (), g'.setup, out') ∧
      Writes (g'.passed now.time call.record) out out' := by
  cases call with
  | setup choice file =>
    obtain ⟨g', out', hregime, hpositive', hrun, hwrites⟩ := setup_writes hfits hok
    refine ⟨g', out', ?_, hpositive', hrun, hwrites⟩
    rw [hregime, Option.getD_some]
  | log r => exact ⟨g, _, rfl, hpositive, rfl, Regime.writes_passed hpositive hfits⟩

theorem Call.runAll_cons {call : Call} {calls : List (Moment × Call)} {s' : Setup} {out' : Output}
    (hrun : call.run now s out = (.ok (), s', out')) :
    runAll s out ((now, call) :: calls) =
      (.ok () :: (runAll s' out' calls).1, (runAll s' out' calls).2) := by
  rw [runAll, hrun]

/-- All calls of a run, one after the other. -/
theorem Call.runAll_writes (calls : List (Moment × Call)) :
    ∀ {g : Regime} {out : Output}, 0 < g.level → (∀ call ∈ calls, call.2.Fits) →
      (∀ answer ∈ (runAll g.setup out calls).1, answer = .ok ()) →
      ∃ out', (runAll g.setup out calls).2 = ((inForce g calls).setup, out') ∧
        0 < (inForce g calls).level ∧ Writes (accepted g calls) out out' := by
  induction calls with
  | nil =>
    intro g out hpositive _ _
    exact ⟨out, rfl, hpositive, .nil out⟩
  | cons head calls ih =>
    obtain ⟨now, call⟩ := head
    intro g out hpositive hfits hok
    obtain ⟨hfit, hfits⟩ := List.forall_mem_cons.1 hfits
    obtain ⟨g₁, out₁, hregime, hpositive₁, hrun, hwrites⟩ :=
      run_writes hfit hpositive (hok _ List.mem_cons_self)
    rw [runAll_cons hrun] at hok ⊢
    obtain ⟨out', hrunAll, hpositive', hwrites'⟩ :=
      ih hpositive₁ hfits (List.forall_mem_cons.1 hok).2
    rw [inForce_cons, hregime, accepted, hregime]
    exact ⟨out', hrunAll, hpositive', hwrites.append hwrites'⟩

end

/-- Setting up again replaces what was in force.  Take any setup of the library's logger, and
any calls that begin by setting up logging, all with positive levels, and all successful, with
records to the library's loggers in between.  The last setup is in force afterwards: the logger
has its level, and at that level one handler for the console and one for the file, if the setup
has named one.  A further record is written nowhere if it is below the level; otherwise it is
written once to the standard error stream, once to the file in force, and to no other file.  So the
standard error stream has got the lines of the records that were accepted, in order, and each file
those that were accepted while it was in force. -/
theorem records_routed (s : Setup) (out : Output) (now : Moment) (choice : LevelChoice)
    (file : Option String) (calls : List (Moment × Call))
    (hfits : ∀ call ∈ (now, Call.setup choice file) :: calls, call.2.Fits)
    (hok : ∀ answer ∈ (Call.runAll s out ((now, .setup choice file) :: calls)).1,
      answer = .ok ()) :
    ∃ first last s' out',
      (Call.setup choice file).regime? = some first ∧ inForce first calls = last ∧
      (Call.runAll s out ((now, .setup choice file) :: calls)).2 = (s', out') ∧
      s'.level = last.level ∧
      s'.handlers = ⟨.console, last.level⟩ ::
        (last.path?.map fun path => ⟨.file path, last.level⟩).toList ∧
      (∀ time r, isOwn r.logger = true →
        (r.level < last.level → s'.log time out' r = out') ∧
        (last.level ≤ r.level →
          Writes [(last, r.line time)] out' (s'.log time out' r))) ∧
      Writes (accepted first ((now, .setup choice file) :: calls)) out out' := by
  obtain ⟨hfit, hfits⟩ := List.forall_mem_cons.1 hfits
  obtain ⟨first, out₁, hregime, hpositive, hrun, hwrites⟩ :=
    Call.setup_writes hfit (hok _ List.mem_cons_self)
  rw [Call.runAll_cons hrun] at hok ⊢
  obtain ⟨out', hrunAll, hpositive', hwrites'⟩ :=
    Call.runAll_writes calls hpositive hfits (List.forall_mem_cons.1 hok).2
  refine ⟨first, _, _, out', hregime, rfl, hrunAll, rfl, rfl, fun time r hown =>
    ⟨Regime.log_of_lt hpositive' hown, Regime.writes_log hpositive' hown⟩, ?_⟩
  rw [accepted, hregime, Option.getD_some]
  exact hwrites.append hwrites'

end

/-- Two setups with different files, and records behind each of them. -/
theorem records_routed_two_files :
    letI : CurrentDirectory := .root
    let now : Moment := ⟨"now", fun _ => none, true⟩
    let calls : List (Moment × Call) :=
      [(now, .log ⟨20, "imageset.core", "one"⟩), (now, .setup (.number 30) (some "/b.log")),
        (now, .log ⟨20, "imageset", "two"⟩), (now, .log ⟨40, "imageset.filter", "three"⟩)]
    ∃ s' out',
      (Call.runAll {} {} ((now, .setup (.named "INFO") (some "/a.log")) :: calls)).2 =
        (s', out') ∧
      s'.handlers = [⟨.console, 30⟩, ⟨.file "/b.log", 30⟩] ∧
      out'.bytesOf "/a.log" [] =
        Text.Utf8.encode "now - imageset.core - INFO - one\n".toList ∧
      out'.bytesOf "/b.log" [] =
        Text.Utf8.encode "now - imageset.filter - ERROR - three\n".toList := by
  let _ : CurrentDirectory := .root
  intro now calls
  have hfits : ∀ call ∈ (now, Call.setup (.named "INFO") (some "/a.log")) :: calls,
      call.2.Fits := by
    have hinfo : (Call.setup (.named "INFO") (some "/a.log")).Fits := by
      intro level hlevel
      obtain rfl := Option.some.inj hlevel
      decide
    have hwarning : (Call.setup (.number 30) (some "/b.log")).Fits := by
      intro level hlevel
      obtain rfl := Option.some.inj hlevel
      decide
    simp only [calls, List.forall_mem_cons]
    exact ⟨hinfo, rfl, hwarning, rfl, rfl, by simp⟩
  have hok : ∀ answer ∈ (Call.runAll {} {} ((now, .setup (.named "INFO") (some "/a.log")) ::
      calls)).1, answer = .ok () := by
    have hanswers : (Call.runAll {} {} ((now, .setup (.named "INFO") (some "/a.log")) ::
        calls)).1 = [.ok (), .ok (), .ok (), .ok (), .ok ()] := rfl
    rw [hanswers]
    simp
  obtain ⟨first, last, s', out', hfirst, hlast, hrun, -, hhandlers, -, hwrites⟩ :=
    records_routed {} {} now (.named "INFO") (some "/a.log") calls hfits hok
  obtain rfl : ⟨20, some "/a.log"⟩ = first := Option.some.inj hfirst
  obtain rfl : ⟨30, some "/b.log"⟩ = last := hlast
  refine ⟨s', out', hrun, hhandlers, ?_, ?_⟩
  · rw [hwrites.bytes, Output.bytesOf_empty, List.nil_append]
    exact congrArg Text.Utf8.encode (by decide +kernel)
  · rw [hwrites.bytes, Output.bytesOf_empty, List.nil_append]
    exact congrArg Text.Utf8.encode (by decide +kernel)

end ImageSelect.Logging
