import ImageSelect.Proofs.CommandLine.Inputs
import ImageSelect.Proofs.CommandLine.Refusal
import ImageSelect.Proofs.Logging.Setup
import ImageSelect.Proofs.Selection.Default

/-!
# The program is made of its parts

With valid arguments and files that can be used, a run ends well, and what it writes is the
table of the candidates of which the expression is true.

* `Started`, `configure_started`: logging is set up, and nothing else is written.
* `allInputs_eq`: the inputs are read.
* `Writes`, `writeTable_writes`, `selectAndWrite_writes`: the table is written.
* `run_writes_selected`: the stages together.
-/

namespace ImageSelect.CommandLine

variable {s : Settings} {around : Surroundings} {text : List Char} {t : Filter.Tree}

/-! ## Settings -/

/-- Counts that were checked are positive. -/
theorem one_le_of_check (h : s.check around = .ok ()) : 1 ≤ s.seriesCount ∧ 1 ≤ s.frameCount := by
  unfold Settings.check at h
  by_cases hseries : s.seriesCount < 1
  · simp [hseries, throw, throwThe, MonadExceptOf.throw, bind, Except.bind] at h
  · by_cases hframes : s.frameCount < 1
    · simp [hseries, hframes, throw, throwThe, MonadExceptOf.throw, bind, Except.bind] at h
    · omega

section
variable [CurrentDirectory]

/-- The files that settings name can be used: the list holds a text, and the log and the
output can be opened. -/
structure Settings.CanUse (s : Settings) (around : Surroundings) (text : List Char) : Prop where
  list : ∀ path, s.urlList? = some path →
    around.fileBytes? path = some (Text.Utf8.encode text)
  log : ∀ path, Logging.logPath? s.logFile? = some path → around.openError? path = none
  output : s.output ≠ "" → around.openError? s.output = none

/-- The level of the log. -/
def Settings.level (s : Settings) : Logging.Level :=
  Settings.run.levelOf s.logLevel

/-- The setup of the log. -/
def Settings.setup (s : Settings) : Logging.Setup :=
  .withLevel s.level (Logging.logPath? s.logFile?)

/-- What a record adds to the file with a path. -/
def Settings.logged (s : Settings) (time path : String) (r : Logging.Record) : String :=
  Logging.added time s.level (Logging.logPath? s.logFile?) path r

/-- The record that the log is set up. -/
def Settings.startRecord (s : Settings) : Logging.Record :=
  Logging.configured (.number s.level)

/-! ## Setting up and reading -/

/-- What has been written when the log is set up: the record of it, in the file of the log. -/
structure Settings.Started (s : Settings) (time : String) (out : Output) : Prop where
  stdout : out.stdout = ""
  bytes : ∀ path before, out.bytesOf path before =
    before ++ Text.Utf8.encode (s.logged time path s.startRecord).toList

theorem configure_started (h : s.CanUse around text) :
    ∃ out : Output,
      Logging.configure around.openError? around.time {} {}
          (.number (Settings.run.levelOf s.logLevel)) s.logFile? = (.ok (), s.setup, out) ∧
      s.Started around.time out := by
  have hlevel : (Logging.LevelChoice.number s.level).level? = some s.level := rfl
  obtain ⟨out, hconfigure, hstdout, -, hbytes⟩ :=
    Logging.configure_eq_ok hlevel h.log around.time {} {} false
  refine ⟨_, hconfigure, ?_, fun path before => ?_⟩
  · rw [Logging.Setup.stdout_log, hstdout]
  · have hown : Logging.isOwn s.startRecord.logger = true := rfl
    show ((Logging.Setup.withLevel s.level _).log around.time out s.startRecord).bytesOf _ _ = _
    rw [Logging.bytesOf_log around.time out hown, hbytes]
    rfl

/-- The inputs of the arguments, and those that a list with some text names, if there is a
list.  The log may go to the file of the list and add a line to it. -/
def Settings.inputsWith (s : Settings) (time : String) (text : List Char) : List String :=
  match s.urlList? with
  | none => s.inputs
  | some path => s.inputs ++ namedIn (text ++ (s.logged time path s.startRecord).toList)

theorem allInputs_eq (h : s.CanUse around text) {out : Output}
    (hout : s.Started around.time out) :
    s.allInputs around out = .ok (s.inputsWith around.time text) := by
  unfold Settings.allInputs Settings.listBytes? Settings.inputsWith
  cases hlist : s.urlList? with
  | none => rfl
  | some path =>
    have hbytes := h.list path hlist
    dsimp only [bind, Option.bind, pure]
    rw [hbytes]
    dsimp only
    rw [hout.bytes, ← Text.Utf8.encode_append, readList, Text.Utf8.decodeFile_encode]
    simp only [Except.map, listed_eq]

/-! ## Writing -/

/-- The text of a table. -/
def tableText (records : List (List String)) : String :=
  String.ofList (records.flatMap fun texts => Tsv.record (texts.map String.toList))

/-- The table of rows has the fields of the candidates. -/
theorem table_eq {chosen : List Value} (hall : ∀ v ∈ chosen, v.isA s.candidateType = true)
    (hshow : ∀ v ∈ chosen, v.Showable) :
    Tsv.table (Extractor.columnsOf s.candidateType)
        (chosen.map (Extractor.forType s.candidateType .shared).rowOf) =
      tableText (Extractor.columnsOf s.candidateType :: chosen.map Extractor.fieldsOf) := by
  have hvalues := List.map_congr_left fun v hv =>
    Extractor.values_rowOf (candidateType_cases s) (hall v hv) (hshow v hv) .shared
  rw [Tsv.table, List.map_map]
  exact congrArg (fun records => tableText (Extractor.columnsOf s.candidateType :: records))
    hvalues

/-- What has been written in the end: a table on the standard output or, if there is an output
file, in this file and nothing on the standard output.  What the file held before is gone.
Where the log goes to the same file, the record that the table is written follows it. -/
structure Settings.Writes (s : Settings) (time table : String) (rows : Nat) (out : Output) :
    Prop where
  printed : s.output = "" → out.stdout = table
  silent : s.output ≠ "" → out.stdout = ""
  written : s.output ≠ "" → ∀ before, out.bytesOf s.output before = Text.Utf8.encode
    (table ++ s.logged time s.output (writtenRecord rows s.output)).toList

theorem writeTable_writes (h : s.CanUse around text) {out : Output} (hout : out.stdout = "")
    (selection : Selection) :
    ∃ out' : Output,
      writeTable s around s.setup out selection = ⟨.exit 0, out'⟩ ∧
      s.Writes around.time (Tsv.table selection.keys selection.rows) selection.selected out' := by
  unfold writeTable
  by_cases houtput : s.output = ""
  · rw [if_pos houtput]
    refine ⟨_, rfl, fun _ => ?_, fun hne => absurd houtput hne, fun hne => absurd houtput hne⟩
    show out.stdout ++ _ = _
    rw [hout, String.empty_append]
  · rw [if_neg houtput, h.output houtput]
    refine ⟨_, rfl, fun heq => absurd heq houtput, fun _ => ?_, fun _ before => ?_⟩
    · rw [Logging.Setup.stdout_log, Output.stdout_replace, hout]
    · have hown : Logging.isOwn (writtenRecord selection.selected s.output).logger = true := rfl
      rw [Settings.setup, Logging.bytesOf_log _ _ hown, Output.bytesOf_replace,
        if_pos (sameFile_self s.output), ← Text.Utf8.encode_append, ← String.toList_append]
      rfl

/-- Selecting and writing come to the table of the candidates of which the expression is
true. -/
theorem selectAndWrite_writes (hcounts : s.CountsWritable)
    (hcompile : Filter.compileText none s.candidateType s.expression = .ok t)
    (h : s.CanUse around text) {out : Output} (hout : s.Started around.time out) :
    let chosen := (s.candidates (s.inputsWith around.time text)).filter t.passes
    ∃ out' : Output,
      selectAndWrite s around s.setup out = ⟨.exit 0, out'⟩ ∧
      s.Writes around.time
        (tableText (Extractor.columnsOf s.candidateType :: chosen.map Extractor.fieldsOf))
        chosen.length out' := by
  intro chosen
  have hall : ∀ v ∈ s.candidates (s.inputsWith around.time text),
      v.isA s.candidateType = true := fun _ => isA_of_mem_candidates
  have hshow : ∀ v ∈ s.candidates (s.inputsWith around.time text), v.Showable :=
    fun _ => showable_of_mem_candidates hcounts
  obtain ⟨session, hselect, -⟩ := answers_select_forType hcompile (candidateType_cases s) .shared
    hall hshow {} Session.sound_empty
  have hlogged := Logging.Setup.stdout_logAll around.time out s.setup session.records.toList
  have hwrite := writeTable_writes h (hlogged.trans hout.stdout)
    ⟨Extractor.columnsOf s.candidateType,
      chosen.map (Extractor.forType s.candidateType .shared).rowOf,
      (s.candidates (s.inputsWith around.time text)).length⟩
  have hchosen : ∀ v ∈ chosen, v.isA s.candidateType = true :=
    fun v hv => hall v (List.mem_of_mem_filter hv)
  have hwritable : ∀ v ∈ chosen, v.Showable := fun v hv => hshow v (List.mem_of_mem_filter hv)
  rw [Selection.selected, table_eq hchosen hwritable, List.length_map] at hwrite
  have hrun : (select s.expression (s.candidates (s.inputsWith around.time text))
      (some (.forType s.candidateType .shared)) s.candidateType).run {} = _ := hselect
  unfold selectAndWrite
  rw [allInputs_eq h hout]
  dsimp only
  rw [hrun]
  exact hwrite

/-! ## Runs -/

/-- With valid arguments and files that can be used, a run ends with status 0, whatever directory it
runs in, and what it writes is a table: the columns for the type of the candidates, and one record
for each candidate of which the expression is true.  The candidates are those of the inputs in
order: the inputs of the arguments, then those that the list names.  An input stands for its file,
or for the planes of it in lexicographic order.  The expression has an answer about each candidate,
and all of them are counted. -/
theorem run_writes_selected {arguments : List String}
    (hs : Settings.ofArguments arguments = .ok s) (hcheck : s.check around = .ok ())
    (hcompile : Filter.compileText none s.candidateType s.expression = .ok t)
    (hfiles : s.CanUse around text) :
    ∃ pairs, Enumerates pairs s.seriesCount s.frameCount ∧
      let f : Filter := ⟨s.expression, s.candidateType, t⟩
      let inputs := s.inputsWith around.time text
      let candidates := inputs.flatMap fun input =>
        if s.filesOnly then [.file (fileNamed input)]
        else pairs.map fun k => .plane ⟨fileNamed input, k.1, k.2⟩
      let chosen := candidates.filter t.passes
      let table :=
        tableText (Extractor.columnsOf s.candidateType :: chosen.map Extractor.fieldsOf)
      (∃ out : Output, run arguments around = ⟨.exit 0, out⟩ ∧
        s.Writes around.time table chosen.length out) ∧
      (∀ c ∈ candidates, Answers (f.ask c) (.ok (t.passes c))) ∧
      ∃ selection : Selection,
        Answers (select s.expression candidates (some (.forType s.candidateType .shared))
          s.candidateType) (.ok selection) ∧
        selection.selected = chosen.length ∧
        (selection.seen : Int) =
          inputs.length * if s.filesOnly then 1 else s.seriesCount * s.frameCount := by
  refine ⟨_, enumerates_product s.seriesCount s.frameCount, ?_⟩
  intro f inputs candidates
  have hcandidates : candidates = s.candidates inputs := (candidates_eq s inputs).symm
  clear_value candidates
  subst hcandidates
  intro chosen table
  have hcounts := Settings.countsWritable_ofArguments hs
  have hall : ∀ v ∈ s.candidates inputs, v.isA s.candidateType = true :=
    fun _ => isA_of_mem_candidates
  have hshow : ∀ v ∈ s.candidates inputs, v.Showable :=
    fun _ => showable_of_mem_candidates hcounts
  refine ⟨?written, ?answered, ?counted⟩
  case written =>
    obtain ⟨out, hconfigure, hstarted⟩ := configure_started hfiles
    obtain ⟨out', hrun, hwrites⟩ := selectAndWrite_writes hcounts hcompile hfiles hstarted
    refine ⟨out', ?_, hwrites⟩
    rw [run_of_check hs hcheck, Settings.run, hcompile]
    dsimp only
    rw [hconfigure]
    exact hrun
  case answered =>
    intro c hc
    have hverdict := Filter.verdict_forType_cases hcompile (candidateType_cases s) (hall c hc)
    exact hverdict.resolve_right (fun hnot => hnot.1 (hshow c hc)) ▸ t.answers c
  case counted =>
    refine ⟨_, answers_select_forType hcompile (candidateType_cases s) .shared hall hshow,
      List.length_map _, ?_⟩
    obtain ⟨hseries, hframes⟩ := one_le_of_check hcheck
    show ((s.candidates inputs).length : Int) = _
    rw [length_candidates]
    cases s.filesOnly with
    | true => simp
    | false =>
      have hseries' : (s.seriesCount.toNat : Int) = s.seriesCount := by omega
      have hframes' : (s.frameCount.toNat : Int) = s.frameCount := by omega
      simp [hseries', hframes']

end

/-- A run in a directory, which selects the second series of a path with a blank and of a URL from
a list, and writes to a file. -/
theorem run_writes_selected_list :
    letI : CurrentDirectory := ⟨"/tmp"⟩
    let list := "# more\n s3://b/x%20y.tif\t\r\n\n".toList
    let around : Surroundings :=
      ⟨"now", fun path => if path = "list" then some (Text.Utf8.encode list) else none,
        fun _ => none⟩
    ∃ out : Output,
      run ["series eq \"1\"", "a b.tif", "--series-count", "2", "--url-list", "list",
        "--output", "out"] around = ⟨.exit 0, out⟩ ∧
      out.stdout = "" ∧
      ∀ before, out.bytesOf "out" before = Text.Utf8.encode
        ("FileLocation\tSeries\tFrame\tFileName\tPathName\n" ++
          "file:///tmp/a%20b.tif\t1\t0\ta b.tif\t/tmp\n" ++
          "s3://b/x%20y.tif\t1\t0\tx y.tif\ts3://b\n").toList := by
  let _ : CurrentDirectory := ⟨"/tmp"⟩
  intro list around
  let s : Settings := { expression := "series eq \"1\"", inputs := ["a b.tif"],
                        urlList? := some "list", seriesCount := 2, output := "out" }
  let l : Filter.LiteralTest := ⟨.eq, "1", none, rfl⟩
  have hcompile : Filter.compileText none s.candidateType s.expression =
      .ok (.branch (.feature .series) [.leaf l]) :=
    Filter.compileText_eq_ok_iff.2 ⟨[⟨.symbol "series" none, 0⟩, ⟨.symbol "eq" none, 7⟩,
      ⟨.literal "1", 10⟩], by decide +kernel, by with_unfolding_all rfl⟩
  have hfiles : s.CanUse around list := by
    refine ⟨fun path hpath => ?_, fun path hpath => ?_, fun _ => rfl⟩
    · obtain rfl := Option.some.inj hpath
      rfl
    · cases hpath
  have hs : Settings.ofArguments ["series eq \"1\"", "a b.tif", "--series-count", "2",
      "--url-list", "list", "--output", "out"] = .ok s := rfl
  have hcheck : ∀ bytes, s.check ⟨"now", fun path => if path = "list" then some bytes else none,
      fun _ => none⟩ = .ok () := by
    intro bytes
    unfold s
    rfl
  obtain ⟨pairs, hpairs, ⟨out, hrun, hwrites⟩, -⟩ :=
    run_writes_selected hs (hcheck _) hcompile hfiles
  obtain rfl : pairs = [(0, 0), (1, 0)] := hpairs.unique (enumerates_product 2 1)
  have houtput : s.output ≠ "" := by decide
  refine ⟨out, hrun, hwrites.silent houtput, fun before => ?_⟩
  refine (hwrites.written houtput before).trans ?_
  exact congrArg (fun text : String => Text.Utf8.encode text.toList) (by decide +kernel)

end ImageSelect.CommandLine
