import ImageSelect.Logging.Setup
import ImageSelect.Proofs.Output

/-!
# What logging writes

Records go to the standard error stream and, if a file is named, to that file.  The
standard output stays as it is, and so do all other files; the file of the log gets the
lines of the records that pass.

* `stdout_log`, `stderr_log`, `bytesOf_log`: what one record changes.
* `configure_eq_ok`: setting up succeeds if the level is known and the file can be opened, and
  `known_of_configure_ok`: only then.  It writes no more than the record that says so.
-/

namespace ImageSelect.Logging

/-- The setup with a level, and with a handler for a file if one is named. -/
def Setup.withLevel (level : Level) (file : Option String) : Setup :=
  ⟨level, ⟨.console, level⟩ :: (file.map fun path => ⟨.file path, level⟩).toList⟩

/-- A record of the library that passes reaches the level of the handlers. -/
theorem le_of_lets {level : Level} {logPath? : Option String} {r : Record}
    (hown : isOwn r.logger = true) (hlets : (Setup.withLevel level logPath?).lets r = true) :
    level ≤ r.level := by
  unfold Setup.lets Setup.threshold Setup.withLevel at hlets
  simp only [hown, if_true, Bool.and_eq_true, decide_eq_true_eq] at hlets
  obtain ⟨hpos, hlevel⟩ := hlets
  split at hlevel
  · rename_i hzero
    have hpos' : (0 : Int) < r.level := hpos
    rw [show level = 0 from hzero]
    exact Int.le_of_lt hpos'
  · exact hlevel

/-- The handlers of a logger of the library. -/
theorem handlersOf_withLevel {level : Level} {logPath? : Option String} {logger : String}
    (hown : isOwn logger = true) :
    (Setup.withLevel level logPath?).handlersOf logger =
      ⟨.console, level⟩ :: (logPath?.map fun path => ⟨.file path, level⟩).toList := by
  rw [Setup.handlersOf, if_pos hown, Setup.withLevel]

/-- Whatever handlers there were, there is one for the console now. -/
theorem Setup.renewed_eq (s : Setup) (above : Bool) (level : Level) :
    s.renewed above level = .withLevel level none := by
  obtain ⟨old, handlers⟩ := s
  have hcleared : (if Setup.hasHandlers ⟨level, handlers⟩ above then
      { level, handlers := [] } else { level, handlers }) = ({ level } : Setup) := by
    cases handlers with
    | nil => exact ite_self _
    | cons h handlers => rfl
  exact congrArg (·.add ⟨.console, level⟩) hcleared

theorem Setup.add_file (level : Level) (path : String) :
    (Setup.withLevel level none).add ⟨.file path, level⟩ = .withLevel level (some path) :=
  rfl

variable [CurrentDirectory]

/-- The absolute path of the log, if one is named. -/
def logPath? (file : Option String) : Option String :=
  (file.filter (· != "")).map filePath

variable (time : String) (out : Output) (r : Record)

/-! ## The standard output -/

namespace Setup

theorem stdout_deliver (h : Handler) : (deliver time r out h).stdout = out.stdout := by
  unfold deliver
  split
  · cases h.sink with
    | console => exact out.stdout_report _
    | file path => exact out.stdout_append path _
  · rfl

theorem stdout_foldl_deliver (handlers : List Handler) :
    (handlers.foldl (deliver time r) out).stdout = out.stdout := by
  induction handlers generalizing out with
  | nil => rfl
  | cons h handlers ih => rw [List.foldl_cons, ih, stdout_deliver]

/-- A record changes nothing on the standard output. -/
theorem stdout_log (s : Setup) : (s.log time out r).stdout = out.stdout := by
  unfold log
  split
  · split
    · split <;> rfl
    · exact stdout_foldl_deliver time out r _
  · rfl

theorem stdout_logAll (s : Setup) (records : List Record) :
    (s.logAll time out records).stdout = out.stdout := by
  unfold logAll
  induction records generalizing out with
  | nil => rfl
  | cons r records ih => rw [List.foldl_cons, ih, stdout_log]

/-! ## The standard error stream -/

/-- What a handler adds to the standard error stream. -/
theorem stderr_deliver (h : Handler) :
    (deliver time r out h).stderr =
      out.stderr ++ if h.sink = .console ∧ h.level ≤ r.level then r.line time else "" := by
  unfold deliver
  by_cases hlevel : h.level ≤ r.level
  · rw [if_pos hlevel]
    cases h.sink with
    | console => simp [Output.report, hlevel]
    | file path => simp [Output.append]
  · rw [if_neg hlevel]
    simp [hlevel]

/-! ## Files -/

/-- What a handler adds to the bytes of a file. -/
theorem bytesOf_deliver (h : Handler) (path : String) (before : List UInt8) :
    (deliver time r out h).bytesOf path before =
      out.bytesOf path before ++
        match h.sink with
        | .console => []
        | .file logPath =>
          if h.level ≤ r.level ∧ sameFile logPath path then Text.Utf8.encode (r.line time).toList
          else [] := by
  unfold deliver
  by_cases hlevel : h.level ≤ r.level
  · rw [if_pos hlevel]
    cases h.sink with
    | console => simp
    | file logPath => simp [Output.bytesOf_append, hlevel]
  · rw [if_neg hlevel]
    cases h.sink with
    | console => simp
    | file logPath => simp [hlevel]

end Setup

/-- What a record adds to the file with a path: its line, if it passes and the log goes to
this file. -/
def added (time : String) (level : Level) (logPath? : Option String) (path : String)
    (r : Record) : String :=
  if (Setup.withLevel level logPath?).lets r ∧ logPath?.any (sameFile · path) then r.line time
  else ""

/-- A record of the library adds its line to the standard error stream. -/
theorem stderr_log {level : Level} {logPath? : Option String} {r : Record}
    (hown : isOwn r.logger = true) :
    ((Setup.withLevel level logPath?).log time out r).stderr =
      out.stderr ++ if (Setup.withLevel level logPath?).lets r then r.line time else "" := by
  unfold Setup.log
  by_cases hlets : (Setup.withLevel level logPath?).lets r = true
  · have hlevel := le_of_lets hown hlets
    rw [if_pos hlets, if_pos hlets, handlersOf_withLevel hown]
    dsimp only
    cases logPath? <;> simp [Setup.stderr_deliver, hlevel]
  · simp [hlets]

/-- A record of the library adds its line to the file of the log. -/
theorem bytesOf_log {level : Level} {logPath? : Option String} {r : Record}
    (hown : isOwn r.logger = true) (path : String) (before : List UInt8) :
    ((Setup.withLevel level logPath?).log time out r).bytesOf path before =
      out.bytesOf path before ++
        Text.Utf8.encode (added time level logPath? path r).toList := by
  unfold Setup.log added
  by_cases hlets : (Setup.withLevel level logPath?).lets r = true
  · have hlevel := le_of_lets hown hlets
    rw [if_pos hlets, handlersOf_withLevel hown]
    dsimp only
    cases logPath? with
    | none => simp [Setup.bytesOf_deliver]
    | some logPath =>
      cases hsame : sameFile logPath path <;>
        simp [Setup.bytesOf_deliver, hlevel, hlets, hsame]
  · simp [hlets]

/-! ## Setting up -/

/-- Setting up with a level that is known and a file that can be opened, or none, succeeds.  It
makes the file and logs that it has succeeded. -/
theorem configure_eq_ok {check : String → Option OpenError} {choice : LevelChoice}
    {level : Level} {file : Option String} (hlevel : choice.level? = some level)
    (hopen : ∀ path, logPath? file = some path → check path = none) (time : String)
    (before : Setup) (out : Output) (above : Bool) :
    ∃ made : Output,
      configure check time before out choice file above =
        (.ok (), .withLevel level (logPath? file),
          (Setup.withLevel level (logPath? file)).log time made (configured choice)) ∧
      made.stdout = out.stdout ∧ made.stderr = out.stderr ∧
      ∀ path bytes, made.bytesOf path bytes = out.bytesOf path bytes := by
  unfold configure
  simp only [hlevel, Setup.renewed_eq]
  rw [← logPath?]
  cases hpath : logPath? file with
  | none => exact ⟨out, rfl, rfl, rfl, fun _ _ => rfl⟩
  | some path =>
    simp only [hopen path hpath, Setup.add_file]
    refine ⟨out.append path "", rfl, rfl, rfl, fun other bytes => ?_⟩
    rw [Output.bytesOf_append]
    simp

/-- Setting up succeeds only with a level that is known and a file that can be opened. -/
theorem known_of_configure_ok {check : String → Option OpenError} {time : String} {before : Setup}
    {out : Output} {choice : LevelChoice} {file : Option String} {above : Bool}
    (hok : (configure check time before out choice file above).1 = .ok ()) :
    (∃ level, choice.level? = some level) ∧
      ∀ path, logPath? file = some path → check path = none := by
  unfold configure at hok
  rw [← logPath?] at hok
  cases hlevel : choice.level? with
  | none =>
    rw [hlevel] at hok
    cases hok
  | some level =>
    refine ⟨⟨level, rfl⟩, fun path hpath => ?_⟩
    simp only [hlevel, hpath] at hok
    cases hcheck : check path with
    | none => rfl
    | some why =>
      rw [hcheck] at hok
      cases hok

end ImageSelect.Logging
