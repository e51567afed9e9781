import ImageSelect.CommandLine.Settings
import ImageSelect.Proofs.Except
import ImageSelect.Proofs.Text.Integer

/-!
# Counts that were read

A count of the command line has been read from a text, so it can be written.  An option that is
given a value keeps this of settings (`CountsWritable.assign`), and so do all arguments together
(`countsWritable_ofArguments`).
-/

namespace ImageSelect.CommandLine

/-- The counts of settings can be written. -/
structure Settings.CountsWritable (s : Settings) : Prop where
  series : Text.Writable s.seriesCount.natAbs
  frames : Text.Writable s.frameCount.natAbs

theorem writable_of_readCount {o : OptionName} {value : String} {n : Int}
    (h : readCount o value = .ok n) : Text.Writable n.natAbs := by
  unfold readCount at h
  split at h
  · rename_i hread
    obtain rfl := Except.ok.inj h
    exact Text.readInteger_writable hread
  · cases h

section
variable {s s' : Settings} {o : OptionName} {spelling value : String}

/-- An option that is given a value keeps the counts writable. -/
theorem Settings.CountsWritable.assign (h : s.CountsWritable)
    (hassign : s.assign o value = .ok s') : s'.CountsWritable := by
  cases o with
  | help => cases hassign
  | noProgress | urlList | output | logFile =>
    obtain rfl := Except.ok.inj hassign
    exact ⟨h.series, h.frames⟩
  | candidate | logLevel =>
    obtain ⟨_, -, hset⟩ := Except.bind_eq_ok_iff.1 hassign
    obtain rfl := Except.ok.inj hset
    exact ⟨h.series, h.frames⟩
  | seriesCount =>
    obtain ⟨n, hread, hset⟩ := Except.bind_eq_ok_iff.1 hassign
    obtain rfl := Except.ok.inj hset
    exact ⟨writable_of_readCount hread, h.frames⟩
  | frameCount =>
    obtain ⟨n, hread, hset⟩ := Except.bind_eq_ok_iff.1 hassign
    obtain rfl := Except.ok.inj hset
    exact ⟨h.series, writable_of_readCount hread⟩

theorem Settings.CountsWritable.assignJoined (h : s.CountsWritable)
    (hassign : s.assignJoined o spelling value = .ok s') : s'.CountsWritable := by
  unfold Settings.assignJoined at hassign
  split at hassign
  · exact h.assign hassign
  · split at hassign
    · exact h.assign hassign
    · cases hassign

end

/-- Values are no counts. -/
theorem Settings.CountsWritable.takeValues {r : Reading} (h : r.settings.CountsWritable)
    (values : List (String × ArgumentKind)) : (r.takeValues values).settings.CountsWritable := by
  unfold Reading.takeValues
  split
  · exact ⟨h.series, h.frames⟩
  · exact h

/-- All arguments together keep the counts writable. -/
theorem Reading.countsWritable_takeAll {bound : Nat} {r r' : Reading}
    {arguments : List (String × ArgumentKind)} (h : r.settings.CountsWritable)
    (htake : takeAll bound r arguments = .ok r') : r'.settings.CountsWritable := by
  fun_induction takeAll bound r arguments with
  | case1 | case2 =>
    obtain rfl := Except.ok.inj htake
    exact h
  | case3 r bound argument more ih => exact ih h htake
  | case4 r bound argument more o spelling text ih =>
    obtain ⟨settings, hassign, hrest⟩ := Except.bind_eq_ok_iff.1 htake
    exact ih settings (h.assignJoined hassign) hrest
  | case5 r bound argument o spelling hvalue value more ih =>
    obtain ⟨settings, hassign, hrest⟩ := Except.bind_eq_ok_iff.1 htake
    exact ih settings (h.assign hassign) hrest
  | case6 => cases htake
  | case7 r bound argument more o spelling hvalue ih =>
    obtain ⟨settings, hassign, hrest⟩ := Except.bind_eq_ok_iff.1 htake
    exact ih settings (h.assign hassign) hrest
  | case8 r _ _ _ values rest hspan ih | case9 r _ _ _ values rest hspan ih =>
    obtain ⟨rfl, rfl⟩ := Prod.ext_iff.1 hspan
    exact ih (h.takeValues _) htake

/-- Settings that were read from arguments have counts that can be written. -/
theorem Settings.countsWritable_ofArguments {arguments : List String} {s : Settings}
    (h : ofArguments arguments = .ok s) : s.CountsWritable := by
  obtain ⟨kinds, -, h⟩ := Except.bind_eq_ok_iff.1 h
  obtain ⟨r, htake, h⟩ := Except.bind_eq_ok_iff.1 h
  have hstart : ({} : Reading).settings.CountsWritable := ⟨by decide, by decide⟩
  have hr := Reading.countsWritable_takeAll hstart htake
  dsimp only at h
  split at h
  · cases h
  · split at h
    · cases h
    · obtain rfl := Except.ok.inj h
      exact hr

end ImageSelect.CommandLine
