import ImageSelect.Proofs.Filter.Kept
import ImageSelect.Proofs.Filter.Recent

/-!
# The cache against compiling afresh

A request is answered from the cache as it would be by a filter that is
compiled for it alone, and the cache keeps the filters of the last distinct
keys that were served.

* `Call.outcome` is what a request comes to, and `Call.gives_afresh` and
  `Call.ask_run` say that a filter compiled for it and a kept one answer with it.
* `Cache.Keeps` is the invariant, with one lemma for each way in which the cache
  changes.
* `Cache.Keeps.serve` is the step and `Cache.Keeps.serveAll` the run.
-/

namespace ImageSelect.Filter

/-! ## Compiling afresh -/

/-- The filter that a key stands for. -/
def filterOf (key : Key) : Except CompileError Filter :=
  (compileText none (key.2.getD .plane) key.1).map fun t => ⟨key.1, key.2.getD .plane, t⟩

/-- Whether the text of a key compiles. -/
def compiles (key : Key) : Bool :=
  (compileText none (key.2.getD .plane) key.1).isOk

theorem compiles_iff {key : Key} : compiles key = true ↔ ∃ f, filterOf key = .ok f := by
  unfold compiles filterOf
  cases compileText none (key.2.getD .plane) key.1 with
  | ok t => simp [Except.isOk, Except.toBool, Except.map]
  | error why => simp [Except.isOk, Except.toBool, Except.map]

/-- The tree of the filter of a key is the one that its text compiles to. -/
theorem compileText_of_filterOf {key : Key} {f : Filter} (h : filterOf key = .ok f) :
    compileText none f.candidates f.text = .ok f.tree := by
  obtain ⟨t, ht, rfl⟩ := Except.map_eq_ok_iff.1 h
  exact ht

namespace Call

section

variable [CurrentDirectory]

/-- What a filter answers to a request. -/
def replyOf (call : Call) (f : Filter) : Except CallError Reply :=
  match call with
  | .compile _ _ => .ok (.form f.shown)
  | .evaluate _ candidate _ => reply (f.tree.verdict candidate)

/-- What a request comes to. -/
def outcome (call : Call) : Except CallError Reply :=
  (filterOf call.key).mapError CallError.compile >>= call.replyOf

/-- A filter that is compiled for a request alone answers with its outcome. -/
theorem gives_afresh (call : Call) : Gives call.afresh call.outcome := by
  unfold afresh outcome
  refine (gives_ofText _ _ _).bind ?_
  have hfilter : (compileText none (call.key.2.getD .plane) call.key.1).map
      (fun t => (⟨call.key.1, call.key.2.getD .plane, t⟩ : Filter)) = filterOf call.key := rfl
  rw [hfilter]
  cases filterOf call.key with
  | error why => exact .pure _
  | ok f =>
    cases call with
    | compile text type => exact .pure _
    | evaluate text candidate type => exact Gives.map (f.tree.answers candidate) reply

/-- A kept filter answers to a request as the filter does. -/
theorem ask_run {kept : Kept} {key : Key} (h : filterOf key = .ok kept.toFilter) (call : Call)
    {s : Session} (hs : s.Sound) :
    ∃ strings s', (call.ask kept).run s =
      ((call.replyOf kept.toFilter, { kept with strings }), s') ∧ s'.Sound := by
  cases call with
  | compile text type => exact ⟨kept.strings, s, rfl, hs⟩
  | evaluate text candidate type =>
    obtain ⟨strings, s', hrun, hs', -⟩ := Kept.ask_run (compileText_of_filterOf h) candidate hs
    refine ⟨strings, s', ?_, hs'⟩
    have hask : (Call.ask (.evaluate text candidate type) kept).run s =
        let ((answer, kept), s') := (kept.ask candidate).run s
        ((reply answer, kept), s') := rfl
    rw [hask, hrun]
    rfl

end

end Call

/-! ## Requests -/

namespace Cache

/-- A cache keeps the filters of the keys that were served last, and counts the
requests. -/
structure Keeps (cache : Cache) (served : List Key) (calls : Nat) : Prop where
  keys : cache.entries.map (·.1) = recent capacity served
  compiled : ∀ entry ∈ cache.entries, filterOf entry.1 = .ok entry.2.toFilter
  counted : cache.hits + cache.misses = calls

/-- An empty cache has served nothing. -/
theorem keeps_empty : Keeps {} [] 0 :=
  ⟨rfl, by simp, rfl⟩

section
variable {cache : Cache} {served : List Key} {calls : Nat} {key : Key} {kept : Kept}

theorem Keeps.size_le (h : cache.Keeps served calls) : cache.size ≤ capacity := by
  rw [size, ← List.length_map (·.1), h.keys]
  exact length_recent_le capacity served

theorem Keeps.touch (h : cache.Keeps served calls) (hmem : key ∈ recent capacity served)
    (hkept : filterOf key = .ok kept.toFilter) :
    (cache.touch key kept).Keeps (key :: served) (calls + 1) := by
  refine ⟨?keys, ?compiled, ?counted⟩
  case keys =>
    rw [recent_cons_of_mem hmem, ← h.keys, List.filter_map]
    rfl
  case compiled =>
    intro entry hentry
    rcases List.mem_cons.1 hentry with rfl | hentry
    · exact hkept
    · exact h.compiled entry (List.mem_of_mem_filter hentry)
  case counted =>
    have hcounted := h.counted
    simp only [Cache.touch]
    omega

theorem Keeps.store (h : cache.Keeps served calls) (hmem : key ∉ recent capacity served)
    (hkept : filterOf key = .ok kept.toFilter) :
    (cache.store key kept).Keeps (key :: served) (calls + 1) := by
  refine ⟨?keys, ?compiled, ?counted⟩
  case keys =>
    rw [recent_cons_of_not_mem hmem, ← h.keys, Cache.store, List.map_take, List.map_cons]
  case compiled =>
    intro entry hentry
    rcases List.mem_cons.1 (List.mem_of_mem_take hentry) with rfl | hentry
    · exact hkept
    · exact h.compiled entry hentry
  case counted =>
    have hcounted := h.counted
    simp only [Cache.store]
    omega

theorem Keeps.miss (h : cache.Keeps served calls) : cache.miss.Keeps served (calls + 1) := by
  refine ⟨h.keys, h.compiled, ?_⟩
  have hcounted := h.counted
  simp only [Cache.miss]
  omega

theorem Keeps.renew (h : cache.Keeps served calls) (hkept : filterOf key = .ok kept.toFilter) :
    (cache.renew key kept).Keeps served calls := by
  refine ⟨?keys, ?compiled, h.counted⟩
  case keys =>
    rw [← h.keys, Cache.renew, List.map_map]
    refine List.map_congr_left fun entry _ => ?_
    by_cases hkey : entry.1 = key <;> simp [hkey]
  case compiled =>
    intro entry hentry
    obtain ⟨old, hold, rfl⟩ := List.mem_map.1 hentry
    by_cases hkey : old.1 = key
    · simpa [hkey] using hkept
    · simpa [hkey] using h.compiled old hold

/-- The filter of a key is found if the key is one of those that were served
last. -/
theorem Keeps.find?_of_mem (h : cache.Keeps served calls) (hmem : key ∈ recent capacity served) :
    ∃ kept, cache.find? key = some kept ∧ filterOf key = .ok kept.toFilter := by
  rw [← h.keys, List.mem_map] at hmem
  obtain ⟨entry, hentry, rfl⟩ := hmem
  have hsome : (cache.find? entry.1).isSome = true :=
    List.lookup_isSome_iff.2 ⟨entry, hentry, beq_self_eq_true _⟩
  obtain ⟨kept, hkept⟩ := Option.isSome_iff_exists.1 hsome
  obtain ⟨front, rest, hentries, -⟩ := List.lookup_eq_some_iff.1 hkept
  refine ⟨kept, hkept, h.compiled (entry.1, kept) ?_⟩
  rw [hentries]
  exact List.mem_append_right _ List.mem_cons_self

theorem Keeps.find?_of_not_mem (h : cache.Keeps served calls)
    (hmem : key ∉ recent capacity served) : cache.find? key = none := by
  refine List.lookup_eq_none_iff.2 fun entry hentry => ?_
  have hne : key ≠ entry.1 := by
    rintro rfl
    rw [← h.keys] at hmem
    exact hmem (List.mem_map_of_mem hentry)
  simpa using hne

/-- Compiling finds the filter of a key that was served lately. -/
theorem Keeps.compile_of_mem (h : cache.Keeps served calls) (hmem : key ∈ recent capacity served)
    (s : Session) :
    ∃ kept, (cache.compile key.1 key.2).run s = ((.ok kept, cache.touch key kept), s) ∧
      filterOf key = .ok kept.toFilter := by
  obtain ⟨kept, hfind, hkept⟩ := h.find?_of_mem hmem
  refine ⟨kept, ?_, hkept⟩
  unfold Cache.compile
  dsimp only
  rw [hfind]
  rfl

/-- Compiling another text compiles it. -/
theorem Keeps.compile_of_not_mem [CurrentDirectory] (h : cache.Keeps served calls)
    (hmem : key ∉ recent capacity served) :
    Gives (cache.compile key.1 key.2)
      (match filterOf key with
      | .ok f => (.ok { f with }, cache.store key { f with })
      | .error why => (.error why, cache.miss)) := by
  unfold Cache.compile
  dsimp only
  rw [h.find?_of_not_mem hmem]
  refine (gives_ofText _ _ _).bind ?_
  cases hfilter : filterOf key with
  | ok f =>
    obtain ⟨t, ht, rfl⟩ := Except.map_eq_ok_iff.1 hfilter
    rw [ht]
    exact .pure _
  | error why =>
    rw [Except.map_eq_error_iff.1 hfilter]
    exact .pure _

/-- A request whose filter is at hand is put to it. -/
theorem serve_of_compile [CurrentDirectory] {cache' : Cache} {call : Call} {s s₁ : Session}
    (hcompile : (cache.compile call.key.1 call.key.2).run s = ((.ok kept, cache'), s₁))
    (hs₁ : s₁.Sound) (hkept : filterOf call.key = .ok kept.toFilter)
    (h' : cache'.Keeps served calls) :
    ∃ cache'' s', (cache.serve call).run s = ((call.outcome, cache''), s') ∧ s'.Sound ∧
      cache''.Keeps served calls ∧ cache''.hits = cache'.hits := by
  obtain ⟨strings, s', hask, hs'⟩ := Call.ask_run hkept call hs₁
  have houtcome : call.outcome = call.replyOf kept.toFilter := by
    rw [Call.outcome, hkept]
    rfl
  refine ⟨cache'.renew call.key { kept with strings }, s', ?_, hs', h'.renew hkept, rfl⟩
  have hserve : (cache.serve call).run s =
      let ((reply, kept), s') := (call.ask kept).run s₁
      ((reply, cache'.renew call.key kept), s') := by
    rw [Cache.serve, StateT.run_bind, hcompile]
    rfl
  rw [hserve, hask, houtcome]

/-- One request: it is answered with its outcome, it finds its filter if its key
is one of those that were served last, and it leaves the cache as it was if its
text does not compile. -/
theorem Keeps.serve [CurrentDirectory] (h : cache.Keeps served calls) (call : Call)
    {s : Session} (hs : s.Sound) :
    ∃ cache' s', (cache.serve call).run s = ((call.outcome, cache'), s') ∧ s'.Sound ∧
      cache'.Keeps (if compiles call.key then call.key :: served else served) (calls + 1) ∧
      cache'.hits = cache.hits + (if call.key ∈ recent capacity served then 1 else 0) ∧
      (compiles call.key = false → cache' = cache.miss) := by
  by_cases hmem : call.key ∈ recent capacity served
  · obtain ⟨kept, hcompile, hkept⟩ := h.compile_of_mem hmem s
    have hcompiles : compiles call.key = true := compiles_iff.2 ⟨_, hkept⟩
    obtain ⟨cache', s', hserve, hs', h', hhits⟩ :=
      serve_of_compile hcompile hs hkept (h.touch hmem hkept)
    refine ⟨cache', s', hserve, hs', ?_, ?_, ?_⟩
    · rwa [if_pos hcompiles]
    · rw [hhits, if_pos hmem]
      rfl
    · simp [hcompiles]
  · obtain ⟨s₁, hcompile, hs₁⟩ := h.compile_of_not_mem hmem s hs
    rw [if_neg hmem]
    cases hfilter : filterOf call.key with
    | ok f =>
      rw [hfilter] at hcompile
      have hcompiles : compiles call.key = true := compiles_iff.2 ⟨_, hfilter⟩
      obtain ⟨cache', s', hserve, hs', h', hhits⟩ :=
        serve_of_compile hcompile hs₁ hfilter (h.store hmem hfilter)
      refine ⟨cache', s', hserve, hs', ?_, hhits, ?_⟩
      · rwa [if_pos hcompiles]
      · simp [hcompiles]
    | error why =>
      rw [hfilter] at hcompile
      have hcompiles : ¬compiles call.key = true := by
        rw [compiles_iff, hfilter]
        simp
      refine ⟨cache.miss, s₁, ?_, hs₁, ?_, rfl, fun _ => rfl⟩
      · rw [Cache.serve, StateT.run_bind, hcompile, Call.outcome, hfilter]
        rfl
      · rw [if_neg hcompiles]
        exact h.miss

/-- Requests one after the other. -/
theorem Keeps.serveAll [CurrentDirectory] (requests : List Call) :
    ∀ {cache : Cache} {served : List Key} {calls : Nat},
    cache.Keeps served calls → ∀ {s : Session}, s.Sound →
      ∃ cache' s', (cache.serveAll requests).run s = (cache', s') ∧ s'.Sound ∧
        cache'.Keeps (((requests.map Call.key).filter compiles).reverse ++ served)
          (calls + requests.length) := by
  induction requests with
  | nil => exact fun h s hs => ⟨_, _, rfl, hs, h⟩
  | cons call requests ih =>
    intro cache served calls h s hs
    obtain ⟨cache₁, s₁, hserve, hs₁, h₁, -, -⟩ := h.serve call hs
    obtain ⟨cache', s', hrun, hs', h'⟩ := ih h₁ hs₁
    refine ⟨cache', s', ?_, hs', ?_⟩
    · rw [Cache.serveAll, StateT.run_bind, hserve]
      exact hrun
    · rw [List.length_cons, ← Nat.add_assoc, Nat.add_right_comm]
      have hserved : (((call :: requests).map Call.key).filter compiles).reverse ++ served =
          ((requests.map Call.key).filter compiles).reverse ++
            (if compiles call.key then call.key :: served else served) := by
        rw [List.map_cons, List.filter_cons]
        split
        · rw [List.reverse_cons, List.append_assoc, List.singleton_append]
        · rfl
      rw [hserved]
      exact h'

end

/-- The cache of compiled filters cannot be noticed, and it is bounded.  After any
requests from an empty cache each further one is answered as a filter that is
compiled for it alone answers; every request is counted once and no more than 256
filters are kept.  A text that does not compile changes nothing but the count of
misses.  A request finds its filter if its key was served before and fewer than
256 other ones have been served since. -/
theorem serve_eq_afresh_and_bounded [CurrentDirectory] (requests : List Call) {s : Session}
    (hs : s.Sound) :
    let (before, s₁) := (serveAll {} requests).run s
    let served := ((requests.map Call.key).filter compiles).reverse
    before.hits + before.misses = requests.length ∧ before.size ≤ 256 ∧
    ∀ call : Call,
      let ((reply, after), _) := (before.serve call).run s₁
      (∀ s' : Session, s'.Sound → reply = (call.afresh.run s').1) ∧
      (compiles call.key = false → after = { before with misses := before.misses + 1 }) ∧
      after.hits = before.hits +
        (if call.key ∈ served ∧ (served.takeWhile (· ≠ call.key)).toFinset.card < 256
          then 1 else 0) := by
  obtain ⟨before, s₁, hrun, hs₁, hbefore⟩ := keeps_empty.serveAll requests hs
  rw [List.append_nil, Nat.zero_add] at hbefore
  rw [hrun]
  refine ⟨hbefore.counted, hbefore.size_le, fun call => ?_⟩
  obtain ⟨after, s₂, hserve, hs₂, -, hhits, hmiss⟩ := hbefore.serve call hs₁
  simp only [hserve]
  refine ⟨fun s' hs' => ?_, hmiss, ?_⟩
  · rw [call.gives_afresh.result_eq hs']
  · simp only [hhits, mem_recent_iff]
    rfl

/-- The statement for a verdict that is asked for again after a text that does
not compile. -/
theorem serve_eq_afresh_and_bounded_again :
    letI : CurrentDirectory := .root
    let request : Call :=
      .evaluate "series eq \"1\"" (.plane ⟨⟨"file:///a.tif", none⟩, 1, 0⟩) none
    let (before, s₁) := (serveAll {} [request, .compile "series" none]).run {}
    let ((reply, after), _) := (before.serve request).run s₁
    before.hits + before.misses = 2 ∧ reply = (request.afresh.run {}).1 ∧
      after.hits = before.hits + 1 := by
  let _ : CurrentDirectory := .root
  intro request
  have hcompiles : compiles request.key = true := by decide +kernel
  have hrefused : compiles ("series", none) = false := by decide +kernel
  have hserved : ([request, .compile "series" none].map Call.key).filter compiles =
      [request.key] := by
    rw [List.map_cons, List.filter_cons_of_pos hcompiles, List.map_cons,
      List.filter_cons_of_neg (by simp [Call.key, hrefused])]
    rfl
  obtain ⟨hcounted, -, hcalls⟩ :=
    serve_eq_afresh_and_bounded [request, .compile "series" none] Session.sound_empty
  obtain ⟨hreply, -, hhits⟩ := hcalls request
  rw [hserved, if_pos (by simp)] at hhits
  exact ⟨hcounted, hreply {} Session.sound_empty, hhits⟩

end Cache

end ImageSelect.Filter
