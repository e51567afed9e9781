import Mathlib.Data.List.Nodup
import Mathlib.Data.String.Basic
import ImageSelect.Filter.Registry
import ImageSelect.Proofs.History

/-!
# What registries hold

A registration writes in two places: it binds the symbol to the class, and gives the class the
symbol to carry.  Classes with several symbols and refused registrations do not make the two
disagree.

* `lookup_put` and `keys_put`: what setting a key changes.
* `Registry.Holds`: a registry against the registrations that were successful.
  `Registry.Holds.bind` is the only change there is, `Registry.Holds.answer` the step for any
  request, and `Registry.holds_answerAll` the run.
* `bindings_permanent` puts together what a reader of the registry sees.
-/

namespace ImageSelect.Filter.Registry

/-! ## Setting a key -/

section
variable {α β : Type} [DecidableEq α] {key key' : α} {value : β} {entries : List (α × β)}

theorem lookup_put :
    (put key value entries).lookup key' =
      if key' = key then some value else entries.lookup key' := by
  induction entries with
  | nil =>
    rw [put, List.lookup_cons]
    by_cases h : key' = key
    · simp [h]
    · have hne : (key' == key) = false := by simpa using h
      simp [h, hne]
  | cons entry entries ih =>
    obtain ⟨k, v⟩ := entry
    rw [put]
    by_cases hk : k = key
    · subst hk
      rw [if_pos rfl, List.lookup_cons, List.lookup_cons]
      by_cases h : key' = k
      · simp [h]
      · have hne : (key' == k) = false := by simpa using h
        simp [h, hne]
    · rw [if_neg hk, List.lookup_cons, List.lookup_cons, ih]
      by_cases h : key' = k
      · have hne : ¬key' = key := fun heq => hk (h.symm.trans heq)
        simp [h, hk]
      · have hne : (key' == k) = false := by simpa using h
        rw [hne]

/-- A key that is new comes last. -/
theorem keys_put :
    (put key value entries).map (·.1) =
      if key ∈ entries.map (·.1) then entries.map (·.1) else entries.map (·.1) ++ [key] := by
  induction entries with
  | nil => rfl
  | cons entry entries ih =>
    obtain ⟨k, v⟩ := entry
    rw [put]
    by_cases hk : k = key
    · simp [hk]
    · have hne : ¬key = k := fun h => hk h.symm
      simp only [if_neg hk, List.map_cons, ih, List.mem_cons, hne, false_or]
      split <;> rfl

theorem nodup_keys_put (h : (entries.map (·.1)).Nodup) :
    ((put key value entries).map (·.1)).Nodup := by
  rw [keys_put]
  split
  · exact h
  · rename_i hkey
    rw [← List.concat_eq_append]
    exact h.concat hkey

theorem mem_keys_iff : key ∈ entries.map (·.1) ↔ ∃ value, entries.lookup key = some value := by
  induction entries with
  | nil => simp
  | cons entry entries ih =>
    obtain ⟨k, v⟩ := entry
    rw [List.map_cons, List.mem_cons, List.lookup_cons]
    by_cases h : key = k
    · simp [h]
    · have hne : (key == k) = false := by simpa using h
      rw [hne, ← ih]
      simp [h]

end

/-! ## Texts in order -/

theorem mem_sorted_iff {texts : List String} {text : String} :
    text ∈ sorted texts ↔ text ∈ texts :=
  (List.mergeSort_perm _ _).mem_iff

/-- Distinct texts are strictly in order once they are sorted. -/
theorem pairwise_sorted {texts : List String} (h : texts.Nodup) :
    (sorted texts).Pairwise (· < ·) := by
  have hle : ∀ a b : String, (!decide (b < a)) = true ↔ a ≤ b := by
    intro a b
    rw [Bool.not_eq_true', decide_eq_false_iff_not, not_lt]
  have hpairwise : (sorted texts).Pairwise fun a b => (!decide (b < a)) = true := by
    refine List.pairwise_mergeSort ?_ ?_ texts
    · intro a b c hab hbc
      rw [hle] at *
      exact hab.trans hbc
    · intro a b
      rw [Bool.or_eq_true, hle, hle]
      exact le_total a b
  have hnodup : (sorted texts).Nodup := (List.mergeSort_perm _ _).nodup_iff.2 h
  exact (hpairwise.and hnodup).imp fun hab => lt_of_le_of_ne ((hle _ _).1 hab.1) hab.2

/-! ## Registrations -/

variable {κ : Type}

/-- The symbol and the class of a registration that was successful. -/
def success? : Request κ × Answer κ → Option (String × κ)
  | (.register symbol c, .ok _) => some (symbol, c)
  | _ => none

/-- The registrations among requests that were successful, in order. -/
def successes (requests : List (Request κ)) (answers : List (Answer κ)) : List (String × κ) :=
  (requests.zip answers).filterMap success?

theorem successes_cons (q : Request κ) (a : Answer κ) (requests : List (Request κ))
    (answers : List (Answer κ)) :
    successes (q :: requests) (a :: answers) = successes [q] [a] ++ successes requests answers := by
  rw [successes, successes, successes, List.zip_cons_cons, ← List.singleton_append,
    List.filterMap_append]
  rfl

variable [DecidableEq κ] {r : Registry κ} {done : List (String × κ)} {symbol : String} {c : κ}

/-- A registry holds the registrations that were successful: every symbol is bound as it was
registered, and a class carries the symbol of its last registration. -/
structure Holds (r : Registry κ) (done : List (String × κ)) : Prop where
  nodup : (r.bindings.map (·.1)).Nodup
  lookup_iff : ∀ symbol c, r.lookup symbol = some c ↔ (symbol, c) ∈ done
  carried_iff : ∀ symbol c, r.carried.lookup c = some symbol ↔
    HasLast done (· = (symbol, c)) (·.2 ≠ c)

theorem holds_empty : Holds ({} : Registry κ) [] where
  nodup := List.nodup_nil
  lookup_iff := by simp [lookup]
  carried_iff := fun _ _ => iff_of_false (by simp) HasLast.not_nil

/-- A symbol that is bound to no other class can be bound. -/
theorem Holds.bind (h : r.Holds done) (hfree : ∀ c', (symbol, c') ∈ done → c' = c) :
    (register.bind symbol c r).Holds (done ++ [(symbol, c)]) where
  nodup := nodup_keys_put h.nodup
  lookup_iff := by
    intro symbol' c'
    rw [lookup, register.bind, lookup_put, List.mem_append, List.mem_singleton, Prod.mk.injEq]
    by_cases hsymbol : symbol' = symbol
    · subst hsymbol
      rw [if_pos rfl, Option.some.injEq]
      constructor
      · rintro rfl
        exact .inr ⟨rfl, rfl⟩
      · rintro (hmem | ⟨-, rfl⟩)
        · exact (hfree c' hmem).symm
        · rfl
    · have hbefore : r.bindings.lookup symbol' = some c' ↔ (symbol', c') ∈ done :=
        h.lookup_iff symbol' c'
      rw [if_neg hsymbol, hbefore]
      simp [hsymbol]
  carried_iff := by
    intro symbol' c'
    rw [register.bind, lookup_put, HasLast.concat_iff, Prod.mk.injEq]
    by_cases hc : c' = c
    · subst hc
      simp
    · have hne : c ≠ c' := fun heq => hc heq.symm
      rw [if_neg hc, h.carried_iff]
      simp [hne]

/-- What comes of a registration. -/
theorem Holds.register (h : r.Holds done) (symbol : String) (c : κ) :
    (∃ c', (symbol, c') ∈ done ∧ c' ≠ c ∧ r.register symbol c = .error ⟨symbol, c'⟩) ∨
      ((∀ c', (symbol, c') ∈ done → c' = c) ∧
        r.register symbol c = .ok (register.bind symbol c r)) := by
  unfold Registry.register
  cases hbound : r.bindings.lookup symbol with
  | none =>
    refine .inr ⟨fun c' hmem => ?_, rfl⟩
    have hlookup := (h.lookup_iff symbol c').2 hmem
    rw [lookup, hbound] at hlookup
    cases hlookup
  | some existing =>
    have hmem : (symbol, existing) ∈ done := (h.lookup_iff symbol existing).1 hbound
    by_cases heq : existing = c
    · refine .inr ⟨fun c' hmem' => ?_, if_pos heq⟩
      have hlookup := (h.lookup_iff symbol c').2 hmem'
      rw [lookup, hbound] at hlookup
      exact (Option.some.inj hlookup).symm.trans heq
    · exact .inl ⟨existing, hmem, heq, if_neg heq⟩

/-- What was registered under one symbol is one class. -/
theorem Holds.unique (h : r.Holds done) {c' : κ} (hmem : (symbol, c) ∈ done)
    (hmem' : (symbol, c') ∈ done) : c = c' :=
  Option.some.inj (((h.lookup_iff _ _).2 hmem).symm.trans ((h.lookup_iff _ _).2 hmem'))

/-! ## Answers -/

theorem Holds.answer_conflict (h : r.Holds done) {c' : κ} (hmem : (symbol, c') ∈ done)
    (hne : c' ≠ c) :
    r.answer (.register symbol c) = (.error (.conflict ⟨symbol, c'⟩), r) := by
  rcases h.register symbol c with ⟨existing, hexisting, -, hrefused⟩ | ⟨hfree, -⟩
  · obtain rfl := h.unique hmem hexisting
    simp only [Registry.answer, hrefused]
  · exact absurd (hfree c' hmem) hne

theorem Holds.answer_register (h : r.Holds done)
    (hfree : ∀ c', (symbol, c') ∈ done → c' = c) :
    r.answer (.register symbol c) = (.ok none, register.bind symbol c r) := by
  rcases h.register symbol c with ⟨c', hmem, hne, -⟩ | ⟨-, hbind⟩
  · exact absurd (hfree c' hmem) hne
  · simp only [Registry.answer, hbind]

theorem Holds.answer_lookup (h : r.Holds done) (hmem : (symbol, c) ∈ done) :
    r.answer (.lookup symbol) = (.ok (some c), r) := by
  simp only [Registry.answer, (h.lookup_iff symbol c).2 hmem]

theorem Holds.answer_unknown (h : r.Holds done) (hnot : ∀ c, (symbol, c) ∉ done) :
    r.answer (.lookup symbol) = (.error (.unknown symbol r.symbols), r) := by
  have hunbound : r.lookup symbol = none := by
    refine Option.eq_none_iff_forall_ne_some.2 fun c hc => ?_
    exact hnot c ((h.lookup_iff symbol c).1 hc)
  simp only [Registry.answer, hunbound]

/-- One more request adds its registration if it is a successful one. -/
theorem Holds.answer (h : r.Holds done) (q : Request κ) :
    (r.answer q).2.Holds (done ++ successes [q] [(r.answer q).1]) := by
  have hsame : r.Holds (done ++ []) := by rwa [List.append_nil]
  cases q with
  | register symbol c =>
    by_cases hfree : ∀ c', (symbol, c') ∈ done → c' = c
    · rw [h.answer_register hfree]
      exact h.bind hfree
    · obtain ⟨c', hmem, hne⟩ : ∃ c', (symbol, c') ∈ done ∧ c' ≠ c := by simpa using hfree
      rw [h.answer_conflict hmem hne]
      exact hsame
  | lookup symbol =>
    by_cases hbound : ∃ c, (symbol, c) ∈ done
    · obtain ⟨c, hmem⟩ := hbound
      rw [h.answer_lookup hmem]
      exact hsame
    · rw [h.answer_unknown (not_exists.1 hbound)]
      exact hsame

theorem length_answerAll (r : Registry κ) (requests : List (Request κ)) :
    (r.answerAll requests).1.length = requests.length := by
  induction requests generalizing r with
  | nil => rfl
  | cons q requests ih => exact congrArg Nat.succ (ih _)

/-- A registry that answers requests holds the successful registrations among them. -/
theorem holds_answerAll (requests : List (Request κ)) (h : r.Holds done) :
    (r.answerAll requests).2.Holds (done ++ successes requests (r.answerAll requests).1) := by
  induction requests generalizing r done with
  | nil =>
    rw [successes, List.zip_nil_left, List.filterMap_nil, List.append_nil]
    exact h
  | cons q requests ih =>
    have hrest := ih (h.answer q)
    rw [List.append_assoc, ← successes_cons] at hrest
    exact hrest

/-- Requests are answered in parts as they are together. -/
theorem answerAll_append (r : Registry κ) (requests more : List (Request κ)) :
    r.answerAll (requests ++ more) =
      ((r.answerAll requests).1 ++ ((r.answerAll requests).2.answerAll more).1,
        ((r.answerAll requests).2.answerAll more).2) := by
  induction requests generalizing r with
  | nil => rfl
  | cons q requests ih =>
    have hrest := ih (r.answer q).2
    simp only [List.cons_append, answerAll, hrest]

/-- A class that was registered carries the symbol of its last registration. -/
theorem Holds.hasLast (h : r.Holds done) (hmem : (symbol, c) ∈ done) :
    HasLast done (· = (r.symbolOf c, c)) (·.2 ≠ c) := by
  have hlastOf : HasLast done (·.2 = c) (·.2 ≠ c) := HasLast.of_mem hmem rfl
  obtain ⟨before, ⟨symbol', c'⟩, after, hsplit, hc, hafter⟩ := hlastOf
  obtain rfl : c' = c := hc
  have hlast : HasLast done (· = (symbol', c')) (·.2 ≠ c') :=
    ⟨before, _, after, hsplit, rfl, hafter⟩
  have hcarried : r.symbolOf c' = symbol' := by
    rw [symbolOf, (h.carried_iff symbol' c').2 hlast]
    rfl
  rwa [hcarried]

/-- Bindings are permanent and agree with what the classes carry.  Take any requests to a new
registry.  A symbol is bound to a class exactly if it was registered under it with success, and it
stays bound to it whatever is asked for later.  A registration of a symbol that is bound to another
class is refused, with this class, and changes nothing; every other registration is successful.
The symbols are those that were registered with success, once each and in order.  Looking a symbol
up fails exactly if it was not, and changes nothing.  A class that was registered carries the
symbol of its last successful registration, under which it is found again. -/
theorem bindings_permanent (requests : List (Request κ)) :
    let answers := (answerAll {} requests).1
    let r : Registry κ := (answerAll {} requests).2
    let done := successes requests answers
    answers.length = requests.length ∧
    (∀ symbol c, r.lookup symbol = some c ↔ (symbol, c) ∈ done) ∧
    (∀ more symbol c, r.lookup symbol = some c →
      (answerAll {} (requests ++ more)).2.lookup symbol = some c) ∧
    (∀ symbol c c', (symbol, c') ∈ done → c' ≠ c →
      r.answer (.register symbol c) = (.error (.conflict ⟨symbol, c'⟩), r)) ∧
    (∀ symbol c, (∀ c', (symbol, c') ∈ done → c' = c) →
      (r.answer (.register symbol c)).1 = .ok none) ∧
    r.symbols.Pairwise (· < ·) ∧
    (∀ symbol, symbol ∈ r.symbols ↔ ∃ c, (symbol, c) ∈ done) ∧
    (∀ symbol c, (symbol, c) ∈ done → r.answer (.lookup symbol) = (.ok (some c), r)) ∧
    (∀ symbol, (∀ c, (symbol, c) ∉ done) →
      r.answer (.lookup symbol) = (.error (.unknown symbol r.symbols), r)) ∧
    (∀ c, (∃ symbol, (symbol, c) ∈ done) →
      HasLast done (· = (r.symbolOf c, c)) (·.2 ≠ c) ∧ r.lookup (r.symbolOf c) = some c) := by
  intro answers r done
  have h : r.Holds done := holds_answerAll requests holds_empty
  refine ⟨length_answerAll _ _, h.lookup_iff, ?later, fun symbol c c' => h.answer_conflict,
    fun symbol c hfree => congrArg Prod.fst (h.answer_register hfree), pairwise_sorted h.nodup,
    fun symbol => ?bound, fun symbol c => h.answer_lookup, fun symbol => h.answer_unknown, ?carry⟩
  case later =>
    intro more symbol c hbound
    have hmore := holds_answerAll more h
    rw [answerAll_append]
    exact (hmore.lookup_iff symbol c).2 (List.mem_append_left _ ((h.lookup_iff symbol c).1 hbound))
  case bound =>
    rw [symbols, mem_sorted_iff, mem_keys_iff]
    exact exists_congr fun c => h.lookup_iff symbol c
  case carry =>
    rintro c ⟨symbol, hmem⟩
    have hlast := h.hasLast hmem
    obtain ⟨before, _, after, hdone, rfl, -⟩ := h.hasLast hmem
    refine ⟨hlast, (h.lookup_iff _ _).2 ?_⟩
    rw [hdone]
    exact List.mem_append_right _ List.mem_cons_self

/-- The statement for a class with two symbols, after a second class was refused one of them. -/
theorem bindings_permanent_alias :
    let requests : List (Request String) := [.register "file" "A", .register "name" "A",
      .register "name" "B", .lookup "file"]
    let r : Registry := (answerAll {} requests).2
    let done := successes requests (answerAll {} requests).1
    ("name", "A") ∈ done ∧ r.lookup "file" = some "A" ∧ r.symbols = ["file", "name"] ∧
    r.answer (.register "name" "B") = (.error (.conflict ⟨"name", "A"⟩), r) ∧
    r.lookup (r.symbolOf "A") = some "A" ∧ r.symbolOf "A" = "name" ∧
    (answerAll {} (requests ++ [.register "file" "C"])).2.lookup "file" = some "A" := by
  intro requests r done
  obtain ⟨-, -, hlater, hconflict, -, -, -, -, -, hcarry⟩ := bindings_permanent requests
  have hmem : ("name", "A") ∈ done := by decide
  have hfile : r.lookup "file" = some "A" := by decide
  have hbound : r.bindings.map (·.1) = ["file", "name"] := by decide
  have hsymbols : r.symbols = ["file", "name"] := by
    rw [symbols, hbound, sorted, List.mergeSort_of_pairwise (by decide)]
  exact ⟨hmem, hfile, hsymbols, hconflict _ _ _ hmem (by decide), (hcarry "A" ⟨_, hmem⟩).2,
    by decide, hlater _ _ _ hfile⟩

end ImageSelect.Filter.Registry
