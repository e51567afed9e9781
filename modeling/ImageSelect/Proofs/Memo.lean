import ImageSelect.Memo

/-!
# The first success is kept

A cell that is asked again and again runs one computation after the other until one of them
gives a value.  From then on it gives this value and runs nothing.

* `Fields.run_request_filled`, `Fields.run_request_ok` and `Fields.run_request_error` say what
  one request comes to; `Fields.run_request_eq` reads all three as `Memo.get`.
* `Compute.Fail` is said of computations that all fail.  `Compute.exists_first_success` splits
  any others at the first one that does not.
* `Fields.run_requestAll_failing` and `Fields.run_requestAll_filled` follow the requests up to
  the first success and behind it.
* `Compute.counted` counts the computations that run.
-/

namespace ImageSelect.Memo

variable {σ α ε : Type}

/-! ## One request -/

section
variable {compute : Compute σ ε α} {w w' : σ}

/-- A computation that fails ends the steps, and what they have written stays. -/
theorem Steps.run_outside_bind {β : Type} {result : Except ε α}
    (h : compute.run.run w = (result, w')) (fields : Fields α) (f : α → Steps σ ε α β) :
    ((Steps.outside compute >>= f).run.run fields).run w =
      match result with
      | .ok value => ((f value).run.run fields).run w'
      | .error e => ((.error e, fields), w') := by
  have hcompute : compute w = (result, w') := h
  have houtside : ((Steps.outside compute).run.run fields).run w = ((result, fields), w') := by
    show (do let p ← compute w; pure ((p.1, fields), p.2) : Id _) = _
    rw [hcompute]
    rfl
  rw [ExceptT.run_bind, StateT.run_bind, StateT.run_bind, houtside]
  cases result <;> rfl

namespace Fields

theorem run_request_filled (compute : Compute σ ε α) (value : α) (w : σ) :
    ((request compute).run.run ⟨true, value⟩).run w = ((.ok value, ⟨true, value⟩), w) :=
  rfl

theorem run_request_ok {value : α} (h : compute.run.run w = (.ok value, w')) (old : α) :
    ((request compute).run.run ⟨false, old⟩).run w = ((.ok value, ⟨true, value⟩), w') :=
  Steps.run_outside_bind h ⟨false, old⟩ _

theorem run_request_error {e : ε} (h : compute.run.run w = (.error e, w')) (old : α) :
    ((request compute).run.run ⟨false, old⟩).run w = ((.error e, ⟨false, old⟩), w') :=
  Steps.run_outside_bind h ⟨false, old⟩ _

/-- A request comes to what `Memo.get` says of the cell, and changes the world if and only if
the computation runs. -/
theorem run_request_eq (compute : Compute σ ε α) (fields : Fields α) (w : σ) :
    let reply := fields.toMemo.get fun _ => (compute.run.run w).1
    ∃ fields', ((request compute).run.run fields).run w =
        ((reply.result, fields'), if reply.computed then (compute.run.run w).2 else w) ∧
      fields'.toMemo = reply.cell := by
  obtain ⟨filled, value⟩ := fields
  cases filled with
  | true => exact ⟨_, run_request_filled compute value w, rfl⟩
  | false =>
    rcases hrun : compute.run.run w with ⟨result, w'⟩
    cases result with
    | ok value' => exact ⟨_, run_request_ok hrun value, rfl⟩
    | error e => exact ⟨_, run_request_error hrun value, rfl⟩

end Fields

end

/-! ## Computations without a cell -/

namespace Compute

/-- Computations fail with some errors, each of them in the world that the ones before it
leave behind. -/
inductive Fail : σ → List (Compute σ ε α) → List ε → σ → Prop where
  | nil {w : σ} : Fail w [] [] w
  | cons {w w₁ w₂ : σ} {compute : Compute σ ε α} {more : List (Compute σ ε α)} {e : ε}
      {errors : List ε} (first : compute.run.run w = (.error e, w₁))
      (rest : Fail w₁ more errors w₂) : Fail w (compute :: more) (e :: errors) w₂

/-- Computations all fail, or there is a first one that gives a value. -/
theorem exists_first_success (computes : List (Compute σ ε α)) :
    ∀ w, (∃ errors w', Fail w computes errors w') ∨
      ∃ before compute after errors w₁ value w₂, computes = before ++ compute :: after ∧
        Fail w before errors w₁ ∧ compute.run.run w₁ = (.ok value, w₂) := by
  induction computes with
  | nil => exact fun w => .inl ⟨[], w, .nil⟩
  | cons compute more ih =>
    intro w
    rcases hrun : compute.run.run w with ⟨result, w'⟩
    cases result with
    | ok value => exact .inr ⟨[], compute, more, [], w, value, w', rfl, .nil, hrun⟩
    | error e =>
      rcases ih w' with ⟨errors, w₂, hfail⟩ | ⟨before, c, after, errors, w₁, value, w₂, rfl,
        hfail, hok⟩
      · exact .inl ⟨e :: errors, w₂, .cons hrun hfail⟩
      · exact .inr ⟨compute :: before, c, after, e :: errors, w₁, value, w₂, rfl,
          .cons hrun hfail, hok⟩

/-- A computation that is counted when it runs. -/
def counted (compute : Compute σ ε α) : Compute (σ × Nat) ε α :=
  ExceptT.mk fun (w, runs) =>
    let (result, w') := compute.run.run w
    (result, w', runs + 1)

theorem run_counted {compute : Compute σ ε α} {w w' : σ} {result : Except ε α}
    (h : compute.run.run w = (result, w')) (runs : Nat) :
    compute.counted.run.run (w, runs) = (result, w', runs + 1) := by
  show (let (result, w') := compute.run.run w; (result, w', runs + 1)) = _
  rw [h]

/-- Counting changes nothing else. -/
theorem Fail.counted {computes : List (Compute σ ε α)} {errors : List ε} {w w' : σ}
    (h : Fail w computes errors w') :
    ∀ runs, Fail (w, runs) (computes.map .counted) errors (w', runs + computes.length) := by
  induction h with
  | nil => exact fun runs => .nil
  | cons first _ ih =>
    intro runs
    rw [List.length_cons, Nat.add_comm _ 1, ← Nat.add_assoc]
    exact .cons (run_counted first runs) (ih (runs + 1))

end Compute

/-! ## Many requests -/

namespace Fields

theorem run_requestAll_cons {compute : Compute σ ε α} {fields fields' : Fields α} {w w' : σ}
    {result : Except ε α} (h : ((request compute).run.run fields).run w = ((result, fields'), w'))
    (more : List (Compute σ ε α)) :
    ((requestAll (compute :: more)).run fields).run w =
      let ((answers, last), w'') := ((requestAll more).run fields').run w'
      (((result, fields') :: answers, last), w'') := by
  rw [requestAll, StateT.run_bind, StateT.run_bind, h]
  rfl

/-- A filled cell gives its value each time. -/
theorem run_requestAll_filled (computes : List (Compute σ ε α)) (value : α) (w : σ) :
    ((requestAll computes).run ⟨true, value⟩).run w =
      ((List.replicate computes.length (.ok value, ⟨true, value⟩), ⟨true, value⟩), w) := by
  induction computes with
  | nil => rfl
  | cons compute more ih =>
    rw [run_requestAll_cons (run_request_filled compute value w) more, ih]
    rfl

/-- While computations fail, each request gives the error of its own, and the cell stays as it
was. -/
theorem run_requestAll_failing {before : List (Compute σ ε α)} {errors : List ε} {w w₁ : σ}
    (h : Compute.Fail w before errors w₁) (more : List (Compute σ ε α)) (old : α) :
    ((requestAll (before ++ more)).run ⟨false, old⟩).run w =
      let ((answers, last), w') := ((requestAll more).run ⟨false, old⟩).run w₁
      ((errors.map (.error ·, ⟨false, old⟩) ++ answers, last), w') := by
  induction h with
  | nil => rfl
  | cons first _ ih =>
    rw [List.cons_append, run_requestAll_cons (run_request_error first old), ih]
    rfl

/-- The first success fills the cell, and no computation behind it runs. -/
theorem run_requestAll_succeeding {before after : List (Compute σ ε α)}
    {compute : Compute σ ε α} {errors : List ε} {value : α} {w w₁ w₂ : σ}
    (hfail : Compute.Fail w before errors w₁) (hok : compute.run.run w₁ = (.ok value, w₂))
    (old : α) :
    ((requestAll (before ++ compute :: after)).run ⟨false, old⟩).run w =
      ((errors.map (.error ·, ⟨false, old⟩) ++
        List.replicate (after.length + 1) (.ok value, ⟨true, value⟩), ⟨true, value⟩), w₂) := by
  rw [run_requestAll_failing hfail, run_requestAll_cons (run_request_ok hok old),
    run_requestAll_filled]
  rfl

end Fields

/-- A request to a cell in any state comes to what `Memo.get` says.  Of requests to a new cell,
each with a computation of its own, either all computations fail: then all have run, each
request gives the error of its own, and the cell is not filled.  Or there is a first one that
gives a value: it and those before it have run, the requests before it give the errors, all
others give the value, and the cell is filled from there on. -/
theorem first_success_kept (nothing : α) (computes : List (Compute σ ε α)) (w : σ) :
    (∀ (fields : Fields α) (compute : Compute σ ε α) (w : σ),
      let reply := fields.toMemo.get fun _ => (compute.run.run w).1
      ∃ fields', ((Fields.request compute).run.run fields).run w =
          ((reply.result, fields'), if reply.computed then (compute.run.run w).2 else w) ∧
        fields'.toMemo = reply.cell) ∧
    let ((answers, _), w', runs) :=
      ((Fields.requestAll (computes.map .counted)).run ⟨false, nothing⟩).run (w, 0)
    (∃ errors, Compute.Fail w computes errors w' ∧ runs = computes.length ∧
      answers = errors.map (.error ·, ⟨false, nothing⟩)) ∨
    ∃ before compute after errors value w₁, computes = before ++ compute :: after ∧
      Compute.Fail w before errors w₁ ∧ compute.run.run w₁ = (.ok value, w') ∧
      runs = before.length + 1 ∧
      answers = errors.map (.error ·, ⟨false, nothing⟩) ++
        List.replicate (after.length + 1) (.ok value, ⟨true, value⟩) := by
  refine ⟨fun fields compute w => Fields.run_request_eq compute fields w, ?history⟩
  case history =>
    rcases Compute.exists_first_success computes w with ⟨errors, w', hfail⟩ | ⟨before, compute,
      after, errors, w₁, value, w₂, rfl, hfail, hok⟩
    · have hrun := Fields.run_requestAll_failing (hfail.counted 0) [] nothing
      rw [List.append_nil] at hrun
      rw [hrun]
      refine .inl ⟨errors, hfail, Nat.zero_add _, ?_⟩
      exact List.append_nil _
    · have hcounted := Compute.run_counted hok (0 + before.length)
      rw [List.map_append, List.map_cons,
        Fields.run_requestAll_succeeding (hfail.counted 0) hcounted, List.length_map]
      exact .inr ⟨before, compute, after, errors, value, w₁, rfl, hfail, hok,
        congrArg (· + 1) (Nat.zero_add _), rfl⟩

/-- A value that says that there is nothing is kept like any other. -/
example :
    let computes : List (Compute Unit String (Option Nat)) :=
      [throw "late", return none, return some 1]
    (((Fields.requestAll computes).run ⟨false, none⟩).run ()).1.1 =
      [(.error "late", ⟨false, none⟩), (.ok none, ⟨true, none⟩), (.ok none, ⟨true, none⟩)] :=
  rfl

end ImageSelect.Memo
