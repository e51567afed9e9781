import Mathlib.Data.Finset.Card
import Mathlib.Data.List.Nodup

/-!
# What was used last

Items that are used one after the other stand in a list, the last one in front.
`recent` is the distinct ones among them, up to a number.

* `recent_cons_of_mem` and `recent_cons_of_not_mem` say what one more use does.
* `mem_recent_iff` says that an item is among the last ones if fewer others have
  been used since.
-/

namespace ImageSelect.Filter

section
variable {α : Type} [DecidableEq α]

/-- Dropping items and dropping repetitions can be done in either order. -/
theorem eraseDups_filter (items : List α) :
    ∀ p : α → Bool, (items.filter p).eraseDups = items.eraseDups.filter p := by
  induction items with
  | nil => exact fun _ => rfl
  | cons item items ih =>
    intro p
    rw [List.eraseDups_cons, ih]
    cases hp : p item with
    | true =>
      rw [List.filter_cons_of_pos hp, List.filter_cons_of_pos hp, List.eraseDups_cons,
        List.filter_filter, ih, List.filter_filter]
      simp only [Bool.and_comm]
    | false =>
      have hp' : ¬p item = true := by simp [hp]
      rw [List.filter_cons_of_neg hp', List.filter_cons_of_neg hp', ih, List.filter_filter]
      refine List.filter_congr fun other _ => ?_
      by_cases heq : other = item
      · simp [heq, hp]
      · simp [heq]

theorem eraseDups_cons_eq (item : α) (items : List α) :
    (item :: items).eraseDups = item :: items.eraseDups.filter (· ≠ item) := by
  rw [List.eraseDups_cons, eraseDups_filter]
  refine congrArg _ (List.filter_congr fun other _ => ?_)
  by_cases heq : other = item <;> simp [heq]

theorem nodup_eraseDups (items : List α) : items.eraseDups.Nodup := by
  induction items with
  | nil => exact List.nodup_nil
  | cons item items ih =>
    rw [eraseDups_cons_eq, List.nodup_cons]
    exact ⟨by simp, ih.filter _⟩

/-- The distinct items at the front of a list, up to a number of them. -/
def recent (n : Nat) (items : List α) : List α :=
  items.eraseDups.take n

theorem length_recent_le (n : Nat) (items : List α) : (recent n items).length ≤ n :=
  List.length_take_le n _

theorem filter_ne_of_not_mem {item : α} {items : List α} (hmem : item ∉ items) :
    items.filter (· ≠ item) = items := by
  rw [List.filter_eq_self]
  intro other hother
  simpa using ne_of_mem_of_not_mem hother hmem

theorem filter_take_of_mem {item : α} {items : List α} (hnd : items.Nodup) :
    ∀ {n : Nat}, item ∈ items.take (n + 1) →
      (items.take (n + 1)).filter (· ≠ item) = (items.filter (· ≠ item)).take n := by
  induction items with
  | nil => simp
  | cons other items ih =>
    intro n hmem
    obtain ⟨hother, hnd⟩ := List.nodup_cons.1 hnd
    rw [List.take_succ_cons] at hmem ⊢
    by_cases heq : other = item
    · subst heq
      have hfront : other ∉ items.take n := fun h => hother (List.mem_of_mem_take h)
      rw [List.filter_cons_of_neg (by simp), List.filter_cons_of_neg (by simp),
        filter_ne_of_not_mem hother, filter_ne_of_not_mem hfront]
    · have hrest : item ∈ items.take n := (List.mem_cons.1 hmem).resolve_left fun h => heq h.symm
      cases n with
      | zero => simp at hrest
      | succ n =>
        rw [List.filter_cons_of_pos (by simpa using heq),
          List.filter_cons_of_pos (by simpa using heq), List.take_succ_cons, ih hnd hrest]

theorem take_filter_of_not_mem {item : α} {items : List α} {n : Nat}
    (hmem : item ∉ items.take n) : (items.filter (· ≠ item)).take n = items.take n := by
  induction items generalizing n with
  | nil => rfl
  | cons other items ih =>
    cases n with
    | zero => rfl
    | succ n =>
      rw [List.take_succ_cons, List.mem_cons, not_or] at hmem
      have hne : other ≠ item := fun h => hmem.1 h.symm
      rw [List.filter_cons_of_pos (by simpa using hne), List.take_succ_cons, ih hmem.2,
        List.take_succ_cons]

/-- An item that was used again moves to the front. -/
theorem recent_cons_of_mem {item : α} {items : List α} {n : Nat} (hmem : item ∈ recent n items) :
    recent n (item :: items) = item :: (recent n items).filter (· ≠ item) := by
  unfold recent at *
  cases n with
  | zero => simp at hmem
  | succ n =>
    rw [eraseDups_cons_eq, List.take_succ_cons, filter_take_of_mem (nodup_eraseDups items) hmem]

/-- A new item takes the place of the one that was used longest ago. -/
theorem recent_cons_of_not_mem {item : α} {items : List α} {n : Nat}
    (hmem : item ∉ recent n items) :
    recent n (item :: items) = (item :: recent n items).take n := by
  unfold recent at *
  cases n with
  | zero => rfl
  | succ n =>
    have hfront : item ∉ items.eraseDups.take n := fun h =>
      hmem ((List.take_subset_take_left _ (Nat.le_succ n)) h)
    rw [eraseDups_cons_eq, List.take_succ_cons, List.take_succ_cons,
      take_filter_of_not_mem hfront, List.take_take, Nat.min_eq_left (Nat.le_succ n)]

/-- An item comes after the distinct ones that stand in front of it. -/
theorem idxOf_eraseDups {item : α} {items : List α} (hmem : item ∈ items) :
    items.eraseDups.idxOf item = (items.takeWhile (· ≠ item)).toFinset.card := by
  obtain ⟨front, rest, rfl, hfront⟩ := List.eq_append_cons_of_mem hmem
  have htake : (front ++ item :: rest).takeWhile (· ≠ item) = front := by
    rw [List.takeWhile_append_of_pos (by simpa using fun other h => ne_of_mem_of_not_mem h hfront),
      List.takeWhile_cons_of_neg (by simp), List.append_nil]
  have hdistinct : front.toFinset.card = front.eraseDups.length := by
    rw [← List.toFinset_card_of_nodup (nodup_eraseDups front)]
    congr 1
    ext
    simp
  have hback : ((item :: rest).removeAll front).eraseDups.idxOf item = 0 := by
    have hkept : (item :: rest).removeAll front = item :: rest.removeAll front := by
      simp [List.removeAll, hfront]
    rw [hkept, List.eraseDups_cons, List.idxOf_cons_self]
  rw [htake, hdistinct, List.eraseDups_append,
    List.idxOf_append_of_notMem (by simpa using hfront), hback, Nat.add_zero]

/-- An item is among the last ones if fewer others have been used since. -/
theorem mem_recent_iff {item : α} {items : List α} {n : Nat} :
    item ∈ recent n items ↔
      item ∈ items ∧ (items.takeWhile (· ≠ item)).toFinset.card < n := by
  unfold recent
  by_cases hmem : item ∈ items
  · rw [List.mem_take_iff_idxOf_lt (List.mem_eraseDups.2 hmem), idxOf_eraseDups hmem]
    simp [hmem]
  · have hnot : item ∉ items.eraseDups.take n := fun h =>
      hmem (List.mem_eraseDups.1 (List.mem_of_mem_take h))
    simp [hmem, hnot]

end

end ImageSelect.Filter
