import Mathlib.Data.List.Infix
import ImageSelect.StringCache

/-!
# Caches through which texts have passed

`StringCache.After` says that a cache was empty once and that certain texts have passed through it
since.  Such a cache holds these texts, each with the ticket that it got when it came in first.

* `After.intern` is the one step that there is.
* `instanceOf_stable`: the instance of a text stays the same while others pass.
* `After.contains_iff` and `After.getElem?_kept` say what a cache holds, and that it keeps it.
-/

namespace ImageSelect.StringCache

/-- The instance of a text in a cache through which texts have passed.  Its ticket is the number
of other texts that came in before it. -/
def instanceOf (passed : List String) (text : String) : Interned :=
  ⟨text, passed.eraseDups.idxOf text⟩

/-- A cache holds what has passed through it: every text once, with the ticket of the instance
that came in first. -/
structure After (cache : StringCache) (passed : List String) : Prop where
  size : cache.size = passed.eraseDups.length
  ticket : ∀ text, cache.tickets[text]? =
    if text ∈ passed then some (instanceOf passed text).ticket else none

variable {cache cache' : StringCache} {passed total : List String} {text : String} {ticket : Nat}

theorem after_empty : After {} [] where
  size := rfl
  ticket text := by simp

/-! ## Texts that pass -/

theorem eraseDups_concat_of_mem (h : text ∈ passed) :
    (passed ++ [text]).eraseDups = passed.eraseDups := by
  simp [List.eraseDups_append, List.removeAll, h]

theorem eraseDups_concat_of_not_mem (h : text ∉ passed) :
    (passed ++ [text]).eraseDups = passed.eraseDups ++ [text] := by
  simp [List.eraseDups_append, List.removeAll, h, List.eraseDups_cons]

/-- The instance of a text stays the same, whatever passes after it. -/
theorem instanceOf_stable (h : passed <+: total) (hmem : text ∈ passed) :
    instanceOf passed text = instanceOf total text := by
  obtain ⟨more, rfl⟩ := h
  rw [instanceOf, instanceOf, List.eraseDups_append,
    List.idxOf_append_of_mem (List.mem_eraseDups.2 hmem)]

/-- A text that is new gets the number of texts that a cache holds for its ticket. -/
theorem instanceOf_concat_of_not_mem (h : text ∉ passed) :
    instanceOf (passed ++ [text]) text = ⟨text, passed.eraseDups.length⟩ := by
  have hnot : text ∉ passed.eraseDups := fun hmem => h (List.mem_eraseDups.1 hmem)
  rw [instanceOf, eraseDups_concat_of_not_mem h, List.idxOf_append_of_notMem hnot,
    List.idxOf_cons_self, Nat.add_zero]

/-- A text that the cache holds can pass once more. -/
theorem After.concat_of_mem (h : cache.After passed) (hmem : text ∈ passed) :
    cache.After (passed ++ [text]) := by
  refine ⟨by rw [eraseDups_concat_of_mem hmem, h.size], fun other => ?_⟩
  have hother : other ∈ passed ++ [text] ↔ other ∈ passed := by
    rw [List.mem_append, List.mem_singleton]
    exact ⟨fun hor => hor.elim id fun heq => heq ▸ hmem, .inl⟩
  simp only [h.ticket, hother, instanceOf, eraseDups_concat_of_mem hmem]

/-- A text that is new comes in with the number of texts so far for its ticket. -/
theorem After.insert (h : cache.After passed) (hnot : text ∉ passed) :
    After ⟨cache.tickets.insert text cache.size⟩ (passed ++ [text]) := by
  have hout : text ∉ cache.tickets := by
    rw [Std.HashMap.mem_iff_isSome_getElem?, h.ticket, if_neg hnot]
    simp
  have hsize : cache.tickets.size = passed.eraseDups.length := h.size
  refine ⟨?_, fun other => ?_⟩
  · rw [StringCache.size, Std.HashMap.size_insert, if_neg hout, hsize,
      eraseDups_concat_of_not_mem hnot, List.length_append, List.length_singleton]
  · rw [Std.HashMap.getElem?_insert]
    by_cases heq : text = other
    · subst heq
      simp [instanceOf_concat_of_not_mem hnot, h.size]
    · have hother : other ∈ passed ++ [text] ↔ other ∈ passed := by
        simp [Ne.symm heq]
      simp only [beq_iff_eq, if_neg heq, h.ticket, hother]
      split
      · rename_i hin
        rw [instanceOf_stable (List.prefix_append _ _) hin]
      · rfl

/-- Interning a text gives its instance, and the text has passed afterwards. -/
theorem After.intern (h : cache.After passed) (text : String) :
    (cache.intern text).1 = instanceOf (passed ++ [text]) text ∧
      (cache.intern text).2.After (passed ++ [text]) := by
  by_cases hmem : text ∈ passed
  · have hheld : cache.tickets[text]? = some (instanceOf passed text).ticket := by
      rw [h.ticket, if_pos hmem]
    simp only [StringCache.intern, hheld]
    exact ⟨instanceOf_stable (List.prefix_append _ _) hmem, h.concat_of_mem hmem⟩
  · have hnew : cache.tickets[text]? = none := by
      rw [h.ticket, if_neg hmem]
    simp only [StringCache.intern, hnew]
    rw [instanceOf_concat_of_not_mem hmem]
    exact ⟨by rw [h.size], h.insert hmem⟩

/-! ## What a cache holds -/

theorem After.contains_iff (h : cache.After passed) :
    cache.contains text = true ↔ text ∈ passed := by
  rw [contains, Std.HashMap.contains_eq_isSome_getElem?, h.ticket]
  split
  · rename_i hmem
    exact iff_of_true rfl hmem
  · rename_i hmem
    exact iff_of_false (by simp) hmem

/-- What a cache holds it keeps. -/
theorem After.getElem?_kept (h : cache.After passed) (h' : cache'.After total)
    (hfront : passed <+: total) (hheld : cache.tickets[text]? = some ticket) :
    cache'.tickets[text]? = some ticket := by
  rw [h.ticket] at hheld
  split at hheld
  · rename_i hmem
    rw [h'.ticket, if_pos (hfront.subset hmem), ← instanceOf_stable hfront hmem]
    exact hheld
  · contradiction

end ImageSelect.StringCache
