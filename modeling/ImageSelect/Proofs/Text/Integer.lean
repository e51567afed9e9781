import Mathlib.Algebra.Group.Nat.Defs
import ImageSelect.Text.Integer

/-!
# Integers within the limit

A number can be written exactly when it is below `10 ^ digitLimit`, and then its
text determines it.  What has been read can be written.
-/

namespace ImageSelect.Text

/-! ## Writing -/

/-- The numbers that can be written are those below a power of ten. -/
theorem writable_iff (n : Nat) : Writable n ↔ n < 10 ^ digitLimit :=
  Nat.length_toDigits_le_iff (by decide) (by decide)

/-- What is no larger than a number that can be written can be written. -/
theorem Writable.mono {m n : Nat} (h : Writable n) (hle : m ≤ n) : Writable m :=
  (writable_iff m).2 (Nat.lt_of_le_of_lt hle ((writable_iff n).1 h))

theorem writeNumber_of_writable {n : Nat} (h : Writable n) : writeNumber n = .ok (toString n) :=
  if_pos h

theorem writeNumber_of_not_writable {n : Nat} (h : ¬Writable n) : writeNumber n = .error .tooLong :=
  if_neg h

theorem writeNumber_eq_ok_iff {n : Nat} {text : String} :
    writeNumber n = .ok text ↔ Writable n ∧ text = toString n := by
  by_cases h : Writable n
  · rw [writeNumber_of_writable h, Except.ok.injEq]
    exact ⟨fun heq => ⟨h, heq.symm⟩, fun hn => hn.2.symm⟩
  · rw [writeNumber_of_not_writable h]
    exact ⟨fun heq => (nomatch heq), fun hn => absurd hn.1 h⟩

/-- The first number that cannot be written. -/
theorem not_writable_pow : ¬Writable (10 ^ digitLimit) :=
  fun h => absurd ((writable_iff _).1 h) (Nat.lt_irrefl _)

/-! ## Reading -/

theorem decimalValue?_lt {c : Char} {d : Nat} (h : Unicode.decimalValue? c = some d) : d < 10 := by
  unfold Unicode.decimalValue? at h
  split at h
  · split at h
    · rename_i hdigit
      obtain rfl := Option.some.inj h
      have hle : c.toNat ≤ 57 := (Char.isDigit_iff_toNat.1 hdigit).2
      omega
    · cases h
  · obtain ⟨start, hfind, rfl⟩ := Option.map_eq_some_iff.1 h
    have hstart := Array.find?_some hfind
    simp only [Bool.and_eq_true, decide_eq_true_eq] at hstart
    omega

theorem digitValues_lt : ∀ {text : List Char} {digits : List Nat},
    digitValues text = some digits → ∀ d ∈ digits, d < 10 := by
  intro text
  fun_induction digitValues text with
  | case1 => exact fun h => nomatch h
  | case2 c =>
    intro digits h d hd
    obtain ⟨d', hvalue, rfl⟩ := Option.map_eq_some_iff.1 h
    obtain rfl := List.mem_singleton.1 hd
    exact decimalValue?_lt hvalue
  | case3 c rest ih | case4 c rest _ _ ih =>
    intro digits h d hd
    simp only [Option.bind_eq_bind, Option.bind_eq_some_iff, Option.pure_def,
      Option.some.injEq] at h
    obtain ⟨d', hvalue, ds, hds, rfl⟩ := h
    rcases List.mem_cons.1 hd with rfl | hd
    · exact decimalValue?_lt hvalue
    · exact ih hds d hd

/-- Digits stand for a number below the power of ten with their number. -/
theorem foldl_digits_lt {digits : List Nat} (h : ∀ d ∈ digits, d < 10) (n : Nat) :
    digits.foldl (fun n d => n * 10 + d) n < (n + 1) * 10 ^ digits.length := by
  induction digits generalizing n with
  | nil => simp
  | cons d digits ih =>
    obtain ⟨hd, hdigits⟩ := List.forall_mem_cons.1 h
    calc (d :: digits).foldl (fun n d => n * 10 + d) n
        < (n * 10 + d + 1) * 10 ^ digits.length := ih hdigits _
      _ ≤ ((n + 1) * 10) * 10 ^ digits.length := Nat.mul_le_mul_right _ (by omega)
      _ = (n + 1) * 10 ^ (d :: digits).length := by
        rw [List.length_cons, Nat.pow_succ', Nat.mul_assoc]

theorem writable_ofDigits {digits : List Nat} (h : ∀ d ∈ digits, d < 10)
    (hlength : digits.length ≤ digitLimit) : Writable (ofDigits digits) := by
  have hlt := foldl_digits_lt h 0
  rw [Nat.zero_add, Nat.one_mul] at hlt
  exact (writable_iff _).2 (Nat.lt_of_lt_of_le hlt (Nat.pow_le_pow_right (by decide) hlength))

theorem readMagnitude_writable {negative : Bool} {text : List Char} {n : Int}
    (h : readMagnitude negative text = .value n) : Writable n.natAbs := by
  unfold readMagnitude at h
  split at h
  · cases h
  · rename_i digits hdigits
    split at h
    · cases h
    · rename_i hlength
      have hwritable := writable_ofDigits (digitValues_lt hdigits) (Nat.le_of_not_lt hlength)
      split at h
      · obtain rfl := IntegerReading.value.inj h
        rwa [Int.natAbs_neg, Int.natAbs_natCast]
      · obtain rfl := IntegerReading.value.inj h
        rwa [Int.natAbs_natCast]

/-- An integer that has been read can be written. -/
theorem readInteger_writable {text : List Char} {n : Int} (h : readInteger text = .value n) :
    Writable n.natAbs := by
  unfold readInteger at h
  split at h <;> exact readMagnitude_writable h

end ImageSelect.Text
