import ImageSelect.Selection.Planes

/-!
# The order of planes

The planes of a file are numbered from zero.  The plane with a number has the quotient by the count
of frames as its series, and the remainder as its frame.

* The list of all planes.  `allPlanes_eq_map` is the step from two nested ranges to the numbers.
* Planes handed over one at a time.  `Enumeration.Handed` says how many have been handed over;
  `Enumeration.Handed.next` is the one step, and `Enumeration.Handed.take` the run of several.
* `planes_numbered_in_order` is the result about both.
-/

namespace ImageSelect

/-- The plane with a number. -/
def planeAt (file : ImageFile) (frames number : Nat) : Plane :=
  ⟨file, number / frames, number % frames⟩

variable {file : ImageFile} {series frames : Nat}

/-! ## Numbers of planes -/

theorem counts_iff {n m : Int} : (n < 1 || m < 1) = true ↔ n < 1 ∨ m < 1 := by
  rw [Bool.or_eq_true, decide_eq_true_eq, decide_eq_true_eq]

theorem planeAt_eq (file : ImageFile) {s f : Nat} (hf : f < frames) :
    planeAt file frames (s * frames + f) = ⟨file, s, f⟩ := by
  have hpos : 0 < frames := by omega
  have hseries : (s * frames + f) / frames = s := by
    rw [Nat.mul_comm, Nat.mul_add_div hpos, Nat.div_eq_of_lt hf, Nat.add_zero]
  have hframe : (s * frames + f) % frames = f := by
    rw [Nat.mul_comm, Nat.mul_add_mod, Nat.mod_eq_of_lt hf]
  rw [planeAt, hseries, hframe]

/-- The number of a plane is below the number of planes. -/
theorem number_lt {s f : Nat} (hs : s < series) (hf : f < frames) :
    s * frames + f < series * frames := by
  have hnext : (s + 1) * frames ≤ series * frames := Nat.mul_le_mul_right _ hs
  rw [Nat.succ_mul] at hnext
  omega

/-- Numbers that are not negative make a plane. -/
theorem Plane.ofNumbers_natCast (file : ImageFile) (s f : Nat) :
    Plane.ofNumbers file s f = .ok ⟨file, s, f⟩ := by
  have hs : ¬(s : Int) < 0 := by omega
  have hf : ¬(f : Int) < 0 := by omega
  rw [Plane.ofNumbers, if_neg hs, if_neg hf, Int.toNat_natCast, Int.toNat_natCast]

/-- Planes with different numbers are different. -/
theorem planeAt_beq_iff (file : ImageFile) (frames j k : Nat) :
    (planeAt file frames j == planeAt file frames k) = true ↔ j = k := by
  rw [Plane.beq_iff]
  constructor
  · rintro ⟨-, hseries, hframe⟩
    have hj := Nat.div_add_mod j frames
    have hk := Nat.div_add_mod k frames
    have hquotient : j / frames = k / frames := hseries
    have hrest : j % frames = k % frames := hframe
    rw [← hj, ← hk, hquotient, hrest]
  · rintro rfl
    exact ⟨rfl, rfl, rfl⟩

/-! ## All planes -/

/-- The planes series by series are the planes number by number. -/
theorem allPlanes_eq_map (file : ImageFile) (series frames : Nat) :
    allPlanes file series frames = (List.range (series * frames)).map (planeAt file frames) := by
  induction series with
  | zero => simp [allPlanes]
  | succ series ih =>
    have hlast : ((List.range frames).map (series * frames + ·)).map (planeAt file frames) =
        (List.range frames).map fun f => ⟨file, series, f⟩ := by
      rw [List.map_map]
      refine List.map_congr_left fun f hf => ?_
      exact planeAt_eq file (List.mem_range.1 hf)
    have hbefore : allPlanes file (series + 1) frames =
        allPlanes file series frames ++ (List.range frames).map fun f => ⟨file, series, f⟩ := by
      simp [allPlanes, List.range_succ]
    rw [hbefore, ih, ← hlast, Nat.succ_mul, List.range_add, List.map_append]

theorem length_allPlanes (file : ImageFile) (series frames : Nat) :
    (allPlanes file series frames).length = series * frames := by
  rw [allPlanes_eq_map, List.length_map, List.length_range]

theorem getElem?_allPlanes {k : Nat} (hk : k < series * frames) :
    (allPlanes file series frames)[k]? = some (planeAt file frames k) := by
  rw [allPlanes_eq_map, List.getElem?_map, List.getElem?_range hk]
  rfl

theorem mem_allPlanes_iff {p : Plane} :
    p ∈ allPlanes file series frames ↔ p.file = file ∧ p.series < series ∧ p.frame < frames := by
  obtain ⟨file', s, f⟩ := p
  simp only [allPlanes, List.mem_flatMap, List.mem_map, List.mem_range, Plane.mk.injEq]
  constructor
  · rintro ⟨s', hs, f', hf, rfl, rfl, rfl⟩
    exact ⟨rfl, hs, hf⟩
  · rintro ⟨rfl, hs, hf⟩
    exact ⟨s, hs, f, hf, rfl, rfl, rfl⟩

/-- There is a plane for every pair of numbers below the counts, and for no other. -/
theorem exists_mem_allPlanes_iff {s f : Int} :
    (∃ p ∈ allPlanes file series frames, (p.series : Int) = s ∧ (p.frame : Int) = f) ↔
      (0 ≤ s ∧ s < series) ∧ 0 ≤ f ∧ f < frames := by
  constructor
  · rintro ⟨p, hp, rfl, rfl⟩
    obtain ⟨-, hs, hf⟩ := mem_allPlanes_iff.1 hp
    omega
  · rintro ⟨⟨hs, hseries⟩, hf, hframes⟩
    obtain ⟨s, rfl⟩ := Int.eq_ofNat_of_zero_le hs
    obtain ⟨f, rfl⟩ := Int.eq_ofNat_of_zero_le hf
    exact ⟨⟨file, s, f⟩,
      mem_allPlanes_iff.2 ⟨rfl, Int.ofNat_lt.1 hseries, Int.ofNat_lt.1 hframes⟩, rfl, rfl⟩

/-- The plane with a number that is below the number of planes. -/
theorem exists_getElem?_allPlanes {k : Nat} (hk : (k : Int) < series * frames) :
    ∃ p : Plane, (allPlanes file series frames)[k]? = some p ∧
      (p.series : Int) = k / frames ∧ (p.frame : Int) = k % frames ∧
      Plane.ofNumbers file (k / frames) (k % frames) = .ok p := by
  have hlt : k < series * frames := by exact_mod_cast hk
  refine ⟨planeAt file frames k, getElem?_allPlanes hlt, Int.natCast_ediv k frames,
    Int.natCast_emod k frames, ?_⟩
  rw [← Int.natCast_ediv, ← Int.natCast_emod, Plane.ofNumbers_natCast, planeAt]

theorem pairwise_allPlanes (file : ImageFile) (series frames : Nat) :
    (allPlanes file series frames).Pairwise fun p q => (p == q) = false := by
  rw [allPlanes_eq_map, List.pairwise_map]
  refine List.pairwise_lt_range.imp fun {j k} hlt => ?_
  exact Bool.eq_false_iff.2 fun h => Nat.ne_of_lt hlt ((planeAt_beq_iff file frames j k).1 h)

/-! ## One plane at a time -/

namespace Enumeration

section
variable {n m : Int} {s f : Nat}

theorem next_start_of_counts (h : n < 1 ∨ m < 1) :
    ({ file, series := n, frames := m } : Enumeration).next =
      (.error ⟨n, m⟩, ⟨file, n, m, .over⟩) :=
  if_pos (counts_iff.2 h)

theorem next_start (hn : 0 < n) (hm : 0 < m) :
    ({ file, series := n, frames := m } : Enumeration).next =
      (.ok (some ⟨file, 0, 0⟩), ⟨file, n, m, .behind 0 0⟩) := by
  have hcounts : ¬(n < 1 ∨ m < 1) := by omega
  exact if_neg (mt counts_iff.1 hcounts)

/-- There is one more frame in the series. -/
theorem next_behind_of_frame (hframe : (f + 1 : Int) < m) :
    (⟨file, n, m, .behind s f⟩ : Enumeration).next =
      (.ok (some ⟨file, s, f + 1⟩), ⟨file, n, m, .behind s (f + 1)⟩) :=
  if_pos hframe

/-- There is one more series behind the last frame of one. -/
theorem next_behind_of_series (hframe : ¬(f + 1 : Int) < m) (hseries : (s + 1 : Int) < n) :
    (⟨file, n, m, .behind s f⟩ : Enumeration).next =
      (.ok (some ⟨file, s + 1, 0⟩), ⟨file, n, m, .behind (s + 1) 0⟩) :=
  (if_neg hframe).trans (if_pos hseries)

/-- There is nothing behind the last frame of the last series. -/
theorem next_behind_of_neither (hframe : ¬(f + 1 : Int) < m) (hseries : ¬(s + 1 : Int) < n) :
    (⟨file, n, m, .behind s f⟩ : Enumeration).next = (.ok none, ⟨file, n, m, .over⟩) :=
  (if_neg hframe).trans (if_neg hseries)

/-- An enumeration that is over stays so. -/
theorem take_over (n m : Int) (limit : Nat) :
    (⟨file, n, m, .over⟩ : Enumeration).take limit = .ok [] := by
  cases limit with
  | zero => rfl
  | succ limit => rfl

end

/-- An enumeration of the planes of a file has handed over a number of them, and is not over. -/
inductive Handed (file : ImageFile) (series frames : Nat) : Nat → Enumeration → Prop
  | start : Handed file series frames 0 { file, series, frames }
  | behind {s f : Nat} (hs : s < series) (hf : f < frames) :
      Handed file series frames (s * frames + f + 1) ⟨file, series, frames, .behind s f⟩

variable {e : Enumeration} {k : Nat}

/-- The plane that comes next is the one with the number of those handed over.  The enumeration is
over as soon as there is no such plane. -/
theorem Handed.next (h : Handed file series frames k e) (hseries : 0 < series)
    (hframes : 0 < frames) :
    (k < series * frames ∧ ∃ e', e.next = (.ok (some (planeAt file frames k)), e') ∧
        Handed file series frames (k + 1) e') ∨
      (k = series * frames ∧ e.next = (.ok none, ⟨file, series, frames, .over⟩)) := by
  cases h with
  | start =>
    have hfirst : planeAt file frames 0 = ⟨file, 0, 0⟩ := by
      simpa using planeAt_eq (s := 0) file hframes
    have hhanded : Handed file series frames 1 ⟨file, series, frames, .behind 0 0⟩ := by
      have hbehind : Handed file series frames (0 * frames + 0 + 1)
          ⟨file, series, frames, .behind (0 : Nat) (0 : Nat)⟩ := .behind hseries hframes
      rwa [Nat.zero_mul] at hbehind
    refine .inl ⟨Nat.mul_pos hseries hframes, _, ?_, hhanded⟩
    rw [hfirst]
    exact next_start (by omega) (by omega)
  | @behind s f hs hf =>
    by_cases hframe : f + 1 < frames
    · refine .inl ⟨number_lt hs hframe, _, ?_, .behind hs hframe⟩
      rw [Nat.add_assoc, planeAt_eq file hframe]
      exact next_behind_of_frame (by omega)
    · have hlast : ¬((f : Int) + 1) < frames := by omega
      -- Behind the last frame stands the number of the first plane of the next series.
      have hnumber : s * frames + f + 1 = (s + 1) * frames + 0 := by
        rw [Nat.succ_mul]
        omega
      by_cases hmore : s + 1 < series
      · rw [hnumber, planeAt_eq file hframes]
        refine .inl ⟨number_lt hmore hframes, _, ?_, .behind hmore hframes⟩
        exact next_behind_of_series hlast (by omega)
      · obtain rfl : series = s + 1 := by omega
        exact .inr ⟨hnumber, next_behind_of_neither hlast (by omega)⟩

/-- Asking again and again gives the planes with the next numbers, as many as there are. -/
theorem Handed.take (h : Handed file series frames k e) (hseries : 0 < series)
    (hframes : 0 < frames) (limit : Nat) :
    e.take limit = .ok (((allPlanes file series frames).drop k).take limit) := by
  induction limit generalizing k e with
  | zero => simp [Enumeration.take]
  | succ limit ih =>
    rw [Enumeration.take]
    rcases h.next hseries hframes with ⟨hk, e', hnext, h'⟩ | ⟨hk, hnext⟩
    · have hlength : k < (allPlanes file series frames).length := by
        rwa [length_allPlanes]
      have hget : (allPlanes file series frames)[k] = planeAt file frames k :=
        Option.some.inj ((List.getElem?_eq_getElem hlength).symm.trans (getElem?_allPlanes hk))
      rw [hnext, List.drop_eq_getElem_cons hlength, hget, List.take_succ_cons]
      dsimp only
      rw [ih h']
      rfl
    · have hdrop : (allPlanes file series frames).drop k = [] := by
        apply List.drop_of_length_le
        exact Nat.le_of_eq (by rw [length_allPlanes, hk])
      rw [hnext, hdrop]
      rfl

end Enumeration

/-! ## Both ways -/

theorem planes_of_counts {n m : Int} (h : n < 1 ∨ m < 1) : planes file n m = .error ⟨n, m⟩ :=
  if_pos (counts_iff.2 h)

theorem planes_of_pos (hseries : 0 < series) (hframes : 0 < frames) :
    planes file series frames = .ok (allPlanes file series frames) :=
  if_neg (mt counts_iff.1 (by omega))

theorem firstPlanes_of_pos (hseries : 0 < series) (hframes : 0 < frames) (limit : Nat) :
    firstPlanes limit file series frames = .ok ((allPlanes file series frames).take limit) :=
  Enumeration.Handed.start.take hseries hframes limit

/-- The planes of a file come completely, in order and once each.  Nothing is looked at before the
first plane is asked for.  That demand is refused exactly if one of the counts is below one; then
no plane is handed over, then or later.  Otherwise there are as many planes as the product of the
counts, all of the file and no two equal.  Counted from zero, a plane has the quotient of its
number by the count of frames as its series and the remainder as its frame, and these numbers make
a plane; so there is a plane for every pair of numbers below the counts, and for no other.  Asking
a number of times gives as many of the first planes, or all that there are. -/
theorem planes_numbered_in_order (file : ImageFile) (series frames : Int) :
    let e : Enumeration := { file, series, frames }
    firstPlanes 0 file series frames = .ok [] ∧
    ((∃ why, e.next.1 = .error why) ↔ series < 1 ∨ frames < 1) ∧
    (series < 1 ∨ frames < 1 →
      e.next.1 = .error ⟨series, frames⟩ ∧ planes file series frames = .error ⟨series, frames⟩ ∧
      ∀ limit : Nat, firstPlanes (limit + 1) file series frames = .error ⟨series, frames⟩ ∧
        e.next.2.take limit = .ok []) ∧
    (1 ≤ series ∧ 1 ≤ frames → ∃ all : List Plane,
      planes file series frames = .ok all ∧
      (all.length : Int) = series * frames ∧
      (∀ p ∈ all, p.file = file) ∧
      all.Pairwise (fun p q => (p == q) = false) ∧
      (∀ k : Nat, (k : Int) < series * frames → ∃ p : Plane, all[k]? = some p ∧
        (p.series : Int) = k / frames ∧ (p.frame : Int) = k % frames ∧
        Plane.ofNumbers file (k / frames) (k % frames) = .ok p) ∧
      (∀ s f : Int, (∃ p ∈ all, (p.series : Int) = s ∧ (p.frame : Int) = f) ↔
        (0 ≤ s ∧ s < series) ∧ 0 ≤ f ∧ f < frames) ∧
      ∀ limit : Nat, firstPlanes limit file series frames = .ok (all.take limit) ∧
        ((all.take limit).length : Int) = min (limit : Int) (series * frames)) := by
  intro e
  by_cases hcounts : series < 1 ∨ frames < 1
  · have hnext : e.next = (.error ⟨series, frames⟩, ⟨file, series, frames, .over⟩) :=
      Enumeration.next_start_of_counts hcounts
    refine ⟨rfl, iff_of_true ⟨_, congrArg Prod.fst hnext⟩ hcounts, fun _ => ?refused,
      fun hpos => by omega⟩
    case refused =>
      refine ⟨congrArg Prod.fst hnext, planes_of_counts hcounts, fun limit => ⟨?_, ?_⟩⟩
      · show e.take (limit + 1) = _
        rw [Enumeration.take, hnext]
      · rw [hnext]
        exact Enumeration.take_over series frames limit
  · obtain ⟨n, rfl⟩ := Int.eq_ofNat_of_zero_le (a := series) (by omega)
    obtain ⟨m, rfl⟩ := Int.eq_ofNat_of_zero_le (a := frames) (by omega)
    have hn : 0 < n := by omega
    have hm : 0 < m := by omega
    have hnext : e.next = (.ok (some ⟨file, 0, 0⟩), ⟨file, n, m, .behind 0 0⟩) :=
      Enumeration.next_start (by omega) (by omega)
    refine ⟨rfl, iff_of_false (by simp [hnext]) hcounts, fun h => absurd h hcounts, fun _ =>
      ⟨allPlanes file n m, planes_of_pos hn hm, ?count, ?files, pairwise_allPlanes file n m,
        fun k hk => exists_getElem?_allPlanes hk, fun s f => exists_mem_allPlanes_iff, ?first⟩⟩
    case count => rw [length_allPlanes, Int.natCast_mul]
    case files => exact fun p hp => (mem_allPlanes_iff.1 hp).1
    case first =>
      intro limit
      refine ⟨firstPlanes_of_pos hn hm limit, ?_⟩
      rw [List.length_take, length_allPlanes]
      omega

/-- The statement for a file with two series of three frames, whose planes are asked for four
times, and for a file without frames. -/
theorem planes_numbered_in_order_two_series :
    let file : ImageFile := { url := "file:///a.tif" }
    (1 ≤ (2 : Int) ∧ 1 ≤ (3 : Int)) ∧
    (∃ all : List Plane, planes file 2 3 = .ok all ∧ all.length = 6 ∧
      ∃ p : Plane, all[4]? = some p ∧ p.series = 1 ∧ p.frame = 1) ∧
    ((2 : Int) < 1 ∨ (0 : Int) < 1) ∧ firstPlanes 1 file 2 0 = .error ⟨2, 0⟩ := by
  intro file
  obtain ⟨-, -, -, hplanes⟩ := planes_numbered_in_order file 2 3
  obtain ⟨all, hall, hlength, -, -, hnumbers, -⟩ := hplanes (by decide)
  obtain ⟨p, hp, hseries, hframe, -⟩ := hnumbers 4 (by decide)
  obtain ⟨-, -, hrefused, -⟩ := planes_numbered_in_order file 2 0
  obtain ⟨-, -, hfirst⟩ := hrefused (by decide)
  refine ⟨by decide, ⟨all, hall, by omega, p, hp, ?_, ?_⟩, by decide, (hfirst 0).1⟩
  · have hquotient : (p.series : Int) = 1 := hseries
    omega
  · have hrest : (p.frame : Int) = 1 := hframe
    omega

end ImageSelect
