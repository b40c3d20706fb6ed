import Mathlib
import TransitRouting.Proofs.Scenario.WellFormed

/-!
# The schedule of a checked route

A route's departures from its first stop are listed times plus, optionally, a headway: a vehicle
every `every` seconds from `first` to `last`. The check expands the two into one schedule by
sorting all the times and dropping repeats.

The expansion is exact. A time is a headway time exactly when it is `first + k·every` for some
natural `k` and no later than `last` (`mem_times_iff`); the bound on the number of steps taken
never cuts the walk short, whatever the step, and the arithmetic is on natural numbers, so no
time wraps past a word. Dropping the repeats of a sorted list leaves a strictly increasing list
of the same times (`dedupSorted_pairwise_lt`, `mem_dedupSorted`).

## What this module delivers

- `mem_times_iff`: the times of a headway.
- `expandSchedule_pairwise_lt`, `mem_expandSchedule_iff`: a schedule is strictly increasing and
  holds the listed departures and the headway's times, and nothing else.
- `Scenario.ofFile_schedule_exact`: every route of a checked scenario has such a schedule.
-/

set_option autoImplicit false

namespace TransitRouting

/-! ## Headway times -/

/-- With `fuel` steps left from `t`, the walk passes the times `t + k·every` for `k` below the
fuel that are no later than `last`: it stops at the first time past `last`, and every later one
is past it too. -/
theorem mem_timesFrom_iff {every last : Nat} :
    ∀ {fuel t d : Nat}, d ∈ Headway.timesFrom every last fuel t ↔
      ∃ k < fuel, t + k * every = d ∧ d ≤ last
  | 0, t, d => by simp [Headway.timesFrom]
  | fuel + 1, t, d => by
    simp only [Headway.timesFrom]
    split_ifs with ht
    · rw [List.mem_cons, mem_timesFrom_iff]
      constructor
      · rintro (rfl | ⟨k, hk, rfl, hle⟩)
        · exact ⟨0, by omega, by simp, ht⟩
        · exact ⟨k + 1, by omega, by rw [Nat.succ_mul]; omega, hle⟩
      · rintro ⟨k, hk, rfl, hle⟩
        cases k with
        | zero => exact .inl (by simp)
        | succ k => exact .inr ⟨k, by omega, by rw [Nat.succ_mul]; omega, hle⟩
    · simp only [List.not_mem_nil, false_iff, not_exists, not_and]
      intro k _ hd
      omega

/-- The times of a headway are `first + k·every` for every natural `k`, up to `last`. -/
theorem mem_times_iff (h : Headway) (d : Nat) :
    d ∈ h.times ↔ ∃ k, h.first + k * h.every = d ∧ d ≤ h.last := by
  rw [Headway.times, mem_timesFrom_iff]
  constructor
  · rintro ⟨k, -, hk⟩
    exact ⟨k, hk⟩
  · rintro ⟨k, rfl, hle⟩
    rcases Nat.eq_zero_or_pos h.every with hzero | hpos
    · -- no step: every time is `first`, which the walk reaches at once
      exact ⟨0, Nat.succ_pos _, by simp [hzero], by simpa [hzero] using hle⟩
    · -- `k` steps fit between `first` and `last`, so fewer than the fuel
      have hk : k ≤ (h.last - h.first) / max h.every 1 := by
        rw [max_eq_left hpos, Nat.le_div_iff_mul_le hpos]
        omega
      exact ⟨k, by omega, rfl, hle⟩

/-! ## Dropping repeats -/

/-- Dropping the repeats of a list keeps each of its elements. -/
theorem mem_dedupSorted : ∀ {l : List Nat} {d : Nat}, d ∈ dedupSorted l ↔ d ∈ l
  | [], _ => by simp [dedupSorted]
  | [a], _ => by simp [dedupSorted]
  | a :: b :: rest, d => by
    simp only [dedupSorted]
    split_ifs with hab
    · -- the first element repeats the second, which is kept
      rw [mem_dedupSorted, hab]
      simp
    · simp only [List.mem_cons, mem_dedupSorted]

/-- Dropping the repeats of a sorted list leaves it strictly increasing. -/
theorem dedupSorted_pairwise_lt :
    ∀ {l : List Nat}, l.Pairwise (· ≤ ·) → (dedupSorted l).Pairwise (· < ·)
  | [], _ => by simp [dedupSorted]
  | [a], _ => by simp [dedupSorted]
  | a :: b :: rest, hl => by
    have hrest := List.Pairwise.of_cons hl
    simp only [dedupSorted]
    split_ifs with hab
    · exact dedupSorted_pairwise_lt hrest
    · -- `a` is below `b`, and `b` is at most every later element
      refine List.Pairwise.cons (fun x hx => ?_) (dedupSorted_pairwise_lt hrest)
      have hab' : a ≤ b := List.rel_of_pairwise_cons hl List.mem_cons_self
      rcases List.mem_cons.1 (mem_dedupSorted.1 hx) with rfl | hx
      · omega
      · have := List.rel_of_pairwise_cons hrest hx
        omega

/-! ## Schedules -/

/-- A schedule is strictly increasing. -/
theorem expandSchedule_pairwise_lt (departures : List Nat) (headway : Option Headway) :
    (expandSchedule departures headway).toList.Pairwise (· < ·) := by
  simp only [expandSchedule, List.toList_toArray]
  refine dedupSorted_pairwise_lt ((@List.pairwise_mergeSort _ (fun a b => decide (a ≤ b))
    ?_ ?_ _).imp ?_)
  · intro a b c hab hbc
    simp only [decide_eq_true_eq] at *
    omega
  · intro a b
    simp only [Bool.or_eq_true, decide_eq_true_eq]
    omega
  · intro a b h
    simpa using h

/-- A schedule holds exactly the listed departures and the times of the headway. -/
theorem mem_expandSchedule_iff (departures : List Nat) (headway : Option Headway) (d : Nat) :
    d ∈ expandSchedule departures headway ↔
      d ∈ departures ∨ ∃ h, headway = some h ∧ ∃ k, h.first + k * h.every = d ∧ d ≤ h.last := by
  simp only [expandSchedule, List.mem_toArray, mem_dedupSorted, List.mem_mergeSort,
    List.mem_append]
  cases headway with
  | none => simp
  | some h => simp [mem_times_iff]

/-- Every route of a checked scenario has the schedule expanded from its listed departures and
its headway. -/
theorem Scenario.ofFile_schedule_eq {f : ScenarioFile} {s : Scenario}
    (h : Scenario.ofFile f = .ok s) :
    ∀ line ∈ s.lines, ∀ route ∈ line.routes,
      route.schedule = expandSchedule route.departures route.headway := by
  intro line hline route hroute
  obtain ⟨_, _, lines, -, -, -, -, -, hlines, rfl⟩ := Scenario.ofFile_eq_ok h
  -- the route is a route of the file with its schedule filled in
  obtain ⟨lineId, r, hr⟩ := resolveLines_routes hlines line hline route hroute
  obtain ⟨-, -, -, -, rfl⟩ := resolveRoute_eq_ok hr
  rfl

/-- Every route of a checked scenario has a strictly increasing schedule, which holds its
listed departures and the times `first + k·every` of its headway up to `last`, and nothing
else. -/
theorem Scenario.ofFile_schedule_exact {f : ScenarioFile} {s : Scenario}
    (h : Scenario.ofFile f = .ok s) :
    ∀ line ∈ s.lines, ∀ route ∈ line.routes,
      route.schedule.toList.Pairwise (· < ·) ∧
        ∀ d, d ∈ route.schedule ↔ d ∈ route.departures ∨
          ∃ hw, route.headway = some hw ∧ ∃ k, hw.first + k * hw.every = d ∧ d ≤ hw.last := by
  intro line hline route hroute
  rw [Scenario.ofFile_schedule_eq h line hline route hroute]
  exact ⟨expandSchedule_pairwise_lt _ _, mem_expandSchedule_iff _ _⟩

/-- Departures listed out of order and twice, and a headway whose times meet them: the route's
schedule is `[0, 3]`. -/
theorem Scenario.ofFile_schedule_exact_repeats :
    Scenario.ofFile ⟨"x", [⟨"a", ⟨0, 0⟩, ⟨1, 0⟩, none⟩], [⟨"s", "a", ⟨0, 0⟩⟩, ⟨"t", "a", ⟨1, 0⟩⟩],
        [⟨"l", [{ id := "r", stops := [⟨"s", 0, 0⟩, ⟨"t", 5, 5⟩], departures := [3, 0, 3],
                  headway := some ⟨0, 4, 3⟩ }]⟩]⟩ =
      .ok ⟨"x", [⟨"a", ⟨0, 0⟩, ⟨1, 0⟩, none⟩], ⟨[("a", 0)]⟩,
        [⟨"s", "a", ⟨0, 0⟩⟩, ⟨"t", "a", ⟨1, 0⟩⟩],
        [⟨"l", [{ id := "r", stops := [⟨"s", 0, 0⟩, ⟨"t", 5, 5⟩], departures := [3, 0, 3],
                  headway := some ⟨0, 4, 3⟩, stopIndices := [0, 1],
                  schedule := expandSchedule [3, 0, 3] (some ⟨0, 4, 3⟩) }]⟩]⟩ ∧
    ∀ line ∈ [(⟨"l", [{ id := "r", stops := [⟨"s", 0, 0⟩, ⟨"t", 5, 5⟩],
                        departures := [3, 0, 3], headway := some ⟨0, 4, 3⟩,
                        stopIndices := [0, 1],
                        schedule := expandSchedule [3, 0, 3] (some ⟨0, 4, 3⟩) }]⟩ : TransitLine)],
      ∀ route ∈ line.routes,
        route.schedule.toList.Pairwise (· < ·) ∧
          ∀ d, d ∈ route.schedule ↔ d ∈ route.departures ∨
            ∃ hw, route.headway = some hw ∧ ∃ k, hw.first + k * hw.every = d ∧ d ≤ hw.last := by
  refine ⟨?checked, Scenario.ofFile_schedule_exact ?checked⟩
  rfl

end TransitRouting
